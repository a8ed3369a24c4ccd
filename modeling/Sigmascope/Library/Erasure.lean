import Mathlib.Data.List.Basic

/-!
Lists whose items agree up to a part that is erased. A question that does not look at
the erased part gets the same answers from both.
-/

namespace Sigmascope.Library

set_option autoImplicit false

variable {Item : Type*}

/-- The same items in the same order, up to what `erase` takes away. -/
def SameUpTo (erase : Item → Item) (before after : List Item) : Prop :=
  before.map erase = after.map erase

/-- The question does not look at what is erased. -/
def BlindTo {Answer : Type*} (erase : Item → Item) (select : Item → Answer) : Prop :=
  ∀ item, select (erase item) = select item

section Same

variable {erase : Item → Item} {before after : List Item} (same : SameUpTo erase before after)
include same

theorem same_append {first second : List Item} (more : SameUpTo erase first second) :
    SameUpTo erase (before ++ first) (after ++ second) := by
  rw [SameUpTo, List.map_append, List.map_append, same, more]

theorem same_map {Answer : Type*} {select : Item → Answer} (blind : BlindTo erase select) :
    before.map select = after.map select := by
  have pulled : ∀ items : List Item, items.map select = (items.map erase).map select := by
    intro items
    rw [List.map_map]
    congr 1
    funext item
    exact (blind item).symm
  rw [pulled before, pulled after, same]

theorem same_any {select : Item → Bool} (blind : BlindTo erase select) :
    before.any select = after.any select := by
  have answers := congrArg (fun answers => answers.any id) (same_map same blind)
  simpa only [List.any_map, Function.id_comp] using answers

theorem same_take_while {select : Item → Bool} (blind : BlindTo erase select) :
    SameUpTo erase (before.takeWhile select) (after.takeWhile select) := by
  have pushed : ∀ items : List Item,
      (items.takeWhile select).map erase = (items.map erase).takeWhile select := by
    intro items
    rw [List.takeWhile_map]
    congr 2
    funext item
    exact (blind item).symm
  rw [SameUpTo, pushed before, pushed after, same]

theorem same_coarser {coarser : Item → Item} (blind : BlindTo erase coarser) :
    SameUpTo coarser before after :=
  same_map same blind

end Same

end Sigmascope.Library
