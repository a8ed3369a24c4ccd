import Mathlib.Data.List.Nodup

/-!
Lists that are filled item by item, at their ends or at their heads. Each item goes to
the list of its key; the lists keep the order of the items exactly when an item that is
put at a head finds its list empty.
-/

namespace Sigmascope.Library

set_option autoImplicit false

variable {Item Key : Type*} [DecidableEq Key] (heads : Item → Bool) (key : Item → Key)

def insertItem (held : List Item) (item : Item) : List Item :=
  if heads item then item :: held else held ++ [item]

/-- One round of filling: the list of the item's key takes it up. -/
def fillItem (held : Key → List Item) (item : Item) : Key → List Item :=
  fun name => if key item = name then insertItem heads (held name) item else held name

def fill (items : List Item) : Key → List Item := items.foldl (fillItem heads key) fun _ => []

variable {heads key}

theorem insert_run (items held : List Item) :
    items.foldl (insertItem heads) held =
      (items.filter heads).reverse ++ held ++ items.filter fun item => !heads item := by
  induction items generalizing held with
  | nil => simp
  | cons item items induction =>
      rw [List.foldl_cons, induction, insertItem]
      cases head : heads item with
      | true => simp [head]
      | false => simp [head]

theorem fill_run (items : List Item) (held : Key → List Item) (name : Key) :
    items.foldl (fillItem heads key) held name =
      (items.filter fun item => key item = name).foldl (insertItem heads) (held name) := by
  induction items generalizing held with
  | nil => rfl
  | cons item items induction =>
      rw [List.foldl_cons, induction, List.filter_cons, fillItem]
      by_cases own : key item = name
      · simp only [own, decide_true, if_true, List.foldl_cons]
      · simp only [own, decide_false, if_false, Bool.false_eq_true]

/-- Only the first item of a list can be put at the head without a change of order. -/
theorem insert_in_order_iff {items : List Item} (distinct : items.Nodup) :
    items.foldl (insertItem heads) [] = items ↔
      items.Pairwise fun _ later => heads later = false := by
  cases items with
  | nil => simp
  | cons first rest =>
      rw [insert_run, List.append_nil, List.pairwise_cons]
      constructor
      · intro inOrder
        have quiet : rest.filter heads = [] := by
          by_contra moved
          -- the item that was put at the head last now leads the list
          have leading : (rest.filter heads).getLast moved = first := by
            have leader := congrArg List.head? inOrder
            rw [List.head?_append, List.head?_reverse, List.filter_cons] at leader
            have last : (rest.filter heads).getLast? =
                some ((rest.filter heads).getLast moved) := List.getLast?_eq_some_getLast moved
            split at leader
            · rw [List.getLast?_cons, last] at leader
              exact Option.some.inj leader
            · rw [last] at leader
              exact Option.some.inj leader
          have inside := (List.mem_filter.mp (List.getLast_mem moved)).1
          rw [leading] at inside
          exact (List.nodup_cons.mp distinct).1 inside
        have noHeads : ∀ item ∈ rest, heads item = false := by
          intro item member
          by_contra head
          rw [Bool.not_eq_false] at head
          exact List.not_mem_nil (quiet ▸ List.mem_filter.mpr ⟨member, head⟩)
        refine ⟨noHeads, ?_⟩
        rw [List.pairwise_iff_forall_sublist]
        intro earlier later inOrder
        exact noHeads later (inOrder.subset (List.mem_cons_of_mem _ List.mem_cons_self))
      · intro given
        have quiet : rest.filter heads = [] := by
          rw [List.filter_eq_nil_iff]
          intro item member
          rw [given.1 item member]
          exact Bool.false_ne_true
        have others : rest.filter (fun item => !heads item) = rest := by
          rw [List.filter_eq_self]
          intro item member
          rw [given.1 item member]
          rfl
        rw [List.filter_cons, List.filter_cons, quiet, others]
        cases heads first with
        | true => rfl
        | false => rfl

theorem fill_in_order_iff {items : List Item} (distinct : items.Nodup) :
    (∀ name, fill heads key items name = items.filter fun item => key item = name) ↔
      items.Pairwise fun earlier later => heads later = true → key earlier ≠ key later := by
  have each : ∀ name, (fill heads key items name = items.filter fun item => key item = name) ↔
      items.Pairwise fun earlier later =>
        key earlier = name → key later = name → heads later = false := by
    intro name
    rw [fill, fill_run, insert_in_order_iff (distinct.filter _), List.pairwise_filter]
    simp only [decide_eq_true_eq]
  simp only [each]
  constructor
  · intro kept
    rw [List.pairwise_iff_forall_sublist]
    intro earlier later inOrder head same
    have apart := List.pairwise_iff_forall_sublist.mp (kept (key earlier)) inOrder rfl same.symm
    rw [head] at apart
    cases apart
  · intro given name
    apply given.imp
    intro earlier later apart own same
    by_contra head
    rw [Bool.not_eq_false] at head
    exact apart head (own.trans same.symm)

end Sigmascope.Library
