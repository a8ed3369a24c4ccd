import Sigmascope.Library.Erasure

/-!
Whether an item of one kind stands before the first item of another kind. Inside a
stretch of a list that lacks one of the two kinds, the places of the items of the other
kind do not matter.
-/

namespace Sigmascope.Library

set_option autoImplicit false

variable {Item : Type*} (early late : Item → Bool)

/-- There is a late item, and an early item in front of the first one. -/
def standsBefore (items : List Item) : Bool :=
  items.any late && (items.takeWhile fun item => !late item).any early

theorem stands_before_cons (item : Item) (items : List Item) :
    standsBefore early late (item :: items) =
      (!late item && ((early item && items.any late) || standsBefore early late items)) := by
  rw [standsBefore, standsBefore, List.any_cons, List.takeWhile_cons]
  cases late item with
  | true => simp
  | false =>
      rw [Bool.not_false, if_pos rfl, List.any_cons, Bool.false_or, Bool.true_and,
        Bool.and_or_distrib_left, Bool.and_comm (items.any late) (early item)]

variable {early late}

theorem stands_before_same {erase : Item → Item} {before after : List Item}
    (same : SameUpTo erase before after) (blindEarly : BlindTo erase early)
    (blindLate : BlindTo erase late) :
    standsBefore early late before = standsBefore early late after := by
  have blindFront : BlindTo erase fun item => !late item := by
    intro item
    exact congrArg not (blindLate item)
  have front := same_take_while same blindFront
  rw [standsBefore, standsBefore, same_any same blindLate, same_any front blindEarly]

/-- A stretch without late items counts by whether it has an early one. -/
theorem stands_before_no_late {middle : List Item} (noLate : middle.any late = false)
    (back : List Item) :
    standsBefore early late (middle ++ back) =
      ((middle.any early && back.any late) || standsBefore early late back) := by
  induction middle with
  | nil => simp
  | cons item middle induction =>
      rw [List.any_cons, Bool.or_eq_false_iff] at noLate
      rw [List.cons_append, stands_before_cons, induction noLate.2, List.any_append, noLate.1,
        noLate.2, List.any_cons]
      cases early item <;> cases back.any late <;> simp

/-- A stretch without early items counts by whether it has a late one. -/
theorem stands_before_no_early {middle : List Item} (noEarly : middle.any early = false)
    (back : List Item) :
    standsBefore early late (middle ++ back) =
      (!middle.any late && standsBefore early late back) := by
  induction middle with
  | nil => simp
  | cons item middle induction =>
      rw [List.any_cons, Bool.or_eq_false_iff] at noEarly
      rw [List.cons_append, stands_before_cons, induction noEarly.2, noEarly.1, List.any_cons]
      cases late item <;> simp

/-- What stands in front of two lists that answer alike makes no difference. -/
theorem stands_before_front {first second : List Item} (front : List Item)
    (lates : first.any late = second.any late)
    (alike : standsBefore early late first = standsBefore early late second) :
    standsBefore early late (front ++ first) = standsBefore early late (front ++ second) := by
  induction front with
  | nil => exact alike
  | cons item front induction =>
      rw [List.cons_append, List.cons_append, stands_before_cons, stands_before_cons, induction,
        List.any_append, List.any_append, lates]

/-- An item that is not late, put anywhere into the list, takes nothing away. -/
theorem stands_before_insert {item : Item} (notLate : late item = false) (front back : List Item)
    (stands : standsBefore early late (front ++ back) = true) :
    standsBefore early late (front ++ item :: back) = true := by
  induction front with
  | nil =>
      rw [List.nil_append] at stands ⊢
      rw [stands_before_cons, notLate, stands, Bool.or_true]
      rfl
  | cons first front induction =>
      have lates : (front ++ item :: back).any late = (front ++ back).any late := by
        simp [notLate]
      rw [List.cons_append, stands_before_cons, Bool.and_eq_true, Bool.or_eq_true] at stands ⊢
      rw [lates]
      obtain ⟨early, either⟩ := stands
      exact ⟨early, either.imp_right induction⟩

/-- What stands behind the last late item is not looked at. -/
theorem stands_before_behind {back : List Item} (noLate : back.any late = false)
    (front : List Item) :
    standsBefore early late (front ++ back) = standsBefore early late front := by
  induction front with
  | nil => simp [standsBefore, noLate]
  | cons item front induction =>
      rw [List.cons_append, stands_before_cons, stands_before_cons, induction, List.any_append,
        noLate, Bool.or_false]

/-- Two stretches with the same kinds of items can stand for each other, when one of the two
kinds is missing from both. -/
theorem stands_before_stretch {first second : List Item} (front back : List Item)
    (earlies : first.any early = second.any early) (lates : first.any late = second.any late)
    (lacking : first.any early = false ∨ first.any late = false) :
    standsBefore early late (front ++ (first ++ back)) =
      standsBefore early late (front ++ (second ++ back)) := by
  apply stands_before_front
  · rw [List.any_append, List.any_append, lates]
  · rcases lacking with noEarly | noLate
    · rw [stands_before_no_early noEarly, stands_before_no_early (earlies ▸ noEarly), lates]
    · rw [stands_before_no_late noLate, stands_before_no_late (lates ▸ noLate), earlies]

end Sigmascope.Library
