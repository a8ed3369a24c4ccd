import Mathlib.Order.Bounds.Basic
import Mathlib.Data.List.Basic

/-!
The first greatest element of a non-empty list under a key, as `max` with a key
function selects it.
-/

namespace Sigmascope.Library

set_option autoImplicit false

variable {Item Key : Type*} [LinearOrder Key]

def firstMaximum (key : Item → Key) : Item → List Item → Item
  | best, [] => best
  | best, item :: items =>
      firstMaximum key (if key best < key item then item else best) items

theorem first_maximum_mem (key : Item → Key) (best : Item) (items : List Item) :
    firstMaximum key best items ∈ best :: items := by
  induction items generalizing best with
  | nil => simp [firstMaximum]
  | cons item items induction =>
      rw [firstMaximum]
      by_cases below : key best < key item
      · rw [if_pos below]
        exact List.mem_cons_of_mem _ (induction item)
      · rw [if_neg below]
        rcases List.mem_cons.mp (induction best) with same | later
        · rw [same]
          exact List.mem_cons_self
        · exact List.mem_cons_of_mem _ (List.mem_cons_of_mem _ later)

theorem le_first_maximum (key : Item → Key) (best : Item) (items : List Item) :
    ∀ item ∈ best :: items, key item ≤ key (firstMaximum key best items) := by
  induction items generalizing best with
  | nil => simp [firstMaximum]
  | cons next items induction =>
      intro item member
      have chosen := induction (if key best < key next then next else best)
      have top := chosen _ List.mem_cons_self
      rw [firstMaximum]
      rcases List.mem_cons.mp member with rfl | later
      · refine le_trans ?_ top
        split
        · rename_i below
          exact le_of_lt below
        · exact le_refl _
      · rcases List.mem_cons.mp later with rfl | rest
        · refine le_trans ?_ top
          split
          · exact le_refl _
          · rename_i notBelow
            exact le_of_not_gt notBelow
        · exact chosen item (List.mem_cons_of_mem _ rest)

theorem first_maximum_greatest (key : Item → Key) (best : Item) (items : List Item) :
    IsGreatest {value | value ∈ (best :: items).map key} (key (firstMaximum key best items)) := by
  constructor
  · exact List.mem_map.mpr ⟨_, first_maximum_mem key best items, rfl⟩
  · intro value member
    obtain ⟨item, inside, rfl⟩ := List.mem_map.mp member
    exact le_first_maximum key best items item inside

/-- Among the items with the greatest key it is the first one. -/
theorem first_maximum_first (key : Item → Key) (best : Item) (items : List Item) :
    (best :: items).find? (fun item => decide (key (firstMaximum key best items) ≤ key item)) =
      some (firstMaximum key best items) := by
  induction items generalizing best with
  | nil => simp [firstMaximum]
  | cons next items induction =>
      have chosen := induction (if key best < key next then next else best)
      rw [firstMaximum]
      by_cases below : key best < key next
      · rw [if_pos below] at chosen ⊢
        have top := le_first_maximum key next items next List.mem_cons_self
        have passed : ¬key (firstMaximum key next items) ≤ key best :=
          not_le_of_gt (lt_of_lt_of_le below top)
        rw [List.find?_cons_of_neg (by simpa using passed), chosen]
      · rw [if_neg below] at chosen ⊢
        by_cases reached : key (firstMaximum key best items) ≤ key best
        · rw [List.find?_cons_of_pos (by simpa using reached)] at chosen ⊢
          exact chosen
        · have passed : ¬key (firstMaximum key best items) ≤ key next := by
            intro high
            exact below (lt_of_lt_of_le (not_le.mp reached) high)
          rw [List.find?_cons_of_neg (by simpa using reached)] at chosen ⊢
          rw [List.find?_cons_of_neg (by simpa using passed), chosen]

/-- Lists of related items with the same keys have related first maxima. -/
theorem first_maximum_related {Other : Type*} {relation : Item → Other → Prop}
    {key : Item → Key} {otherKey : Other → Key}
    (same : ∀ item other, relation item other → key item = otherKey other)
    {best : Item} {otherBest : Other} (related : relation best otherBest)
    {items : List Item} {others : List Other} (rest : List.Forall₂ relation items others) :
    relation (firstMaximum key best items) (firstMaximum otherKey otherBest others) := by
  induction rest generalizing best otherBest with
  | nil => exact related
  | cons next _ induction =>
      rw [firstMaximum, firstMaximum, same _ _ related, same _ _ next]
      split
      · exact induction next
      · exact induction related

end Sigmascope.Library
