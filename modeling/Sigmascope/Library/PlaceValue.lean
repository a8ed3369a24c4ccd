import Mathlib.Data.Nat.Digits.Lemmas

/-!
Numbers as digits of a fixed width, most significant first. Writing and reading undo
each other below the power of the base, and two digits of a base are one digit of its
square.
-/

namespace Sigmascope.Library

set_option autoImplicit false

/-- The last places of a number. -/
def places (base width value : Nat) : List Nat :=
  (List.range width).reverse.map fun place => value / base ^ place % base

def placeValue (base : Nat) (digits : List Nat) : Nat := Nat.ofDigits base digits.reverse

variable {base : Nat}

@[simp] theorem length_places (width value : Nat) : (places base width value).length = width := by
  rw [places, List.length_map, List.length_reverse, List.length_range]

theorem places_succ (width value : Nat) :
    places base (width + 1) value = places base width (value / base) ++ [value % base] := by
  unfold places
  rw [List.range_succ_eq_map, List.reverse_cons, List.map_append, ← List.map_reverse,
    List.map_map, List.map_singleton, pow_zero, Nat.div_one]
  congr 1
  apply List.map_congr_left
  intro place _
  rw [Function.comp_apply, Nat.pow_succ', Nat.div_div_eq_div_mul]

theorem places_lt (positive : 0 < base) {width value digit : Nat}
    (member : digit ∈ places base width value) : digit < base := by
  obtain ⟨place, _, rfl⟩ := List.mem_map.mp member
  exact Nat.mod_lt _ positive

theorem place_value_snoc (digits : List Nat) (digit : Nat) :
    placeValue base (digits ++ [digit]) = digit + base * placeValue base digits := by
  rw [placeValue, List.reverse_append, List.reverse_singleton, List.singleton_append,
    Nat.ofDigits_cons, placeValue]

theorem place_value_lt (large : 1 < base) {digits : List Nat}
    (small : ∀ digit ∈ digits, digit < base) : placeValue base digits < base ^ digits.length := by
  rw [← List.length_reverse]
  apply Nat.ofDigits_lt_base_pow_length large
  intro digit member
  exact small digit (List.mem_reverse.mp member)

/-- Written out at its own width, a number gives its digits back. -/
theorem places_place_value (positive : 0 < base) {digits : List Nat}
    (small : ∀ digit ∈ digits, digit < base) :
    places base digits.length (placeValue base digits) = digits := by
  induction digits using List.reverseRecOn with
  | nil => rfl
  | append_singleton front last induction =>
      have lastSmall : last < base := small last (List.mem_append_right _ List.mem_cons_self)
      have rest := induction fun digit member => small digit (List.mem_append_left _ member)
      rw [List.length_append, List.length_singleton, places_succ, place_value_snoc,
        Nat.add_mul_div_left _ _ positive, Nat.div_eq_of_lt lastSmall, Nat.zero_add, rest,
        Nat.add_mul_mod_self_left, Nat.mod_eq_of_lt lastSmall]

theorem place_value_places (width value : Nat) :
    placeValue base (places base width value) = value % base ^ width := by
  induction width generalizing value with
  | zero => rw [pow_zero, Nat.mod_one]; rfl
  | succ width induction =>
      rw [places_succ, place_value_snoc, induction, Nat.pow_succ', Nat.mod_mul]

theorem places_pair (value : Nat) :
    places base 2 value = [value / base % base, value % base] := by
  rw [places_succ, places_succ]
  rfl

/-- Each digit of a square base is two digits of the base. -/
theorem places_square (width value : Nat) :
    (places (base * base) width value).flatMap (places base 2) = places base (2 * width) value := by
  induction width generalizing value with
  | zero => rfl
  | succ width induction =>
      have last : places base 2 (value % (base * base)) =
          [value / base % base, value % base] := by
        rw [places_pair, Nat.mod_mul_right_div_self, Nat.mod_mod, Nat.mod_mul_right_mod]
      rw [places_succ, List.flatMap_append, induction, List.flatMap_singleton, last, Nat.mul_succ,
        places_succ, places_succ, Nat.div_div_eq_div_mul, List.append_assoc]
      rfl

end Sigmascope.Library
