import Mathlib.Data.List.Nodup
import Mathlib.Data.List.Perm.Basic

/-!
A list that grows by what it does not hold yet. It holds every value once, so its
length is the number of distinct values, however they were presented.
-/

namespace Sigmascope.Library

set_option autoImplicit false

variable {Value : Type*} [DecidableEq Value]

def addAbsent (found : List Value) (value : Value) : List Value :=
  if value ∈ found then found else found ++ [value]

def gather (values : List Value) : List Value := values.foldl addAbsent []

theorem mem_add_absent (found : List Value) (value other : Value) :
    other ∈ addAbsent found value ↔ other ∈ found ∨ other = value := by
  unfold addAbsent
  by_cases held : value ∈ found
  · rw [if_pos held]
    constructor
    · exact Or.inl
    · intro either
      rcases either with old | same
      · exact old
      · rwa [same]
  · rw [if_neg held, List.mem_append, List.mem_singleton]

theorem nodup_add_absent {found : List Value} (distinct : found.Nodup) (value : Value) :
    (addAbsent found value).Nodup := by
  unfold addAbsent
  by_cases held : value ∈ found
  · rwa [if_pos held]
  · rw [if_neg held, ← List.concat_eq_append]
    exact distinct.concat held

theorem mem_fold_absent (values found : List Value) (other : Value) :
    other ∈ values.foldl addAbsent found ↔ other ∈ found ∨ other ∈ values := by
  induction values generalizing found with
  | nil => simp
  | cons value values induction =>
      rw [List.foldl_cons, induction, mem_add_absent, List.mem_cons, or_assoc]

theorem nodup_fold_absent (values : List Value) {found : List Value} (distinct : found.Nodup) :
    (values.foldl addAbsent found).Nodup := by
  induction values generalizing found with
  | nil => exact distinct
  | cons value values induction => exact induction (nodup_add_absent distinct value)

theorem mem_gather {values : List Value} {value : Value} :
    value ∈ gather values ↔ value ∈ values := by
  rw [gather, mem_fold_absent]
  simp

theorem nodup_gather (values : List Value) : (gather values).Nodup :=
  nodup_fold_absent values List.nodup_nil

/-- Values that are the same but for order and repetition are as many. -/
theorem length_gather_congr {first second : List Value}
    (same : ∀ value, value ∈ first ↔ value ∈ second) :
    (gather first).length = (gather second).length := by
  have permuted : (gather first).Perm (gather second) := by
    apply (List.perm_ext_iff_of_nodup (nodup_gather first) (nodup_gather second)).mpr
    intro value
    rw [mem_gather, mem_gather]
    exact same value
  exact permuted.length_eq

end Sigmascope.Library
