import Sigmascope.Evaluate.AuditdCoverage
import Sigmascope.Library.Distinct

/-!
What the file-watch evaluator decides, in terms of the rules alone. The
accumulated target list holds each audited value once, whatever the order in
which the rules present it.
-/

namespace Sigmascope

set_option autoImplicit false

open Sigmascope.Library

/-- The rule contributes a target of the given value. -/
def Targets (rule : Rule) (target : String) : Prop :=
  rule.effect = .included ∧ watchesChanges rule = true ∧
    ∃ predicate ∈ rule.predicates, isWatchTarget predicate = true ∧ predicate.value = target

/-- The values that one rule presents, with repetitions. -/
def targetValues (rule : Rule) : List String :=
  if rule.effect = .included ∧ watchesChanges rule = true then
    (rule.predicates.filter isWatchTarget).map Predicate.value
  else []

theorem add_targets_eq (targets : List String) (rule : Rule) :
    addTargets targets rule = (targetValues rule).foldl addAbsent targets := by
  unfold addTargets targetValues
  by_cases watching : rule.effect = .included ∧ watchesChanges rule = true
  · rw [if_pos watching, if_pos watching, List.foldl_map, List.foldl_filter]
    congr 1
    funext found item
    cases target : isWatchTarget item with
    | false => rfl
    | true =>
        by_cases held : item.value ∈ found
        · simp [addAbsent, held]
        · simp [addAbsent, held]
  · rw [if_neg watching, if_neg watching, List.foldl_nil]

theorem watch_targets_eq (rules : List Rule) :
    watchTargets rules = gather (rules.flatMap targetValues) := by
  rw [watchTargets, gather, List.foldl_flatMap]
  congr 1
  funext targets rule
  exact add_targets_eq targets rule

theorem mem_target_values {rule : Rule} {target : String} :
    target ∈ targetValues rule ↔ Targets rule target := by
  unfold targetValues Targets
  by_cases watching : rule.effect = .included ∧ watchesChanges rule = true
  · rw [if_pos watching]
    simp only [List.mem_map, List.mem_filter, watching.1, watching.2, true_and, and_assoc]
  · rw [if_neg watching]
    constructor
    · intro member
      cases member
    · intro given
      exact absurd ⟨given.1, given.2.1⟩ watching

theorem mem_watch_targets (rules : List Rule) (target : String) :
    target ∈ watchTargets rules ↔ ∃ rule ∈ rules, Targets rule target := by
  rw [watch_targets_eq, mem_gather, List.mem_flatMap]
  simp only [mem_target_values]

theorem watch_targets_nil_iff (rules : List Rule) :
    watchTargets rules = [] ↔ ∀ rule ∈ rules, ∀ target, ¬Targets rule target := by
  rw [List.eq_nil_iff_forall_not_mem]
  simp only [mem_watch_targets]
  push Not
  exact ⟨fun none rule member target => none target rule member,
    fun none target rule member => none rule member target⟩

/-- A file watch is NOT_COVERED without a target or under an unconditional task
suppressor, and DEGRADED otherwise. -/
theorem file_watch_verdict {parsed : ParseResult} (effective : parsed.determinacy = .effective) :
    (evaluateFileWatch parsed).1 =
      if watchTargets parsed.rules = [] ∨
          (taskSuppressors parsed.rules).any unconditional = true then .notCovered
      else .degraded := by
  by_cases idle : watchTargets parsed.rules = []
  · simp only [evaluateFileWatch, effective, idle, reduceCtorEq, if_false, if_true, true_or]
  · simp only [evaluateFileWatch, effective, idle, reduceCtorEq, if_false, false_or]
    cases suppressed : suppression parsed.rules with
    | none =>
        have quiet := (suppression_none_iff parsed.rules).mp suppressed
        simp [unsuppressed_no_task quiet]
    | some outcome =>
        obtain ⟨verdict, explanation⟩ := outcome
        have reported := suppression_verdict suppressed
        by_cases certain : (taskSuppressors parsed.rules).any unconditional = true
        · simp only [certain, if_true] at reported
          subst verdict
          simp [certain]
        · simp only [certain, Bool.false_eq_true, if_false] at reported
          subst verdict
          simp [certain]

end Sigmascope
