import Sigmascope.Evaluate.Auditd

/-!
What the exec evaluator decides, in terms of the rules alone. Each early return
of `evaluateProcessCreation` becomes one property of the rule list, and the
verdict is characterised by these properties, so that later results never
unfold the evaluator again.
-/

namespace Sigmascope

set_option autoImplicit false

open Sigmascope.Library

theorem mem_exec_candidates {rules : List Rule} {rule : Rule} :
    rule ∈ execCandidates rules ↔ rule ∈ rules ∧ isCandidate rule = true :=
  List.mem_filter

theorem candidate_iff {rule : Rule} :
    isCandidate rule = true ↔
      rule.onList "exit" = true ∧ rule.effect = .included ∧ selectedSyscalls rule ≠ [] := by
  simp only [isCandidate, Bool.and_eq_true, beq_iff_eq, bne_iff_ne, and_assoc]

theorem mem_selected_syscalls {rule : Rule} {syscall : String} :
    syscall ∈ selectedSyscalls rule ↔
      syscall ∈ targetSyscalls ∧ ("all" ∈ rule.syscalls ∨ syscall ∈ rule.syscalls) := by
  unfold selectedSyscalls
  by_cases everything : "all" ∈ rule.syscalls
  · simp [everything]
  · simp [everything]

theorem mem_arches {rule : Rule} {arch : String} :
    arch ∈ arches rule ↔ ∃ predicate ∈ rule.predicates,
      predicate.field = "arch" ∧ predicate.op = .eq ∧ predicate.value = arch := by
  simp only [arches, Rule.predicatesOn, List.mem_map, List.mem_filter, beq_iff_eq, and_assoc]

theorem mem_required_pairs {pair : ArchSyscall} :
    pair ∈ requiredPairs ↔ pair.1 ∈ ["b64", "b32"] ∧ pair.2 ∈ targetSyscalls := by
  obtain ⟨arch, syscall⟩ := pair
  simp only [requiredPairs, List.mem_flatMap, List.mem_map, Prod.mk.injEq]
  constructor
  · intro given
    rcases given with ⟨first, inside, second, selected, rfl, rfl⟩
    exact ⟨by simpa [or_comm] using inside, selected⟩
  · intro given
    rcases given with ⟨inside, selected⟩
    exact ⟨arch, by simpa [or_comm] using inside, syscall, selected, rfl, rfl⟩

theorem mem_claimed_pairs {rule : Rule} {pair : ArchSyscall} :
    pair ∈ claimedPairs rule ↔
      restrictive rule = false ∧ pair.1 ∈ ["b64", "b32"] ∧ pair.1 ∈ arches rule ∧
        pair.2 ∈ selectedSyscalls rule := by
  obtain ⟨arch, syscall⟩ := pair
  unfold claimedPairs
  by_cases narrow : restrictive rule = true
  · simp [narrow]
  · simp only [narrow, Bool.false_eq_true, if_false, List.mem_flatMap, List.mem_filter,
      List.contains_iff_mem, List.mem_map, Prod.mk.injEq, true_and]
    constructor
    · intro given
      rcases given with ⟨first, ⟨inside, named⟩, second, selected, rfl, rfl⟩
      exact ⟨inside, named, selected⟩
    · intro given
      rcases given with ⟨inside, named, selected⟩
      exact ⟨arch, ⟨inside, named⟩, syscall, selected, rfl, rfl⟩

/-- The coverage dictionary holds, for each pair, the first candidate that claims it. -/
theorem exec_coverage_get (candidates : List Rule) (pair : ArchSyscall) :
    (execCoverage candidates).get? pair =
      candidates.find? fun rule => decide (pair ∈ claimedPairs rule) := by
  rw [execCoverage, Dict.get_claim_all, Dict.get_empty, Option.none_or]
  congr 1
  funext rule
  exact decide_eq_decide.mpr Iff.rfl

/-- No EXCLUDE rule stands on the task list or on the exclude list. -/
def Unsuppressed (rules : List Rule) : Prop :=
  ∀ rule ∈ rules, rule.effect = .excluded →
    rule.onList "task" = false ∧ rule.onList "exclude" = false

theorem task_suppressors_nil_iff (rules : List Rule) :
    taskSuppressors rules = [] ↔
      ∀ rule ∈ rules, rule.effect = .excluded → rule.onList "task" = false := by
  simp [taskSuppressors, List.filter_eq_nil_iff]

theorem suppression_none_iff (rules : List Rule) :
    suppression rules = none ↔ Unsuppressed rules := by
  have excludeFree : (rules.any fun rule => rule.effect == .excluded && rule.onList "exclude") =
      false ↔ ∀ rule ∈ rules, rule.effect = .excluded → rule.onList "exclude" = false := by
    simp [List.any_eq_false]
  have split : Unsuppressed rules ↔ taskSuppressors rules = [] ∧
      (rules.any fun rule => rule.effect == .excluded && rule.onList "exclude") = false := by
    rw [task_suppressors_nil_iff, excludeFree]
    exact ⟨fun free => ⟨fun rule member never => (free rule member never).1,
        fun rule member never => (free rule member never).2⟩,
      fun both rule member never => ⟨both.1 rule member never, both.2 rule member never⟩⟩
  rw [split]
  unfold suppression
  by_cases tasks : taskSuppressors rules = []
  · rw [tasks]
    by_cases excludes :
        (rules.any fun rule => rule.effect == .excluded && rule.onList "exclude") = true
    · simp [excludes]
    · simp only [Bool.not_eq_true] at excludes
      simp [excludes]
  · by_cases conditional : (taskSuppressors rules).any unconditional = true
    · simp [conditional, tasks]
    · simp [conditional, tasks]

theorem unsuppressed_no_task {rules : List Rule} (quiet : Unsuppressed rules) :
    taskSuppressors rules = [] := by
  rw [task_suppressors_nil_iff]
  intro rule member never
  exact (quiet rule member never).1

/-- A suppression is reported as NOT_COVERED or DEGRADED, never otherwise. -/
theorem suppression_verdict {rules : List Rule} {outcome : Verdict × String}
    (suppressed : suppression rules = some outcome) :
    outcome.1 = if (taskSuppressors rules).any unconditional then .notCovered else .degraded := by
  unfold suppression at suppressed
  split at suppressed
  · rename_i certain
    cases suppressed
    simp [certain]
  · rename_i uncertain
    rw [if_neg uncertain]
    split at suppressed
    · cases suppressed
      rfl
    · split at suppressed
      · cases suppressed
        rfl
      · cases suppressed

/-- A candidate covers a pair: it is unrestricted and names the architecture and the call. -/
def Covers (rules : List Rule) (pair : ArchSyscall) (rule : Rule) : Prop :=
  (execCandidates rules).find? (fun candidate => decide (pair ∈ claimedPairs candidate)) =
    some rule

theorem covers_claims {rules : List Rule} {pair : ArchSyscall} {rule : Rule}
    (covers : Covers rules pair rule) :
    rule ∈ rules ∧ isCandidate rule = true ∧ pair ∈ claimedPairs rule := by
  have member := mem_exec_candidates.mp (List.mem_of_find?_eq_some covers)
  have claims := List.find?_some covers
  simp only [decide_eq_true_eq] at claims
  exact ⟨member.1, member.2, claims⟩

/-- Every candidate of an x86-64 host names its architectures, each pair has a
covering rule and no never,exit rule is numbered before it. -/
structure X86Selection (rules : List Rule) : Prop where
  archGiven : ∀ rule ∈ execCandidates rules, arches rule ≠ []
  pairCovered : ∀ pair ∈ requiredPairs, ∃ rule, Covers rules pair rule ∧
    ∀ other ∈ rules, other.order < rule.order → exitRuleSuppresses other pair.1 pair.2 = false

theorem missing_pairs_nil_iff (rules : List Rule) :
    missingPairs (execCandidates rules) = [] ↔
      ∀ pair ∈ requiredPairs, ∃ rule, Covers rules pair rule := by
  simp only [missingPairs, List.filter_eq_nil_iff, Dict.contains, exec_coverage_get,
    Bool.not_eq_true', Bool.not_eq_false, Option.isSome_iff_exists, Covers]

theorem suppressed_earlier_false_iff (rules : List Rule) :
    suppressedEarlier rules (execCandidates rules) = false ↔
      ∀ pair rule, Covers rules pair rule → ∀ other ∈ rules, other.order < rule.order →
        exitRuleSuppresses other pair.1 pair.2 = false := by
  simp only [suppressedEarlier, List.any_eq_false, Bool.and_eq_true, decide_eq_true_eq, not_and,
    Bool.not_eq_true]
  constructor
  · intro clean pair rule covers other member before
    have item : (pair, rule) ∈ (execCoverage (execCandidates rules)).items := by
      rw [← Dict.get_eq_some_iff, exec_coverage_get]
      exact covers
    exact clean (pair, rule) item other member before
  · rintro clean ⟨pair, rule⟩ item other member before
    rw [← Dict.get_eq_some_iff, exec_coverage_get] at item
    exact clean pair rule item other member before

theorem x86_selection_iff (rules : List Rule) :
    X86Selection rules ↔
      ((execCandidates rules).any fun rule => (arches rule).isEmpty) = false ∧
        missingPairs (execCandidates rules) = [] ∧
          suppressedEarlier rules (execCandidates rules) = false := by
  rw [missing_pairs_nil_iff, suppressed_earlier_false_iff]
  simp only [List.any_eq_false, List.isEmpty_iff]
  constructor
  · intro selection
    refine ⟨selection.archGiven, ?_, ?_⟩
    · intro pair required
      obtain ⟨rule, covers, _⟩ := selection.pairCovered pair required
      exact ⟨rule, covers⟩
    · intro pair rule covers
      have claims := mem_claimed_pairs.mp (covers_claims covers).2.2
      have required : pair ∈ requiredPairs :=
        mem_required_pairs.mpr ⟨claims.2.1, (mem_selected_syscalls.mp claims.2.2.2).1⟩
      obtain ⟨first, coversFirst, clean⟩ := selection.pairCovered pair required
      have same : rule = first := Option.some.inj (covers.symm.trans coversFirst)
      exact same ▸ clean
  · intro given
    rcases given with ⟨archGiven, covered, clean⟩
    refine ⟨archGiven, ?_⟩
    intro pair required
    obtain ⟨rule, covers⟩ := covered pair required
    exact ⟨rule, covers, clean pair rule covers⟩

/-- No candidate of another host names an architecture, and every target call is
selected by an unrestricted candidate. -/
structure OtherSelection (rules : List Rule) : Prop where
  archFree : ∀ rule ∈ execCandidates rules, rule.predicatesOn "arch" = []
  selected : ∀ syscall ∈ targetSyscalls, ∃ rule ∈ execCandidates rules,
    restrictive rule = false ∧ syscall ∈ selectedSyscalls rule

theorem missing_syscalls_nil_iff (candidates : List Rule) :
    missingSyscalls candidates = [] ↔
      ∀ syscall ∈ targetSyscalls, ∃ rule ∈ candidates,
        restrictive rule = false ∧ syscall ∈ selectedSyscalls rule := by
  simp only [missingSyscalls, List.filter_eq_nil_iff, Bool.not_eq_true', Bool.not_eq_false,
    List.any_eq_true, Bool.and_eq_true, List.contains_iff_mem]

theorem other_selection_iff (rules : List Rule) :
    OtherSelection rules ↔
      ((execCandidates rules).any fun rule => rule.predicatesOn "arch" != []) = false ∧
        missingSyscalls (execCandidates rules) = [] := by
  rw [missing_syscalls_nil_iff]
  simp only [List.any_eq_false, bne_iff_ne, ne_eq, not_not]
  exact ⟨fun selection => ⟨selection.archFree, selection.selected⟩,
    fun both => ⟨both.1, both.2⟩⟩

/-- The selection that the branch for the given machine looks for. -/
def Selection (machineArch : String) (rules : List Rule) : Prop :=
  if isX86 machineArch = true then X86Selection rules else OtherSelection rules

theorem selection_candidates {machineArch : String} {rules : List Rule}
    (selection : Selection machineArch rules) : execCandidates rules ≠ [] := by
  unfold Selection at selection
  split at selection
  · obtain ⟨rule, covers, _⟩ := selection.pairCovered ("b64", "execve") (by decide)
    exact List.ne_nil_of_mem (List.mem_of_find?_eq_some covers)
  · obtain ⟨rule, member, _⟩ := selection.selected "execve" (by decide)
    exact List.ne_nil_of_mem member

/-- What is left of the evaluator once no rule suppresses events generally. -/
def evaluateSelection (rules : List Rule) (machineArch : String) : Verdict × String :=
  if isX86 machineArch then evaluateExecX86 rules (execCandidates rules)
  else evaluateExecOther (execCandidates rules) machineArch

theorem exec_verdict_no_candidates {parsed : ParseResult} (machineArch : String)
    (effective : parsed.determinacy = .effective) (idle : execCandidates parsed.rules = []) :
    (evaluateProcessCreation parsed machineArch).1 =
      if parsed.rules.any isNumericRule then .indeterminate else .notCovered := by
  simp only [evaluateProcessCreation, effective, idle, reduceCtorEq, if_false, if_true]
  split <;> rfl

theorem exec_verdict_suppressed {parsed : ParseResult} (machineArch : String)
    {outcome : Verdict × String} (effective : parsed.determinacy = .effective)
    (candidates : execCandidates parsed.rules ≠ [])
    (suppressed : suppression parsed.rules = some outcome) :
    evaluateProcessCreation parsed machineArch = outcome := by
  simp only [evaluateProcessCreation, effective, candidates, suppressed, reduceCtorEq, if_false]

theorem exec_verdict_selection {parsed : ParseResult} (machineArch : String)
    (effective : parsed.determinacy = .effective)
    (candidates : execCandidates parsed.rules ≠ [])
    (unsuppressed : Unsuppressed parsed.rules) :
    evaluateProcessCreation parsed machineArch = evaluateSelection parsed.rules machineArch := by
  have none := (suppression_none_iff parsed.rules).mpr unsuppressed
  simp only [evaluateProcessCreation, effective, candidates, none, reduceCtorEq, if_false,
    evaluateSelection]

theorem exec_x86_covered_iff (rules : List Rule) :
    (evaluateExecX86 rules (execCandidates rules)).1 = .covered ↔ X86Selection rules := by
  rw [x86_selection_iff]
  unfold evaluateExecX86
  by_cases bare : ((execCandidates rules).any fun rule => (arches rule).isEmpty) = true
  · simp [bare]
  · simp only [Bool.not_eq_true] at bare
    by_cases missing : missingPairs (execCandidates rules) = []
    · by_cases early : suppressedEarlier rules (execCandidates rules) = true
      · simp [bare, missing, early]
      · simp only [Bool.not_eq_true] at early
        simp [bare, missing, early]
    · simp [bare, missing]

theorem exec_other_covered_iff (rules : List Rule) (machineArch : String) :
    (evaluateExecOther (execCandidates rules) machineArch).1 = .covered ↔
      OtherSelection rules := by
  rw [other_selection_iff]
  unfold evaluateExecOther
  by_cases named : ((execCandidates rules).any fun rule => rule.predicatesOn "arch" != []) = true
  · simp [named]
  · simp only [Bool.not_eq_true] at named
    by_cases missing : missingSyscalls (execCandidates rules) = []
    · simp [named, missing]
    · simp [named, missing]

theorem evaluate_selection_covered_iff (rules : List Rule) (machineArch : String) :
    (evaluateSelection rules machineArch).1 = .covered ↔ Selection machineArch rules := by
  unfold evaluateSelection Selection
  split
  · exact exec_x86_covered_iff rules
  · exact exec_other_covered_iff rules machineArch

/-- The branches of the evaluator never report NOT_COVERED. -/
theorem evaluate_selection_ne_not_covered (rules : List Rule) (machineArch : String) :
    (evaluateSelection rules machineArch).1 ≠ .notCovered := by
  unfold evaluateSelection
  split
  · unfold evaluateExecX86
    split
    · simp
    · split
      · simp
      · split <;> simp
  · unfold evaluateExecOther
    split
    · simp
    · split <;> simp

/-- NOT_COVERED means that no rule is about exec, by name or by numbers alone, or that
tasks are not audited at all. -/
theorem exec_not_covered_iff {parsed : ParseResult} (machineArch : String)
    (effective : parsed.determinacy = .effective) :
    (evaluateProcessCreation parsed machineArch).1 = .notCovered ↔
      (execCandidates parsed.rules = [] ∧ parsed.rules.any isNumericRule = false) ∨
        (execCandidates parsed.rules ≠ [] ∧
          (taskSuppressors parsed.rules).any unconditional = true) := by
  by_cases idle : execCandidates parsed.rules = []
  · rw [exec_verdict_no_candidates machineArch effective idle]
    cases parsed.rules.any isNumericRule <;> simp [idle]
  · cases suppressed : suppression parsed.rules with
    | none =>
        have quiet := (suppression_none_iff parsed.rules).mp suppressed
        rw [exec_verdict_selection machineArch effective idle quiet]
        simp [evaluate_selection_ne_not_covered, idle, unsuppressed_no_task quiet]
    | some outcome =>
        rw [exec_verdict_suppressed machineArch effective idle suppressed,
          suppression_verdict suppressed]
        cases (taskSuppressors parsed.rules).any unconditional <;> simp [idle]

/-- COVERED means that nothing suppresses events generally and that the branch
for the machine finds its selection. -/
theorem exec_covered_iff {parsed : ParseResult} (machineArch : String)
    (effective : parsed.determinacy = .effective) :
    (evaluateProcessCreation parsed machineArch).1 = .covered ↔
      Unsuppressed parsed.rules ∧ Selection machineArch parsed.rules := by
  by_cases idle : execCandidates parsed.rules = []
  · rw [exec_verdict_no_candidates machineArch effective idle]
    constructor
    · split <;> simp
    · intro both
      exact absurd idle (selection_candidates both.2)
  · cases suppressed : suppression parsed.rules with
    | some outcome =>
        rw [exec_verdict_suppressed machineArch effective idle suppressed,
          suppression_verdict suppressed]
        constructor
        · split <;> simp
        · intro both
          rw [(suppression_none_iff parsed.rules).mpr both.1] at suppressed
          cases suppressed
    | none =>
        have unsuppressed := (suppression_none_iff parsed.rules).mp suppressed
        rw [exec_verdict_selection machineArch effective idle unsuppressed,
          evaluate_selection_covered_iff]
        exact ⟨fun selection => ⟨unsuppressed, selection⟩, fun both => both.2⟩

end Sigmascope
