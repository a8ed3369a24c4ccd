import Sigmascope.Evaluate.ExitFilter
import Sigmascope.Evaluate.FileWatch
import Sigmascope.Parse.AuditdRules
import Sigmascope.Library.PyText

/-!
The number of targets in the file-watch explanation. It depends on the rules that
occur and not on their order, and it counts fields and values: operators and filter
lists, which the kernel does look at, are not considered.
-/

namespace Sigmascope

set_option autoImplicit false

open Sigmascope.Library Sigmascope.Library.PyText

section Members

variable {before after : List Rule} (same : ∀ rule, rule ∈ after ↔ rule ∈ before)
include same

theorem any_same_members (select : Rule → Bool) : after.any select = before.any select := by
  rw [Bool.eq_iff_iff, List.any_eq_true, List.any_eq_true]
  simp only [same]

theorem suppression_same_members : suppression after = suppression before := by
  have member : ∀ rule, rule ∈ taskSuppressors after ↔ rule ∈ taskSuppressors before := by
    intro rule
    rw [taskSuppressors, taskSuppressors, List.mem_filter, List.mem_filter, same]
  have sure := any_same_members member unconditional
  have idle : taskSuppressors after = [] ↔ taskSuppressors before = [] := by
    simp only [List.eq_nil_iff_forall_not_mem, member]
  have excludes := any_same_members same
    fun rule => rule.effect == .excluded && rule.onList "exclude"
  simp only [suppression, sure, ne_eq, idle, excludes]

theorem watch_targets_same_members :
    (watchTargets after).length = (watchTargets before).length := by
  rw [watch_targets_eq, watch_targets_eq]
  apply length_gather_congr
  intro target
  simp only [List.mem_flatMap, same]

end Members

/-- A listing with the same rules, in any order and however often, gets the same verdict and
the same explanation. -/
theorem file_watch_rearranged (parsed : ParseResult) (rules : List Rule)
    (same : ∀ rule, rule ∈ rules ↔ rule ∈ parsed.rules) :
    evaluateFileWatch { parsed with rules := rules } = evaluateFileWatch parsed := by
  have count := watch_targets_same_members same
  have idle : watchTargets rules = [] ↔ watchTargets parsed.rules = [] := by
    rw [← List.length_eq_zero_iff, count, List.length_eq_zero_iff]
  have never := any_same_members same isNeverExit
  simp only [evaluateFileWatch, idle, count, suppression_same_members same, never]

/-- Two watches and a task suppressor. -/
def watchedTwice : ParseResult where
  determinacy := .effective
  rules :=
    [listedRule .included "exit" ∅ [⟨"path", .eq, "/etc/passwd"⟩, ⟨"perm", .eq, "wa"⟩] 1,
      listedRule .included "exit" ∅ [⟨"dir", .eq, "/etc"⟩, ⟨"perm", .eq, "wa"⟩] 2,
      listedRule .excluded "task" ∅ [⟨"uid", .eq, "0"⟩] 3]

theorem file_watch_rearranged_twice :
    evaluateFileWatch
        { watchedTwice with rules := watchedTwice.rules.reverse ++ watchedTwice.rules } =
      evaluateFileWatch watchedTwice :=
  file_watch_rearranged watchedTwice (watchedTwice.rules.reverse ++ watchedTwice.rules)
    (by simp [or_self])

/-- The explanation says that there are so many targets. -/
def ReportsTargets (explanation : String) (count : Nat) : Prop :=
  ∃ notes, explanation = " ".intercalate
    (("auditd file monitoring is path-scoped (" ++ toString count ++
      " target(s)); generic file_event coverage is not global.") :: notes)

theorem reports_targets_text {explanation : String} {count : Nat}
    (reports : ReportsTargets explanation count) :
    ∃ rest : Text, explanation.toList =
      "auditd file monitoring is path-scoped (".toList ++
        ((toString count).toList ++ ' ' :: rest) := by
  obtain ⟨notes, rfl⟩ := reports
  have front : "auditd file monitoring is path-scoped (" ++ toString count ++
        " target(s)); generic file_event coverage is not global." =
      "auditd file monitoring is path-scoped (" ++
        (toString count ++ (" " ++ "target(s)); generic file_event coverage is not global.")) := by
    rw [String.append_assoc]
    rfl
  rw [front, String.intercalate_cons_append, String.intercalate_cons_append,
    String.intercalate_cons_append]
  simp only [String.toList_append]
  exact ⟨_, rfl⟩

/-- An explanation gives one number only. -/
theorem reports_targets_unique {explanation : String} {first second : Nat}
    (reportsFirst : ReportsTargets explanation first)
    (reportsSecond : ReportsTargets explanation second) : first = second := by
  obtain ⟨firstRest, firstText⟩ := reports_targets_text reportsFirst
  obtain ⟨secondRest, secondText⟩ := reports_targets_text reportsSecond
  have tails := List.append_cancel_left (firstText.symm.trans secondText)
  have noSpace : ∀ number : Nat, ' ' ∉ (toString number).toList := by
    intro number member
    exact absurd (number_solid number ' ' member) (by decide)
  have parts := congrArg (partition ' ') tails
  rw [partition_at (noSpace first), partition_at (noSpace second)] at parts
  exact number_injective (String.toList_inj.mp (congrArg Prod.fst parts))

/-- A perm predicate that asks for write and attribute changes. -/
def asksForChanges (predicate : Predicate) : Bool :=
  predicate.field == "perm" && predicate.op == .eq &&
    (predicate.value.toList.contains 'w' && predicate.value.toList.contains 'a')

/-- The targets of a rule that is positive throughout: on the exit list, with an equation for
the permissions, and as far as its targets are equations. -/
def positiveValues (rule : Rule) : List String :=
  if rule.effect = .included ∧ rule.onList "exit" = true ∧
      rule.predicates.any asksForChanges = true then
    (rule.predicates.filter fun item => isWatchTarget item && item.op == .eq).map Predicate.value
  else []

def positiveTargets (rules : List Rule) : List String := (rules.flatMap positiveValues).dedup

/-- A listing that is reported as watched has a positive target, and the report counts the
positive targets. -/
structure CountsPositive (parsed : ParseResult) : Prop where
  watched : (evaluateFileWatch parsed).1 = .degraded →
    ∃ rule ∈ parsed.rules, positiveValues rule ≠ []
  counted : (evaluateFileWatch parsed).1 = .degraded →
    ReportsTargets (evaluateFileWatch parsed).2 (positiveTargets parsed.rules).length

theorem positive_values_target {rule : Rule} {target : String}
    (positive : target ∈ positiveValues rule) : Targets rule target := by
  unfold positiveValues at positive
  by_cases audits : rule.effect = .included ∧ rule.onList "exit" = true ∧
      rule.predicates.any asksForChanges = true
  · rw [if_pos audits, List.mem_map] at positive
    obtain ⟨predicate, member, value⟩ := positive
    rw [List.mem_filter, Bool.and_eq_true] at member
    obtain ⟨permissions, inside, asks⟩ := List.any_eq_true.mp audits.2.2
    simp only [asksForChanges, Bool.and_eq_true] at asks
    refine ⟨audits.1, ?_, predicate, member.1, member.2.1, value⟩
    rw [watchesChanges, List.any_eq_true]
    refine ⟨permissions, List.mem_filter.mpr ⟨inside, asks.1.1⟩, ?_⟩
    rw [asks.2.1, asks.2.2]
    rfl
  · rw [if_neg audits] at positive
    cases positive

theorem positive_targets_subset (rules : List Rule) :
    positiveTargets rules ⊆ watchTargets rules := by
  intro target member
  rw [positiveTargets, List.mem_dedup, List.mem_flatMap] at member
  obtain ⟨rule, inside, positive⟩ := member
  exact (mem_watch_targets rules target).mpr ⟨rule, inside, positive_values_target positive⟩

theorem watch_targets_nodup (rules : List Rule) : (watchTargets rules).Nodup := by
  rw [watch_targets_eq]
  exact nodup_gather _

/-- The two counts agree only when the targets do. -/
theorem watch_count_iff (rules : List Rule) :
    (watchTargets rules).length = (positiveTargets rules).length ↔
      ∀ target ∈ watchTargets rules, target ∈ positiveTargets rules := by
  have distinct : (positiveTargets rules).Nodup := List.nodup_dedup _
  have below := distinct.subperm (positive_targets_subset rules)
  constructor
  · intro count target member
    exact (below.perm_of_length_le count.le).mem_iff.mpr member
  · intro all
    have above := (watch_targets_nodup rules).subperm all
    exact le_antisymm above.length_le below.length_le

theorem file_watch_degraded_iff {parsed : ParseResult}
    (effective : parsed.determinacy = .effective) :
    (evaluateFileWatch parsed).1 = .degraded ↔ watchTargets parsed.rules ≠ [] ∧
      (taskSuppressors parsed.rules).any unconditional = false := by
  rw [file_watch_verdict effective]
  by_cases dropped : watchTargets parsed.rules = [] ∨
      (taskSuppressors parsed.rules).any unconditional = true
  · rw [if_pos dropped]
    constructor
    · intro verdict
      cases verdict
    · intro kept
      rcases dropped with idle | certain
      · exact absurd idle kept.1
      · rw [kept.2] at certain
        cases certain
  · rw [if_neg dropped]
    push Not at dropped
    simpa using dropped

theorem file_watch_reports {parsed : ParseResult} (effective : parsed.determinacy = .effective)
    (watched : (evaluateFileWatch parsed).1 = .degraded) :
    ReportsTargets (evaluateFileWatch parsed).2 (watchTargets parsed.rules).length := by
  have facts := (file_watch_degraded_iff effective).mp watched
  simp only [evaluateFileWatch, effective, facts.1, reduceCtorEq, if_false]
  cases suppressed : suppression parsed.rules with
  | none => exact ⟨_, rfl⟩
  | some outcome =>
      obtain ⟨verdict, explanation⟩ := outcome
      have reported := suppression_verdict suppressed
      simp only [facts.2, Bool.false_eq_true, if_false] at reported
      subst verdict
      exact ⟨_, rfl⟩

theorem suppressed_task_iff (rules : List Rule) :
    (taskSuppressors rules).any unconditional = true ↔
      ∃ rule ∈ rules, rule.effect = .excluded ∧ rule.onList "task" = true ∧
        unconditional rule = true := by
  rw [List.any_eq_true]
  apply exists_congr
  intro rule
  rw [taskSuppressors, List.mem_filter, Bool.and_eq_true, beq_iff_eq]
  tauto

theorem mem_positive_targets {rules : List Rule} {target : String} :
    target ∈ positiveTargets rules ↔ ∃ rule ∈ rules, target ∈ positiveValues rule := by
  rw [positiveTargets, List.mem_dedup, List.mem_flatMap]

/-- The report is about the positive targets exactly when an unconditional never,task rule keeps
every watch silent, or every counted value is also one that a rule audits positively. -/
theorem counts_positive_iff (parsed : ParseResult) (effective : parsed.determinacy = .effective) :
    CountsPositive parsed ↔
      (∃ rule ∈ parsed.rules, rule.effect = .excluded ∧ rule.onList "task" = true ∧
          unconditional rule = true) ∨
        ∀ rule ∈ parsed.rules, ∀ target ∈ targetValues rule,
          ∃ other ∈ parsed.rules, target ∈ positiveValues other := by
  have shared : (∀ target ∈ watchTargets parsed.rules, target ∈ positiveTargets parsed.rules) ↔
      ∀ rule ∈ parsed.rules, ∀ target ∈ targetValues rule,
        ∃ other ∈ parsed.rules, target ∈ positiveValues other := by
    simp only [mem_watch_targets, mem_positive_targets, mem_target_values]
    constructor
    · intro all rule member target presented
      exact all target ⟨rule, member, presented⟩
    · intro all target presented
      rcases presented with ⟨rule, member, audits⟩
      exact all rule member target audits
  rw [← suppressed_task_iff, ← shared]
  constructor
  · intro counts
    by_cases certain : (taskSuppressors parsed.rules).any unconditional = true
    · exact Or.inl certain
    · right
      by_cases idle : watchTargets parsed.rules = []
      · rw [idle]
        intro target member
        cases member
      · have watched := (file_watch_degraded_iff effective).mpr
          ⟨idle, Bool.eq_false_iff.mpr certain⟩
        apply (watch_count_iff parsed.rules).mp
        exact reports_targets_unique (file_watch_reports effective watched)
          (counts.counted watched)
  · intro given
    have agreed : (evaluateFileWatch parsed).1 = .degraded →
        ∀ target ∈ watchTargets parsed.rules, target ∈ positiveTargets parsed.rules := by
      intro watched
      rcases given with certain | all
      · rw [((file_watch_degraded_iff effective).mp watched).2] at certain
        cases certain
      · exact all
    constructor
    · intro watched
      obtain ⟨target, member⟩ :=
        List.exists_mem_of_ne_nil _ ((file_watch_degraded_iff effective).mp watched).1
      obtain ⟨rule, inside, positive⟩ := mem_positive_targets.mp (agreed watched target member)
      exact ⟨rule, inside, List.ne_nil_of_mem positive⟩
    · intro watched
      rw [← (watch_count_iff parsed.rules).mpr (agreed watched)]
      exact file_watch_reports effective watched

theorem counts_positive_watched :
    CountsPositive watchedTwice ↔
      (∃ rule ∈ watchedTwice.rules, rule.effect = .excluded ∧ rule.onList "task" = true ∧
          unconditional rule = true) ∨
        ∀ rule ∈ watchedTwice.rules, ∀ target ∈ targetValues rule,
          ∃ other ∈ watchedTwice.rules, target ∈ positiveValues other :=
  counts_positive_iff watchedTwice rfl

/-- Everything outside one directory. -/
def outsideTemporary : String := "-a always,exit -F dir!=/tmp -F perm=wa"

/-- The excluded directory is counted as a watched one. -/
theorem negated_directory_counted :
    (parseAuditdRules "auditctl -l" outsideTemporary).determinacy = .effective ∧
      (evaluateFileWatch (parseAuditdRules "auditctl -l" outsideTemporary)).1 = .degraded ∧
      positiveTargets (parseAuditdRules "auditctl -l" outsideTemporary).rules = [] ∧
      ¬CountsPositive (parseAuditdRules "auditctl -l" outsideTemporary) := by
  have read : parseAuditdRules "auditctl -l" outsideTemporary =
      { determinacy := .effective
        rules :=
          [{ effect := .included
             selector := .syscall ⟨∅, "exit"⟩
             predicates := [⟨"dir", .ne, "/tmp"⟩, ⟨"perm", .eq, "wa"⟩]
             order := 1
             origin := lineOrigin "auditctl -l" 1
             raw := outsideTemporary }] } := by
    decide +kernel
  rw [read]
  refine ⟨rfl, by decide, by decide, ?_⟩
  intro counts
  obtain ⟨rule, member, positive⟩ := counts.watched (by decide)
  rw [List.mem_singleton] at member
  subst member
  exact positive (by decide)

end Sigmascope
