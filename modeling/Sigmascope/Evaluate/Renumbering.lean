import Sigmascope.Evaluate.AuditdCoverage
import Sigmascope.Library.Precedence

/-!
Order numbers. The evaluator compares them in one place only, and on a list with
increasing numbers the comparison asks which of two rules stands first. Everything else
is a question whether some rule has a property. Two lists on which these questions have
the same answers get the same report, so a list may be numbered anew.
-/

namespace Sigmascope

set_option autoImplicit false

open Sigmascope.Library

/-- The rule without its number. -/
def unnumbered (rule : Rule) : Rule := { rule with order := 0 }

/-- The rules are numbered in the order in which they are listed. -/
abbrev Increasing (rules : List Rule) : Prop :=
  rules.Pairwise fun left right => left.order < right.order

/-- The candidate claims the pair in the coverage dictionary. -/
def claims (pair : ArchSyscall) (rule : Rule) : Bool :=
  isCandidate rule && (claimedPairs rule).contains pair

/-- The rules in front of the first one that claims the pair. -/
def beforeClaim (pair : ArchSyscall) (rules : List Rule) : List Rule :=
  rules.takeWhile fun rule => !claims pair rule

/-- Some rule claims the pair, and a never,exit rule for the pair stands in front of it. -/
def suppressedBefore (rules : List Rule) (pair : ArchSyscall) : Bool :=
  rules.any (claims pair) &&
    (beforeClaim pair rules).any fun rule => exitRuleSuppresses rule pair.1 pair.2

theorem covers_iff_find {rules : List Rule} {pair : ArchSyscall} {rule : Rule} :
    Covers rules pair rule ↔ rules.find? (claims pair) = some rule := by
  have same : (fun item => decide (isCandidate item = true ∧
      decide (pair ∈ claimedPairs item) = true)) = claims pair := by
    funext item
    simp [claims]
  rw [Covers, execCandidates, List.find?_filter, same]

theorem covered_iff_any {rules : List Rule} {pair : ArchSyscall} :
    (∃ rule, Covers rules pair rule) ↔ rules.any (claims pair) = true := by
  simp only [covers_iff_find, ← Option.isSome_iff_exists, List.find?_isSome, List.any_eq_true]

theorem mem_before_claim {rules front back : List Rule} {pair : ArchSyscall} {rule : Rule}
    (split : rules = front ++ rule :: back) (claimed : claims pair rule = true)
    (unclaimed : ∀ other ∈ front, claims pair other = false) :
    beforeClaim pair rules = front := by
  rw [split, beforeClaim, List.takeWhile_append_of_pos]
  · rw [List.takeWhile_cons, claimed]
    simp
  · intro other member
    rw [unclaimed other member]
    rfl

/-- On an increasing list, smaller numbers than that of the covering rule stand in front of it. -/
theorem order_lt_iff_before {rules : List Rule} {pair : ArchSyscall} {rule other : Rule}
    (increasing : Increasing rules) (covers : Covers rules pair rule) :
    other ∈ rules ∧ other.order < rule.order ↔ other ∈ beforeClaim pair rules := by
  obtain ⟨claimed, front, back, split, unclaimed⟩ :=
    List.find?_eq_some_iff_append.mp (covers_iff_find.mp covers)
  have free : ∀ other ∈ front, claims pair other = false := by
    intro other member
    simpa using unclaimed other member
  rw [mem_before_claim split claimed free]
  rw [split, Increasing, List.pairwise_append, List.pairwise_cons] at increasing
  obtain ⟨_, ⟨afterRule, _⟩, beforeRule⟩ := increasing
  rw [split, List.mem_append, List.mem_cons]
  constructor
  · intro given
    rcases given with ⟨early | same | late, smaller⟩
    · exact early
    · rw [same] at smaller
      omega
    · have larger := afterRule other late
      omega
  · intro early
    exact ⟨Or.inl early, beforeRule other early rule List.mem_cons_self⟩

theorem suppressed_earlier_iff_before {rules : List Rule} (increasing : Increasing rules) :
    suppressedEarlier rules (execCandidates rules) = true ↔
      ∃ pair, suppressedBefore rules pair = true := by
  rw [← Bool.not_eq_false, suppressed_earlier_false_iff]
  push Not
  apply exists_congr
  intro pair
  rw [suppressedBefore, Bool.and_eq_true, ← covered_iff_any, List.any_eq_true]
  constructor
  · intro given
    rcases given with ⟨rule, covers, other, member, smaller, suppresses⟩
    refine ⟨⟨rule, covers⟩, other, ?_, by simpa using suppresses⟩
    exact (order_lt_iff_before increasing covers).mp ⟨member, smaller⟩
  · intro given
    rcases given with ⟨⟨rule, covers⟩, other, early, suppresses⟩
    obtain ⟨member, smaller⟩ := (order_lt_iff_before increasing covers).mpr early
    exact ⟨rule, covers, other, member, smaller, by simp [suppresses]⟩

theorem missing_pairs_eq (rules : List Rule) :
    missingPairs (execCandidates rules) =
      requiredPairs.filter fun pair => !rules.any (claims pair) := by
  rw [missingPairs]
  congr 1
  funext pair
  congr 1
  rw [Bool.eq_iff_iff, ← covered_iff_any, Dict.contains, exec_coverage_get,
    Option.isSome_iff_exists]
  rfl

/-- What the evaluator asks about single rules. -/
inductive ExecLook : (Rule → Bool) → Prop where
  | candidate : ExecLook isCandidate
  | numeric : ExecLook isNumericRule
  | neverTask : ExecLook fun rule => rule.effect == .excluded && rule.onList "task"
  | certainTask :
      ExecLook fun rule => (rule.effect == .excluded && rule.onList "task") && unconditional rule
  | neverExclude : ExecLook fun rule => rule.effect == .excluded && rule.onList "exclude"
  | bare : ExecLook fun rule => isCandidate rule && (arches rule).isEmpty
  | narrow : ExecLook fun rule => isCandidate rule && restrictive rule
  | named : ExecLook fun rule => isCandidate rule && (rule.predicatesOn "arch" != [])
  | claimed (pair : ArchSyscall) : ExecLook (claims pair)
  | selected (syscall : String) :
      ExecLook fun rule =>
        isCandidate rule && (!restrictive rule && (selectedSyscalls rule).contains syscall)

/-- The two lists give the same answers, and the same pairs are suppressed in them. -/
structure ExecAlike (before after : List Rule) : Prop where
  looks : ∀ look, ExecLook look → before.any look = after.any look
  early : ∀ pair, suppressedBefore before pair = suppressedBefore after pair

section Alike

variable {before after : List Rule} (alike : ExecAlike before after)
include alike

theorem alike_filter_nil {look : Rule → Bool} (asked : ExecLook look) :
    before.filter look = [] ↔ after.filter look = [] := by
  have answer := alike.looks look asked
  rw [Bool.eq_iff_iff, List.any_eq_true, List.any_eq_true] at answer
  simpa only [List.filter_eq_nil_iff, not_exists, not_and] using not_congr answer

theorem alike_candidates {look : Rule → Bool}
    (asked : ExecLook fun rule => isCandidate rule && look rule) :
    (execCandidates before).any look = (execCandidates after).any look := by
  rw [execCandidates, execCandidates, List.any_filter, List.any_filter]
  exact alike.looks _ asked

theorem alike_suppression : suppression before = suppression after := by
  have sure : (taskSuppressors before).any unconditional =
      (taskSuppressors after).any unconditional := by
    rw [taskSuppressors, taskSuppressors, List.any_filter, List.any_filter]
    exact alike.looks _ .certainTask
  have present : taskSuppressors before = [] ↔ taskSuppressors after = [] :=
    alike_filter_nil alike .neverTask
  have excludes := alike.looks _ .neverExclude
  simp only [suppression, sure, ne_eq, present, excludes]

theorem alike_selection (increasing : Increasing before) (increasingAfter : Increasing after)
    (machineArch : String) :
    evaluateSelection before machineArch = evaluateSelection after machineArch := by
  have missing : missingPairs (execCandidates before) = missingPairs (execCandidates after) := by
    rw [missing_pairs_eq, missing_pairs_eq]
    congr 1
    funext pair
    rw [alike.looks _ (.claimed pair)]
  have absent : missingSyscalls (execCandidates before) =
      missingSyscalls (execCandidates after) := by
    rw [missingSyscalls, missingSyscalls]
    congr 1
    funext syscall
    rw [alike_candidates alike (.selected syscall)]
  have suppressed : suppressedEarlier before (execCandidates before) =
      suppressedEarlier after (execCandidates after) := by
    rw [Bool.eq_iff_iff, suppressed_earlier_iff_before increasing,
      suppressed_earlier_iff_before increasingAfter]
    simp only [alike.early]
  simp only [evaluateSelection, evaluateExecX86, evaluateExecOther, alike_candidates alike .bare,
    alike_candidates alike .narrow, alike_candidates alike .named, missing, absent, suppressed]

/-- On two lists that answer alike, the evaluator reports the same. -/
theorem alike_process_creation (parsed : ParseResult) (increasing : Increasing before)
    (increasingAfter : Increasing after) (machineArch : String) :
    evaluateProcessCreation { parsed with rules := before } machineArch =
      evaluateProcessCreation { parsed with rules := after } machineArch := by
  have idle : execCandidates before = [] ↔ execCandidates after = [] :=
    alike_filter_nil alike .candidate
  have numeric := alike.looks _ .numeric
  have suppressed := alike_suppression alike
  have selection := alike_selection alike increasing increasingAfter machineArch
  unfold evaluateSelection at selection
  simp only [evaluateProcessCreation, idle, numeric, suppressed, selection]

end Alike

/-- The rule without its number, its origin and its text. -/
def unlabelled (rule : Rule) : Rule :=
  { rule with order := 0, origin := ⟨"", ""⟩, raw := "" }

/-- The same rules in the same order, but for what labels them. -/
abbrev Relabelled (before after : List Rule) : Prop := SameUpTo unlabelled before after

theorem look_blind {look : Rule → Bool} (asked : ExecLook look) : BlindTo unlabelled look := by
  intro rule
  cases asked <;> rfl

theorem relabelled_alike {before after : List Rule} (relabelled : Relabelled before after) :
    ExecAlike before after where
  looks _ asked := same_any relabelled (look_blind asked)
  early pair := stands_before_same relabelled (fun _ => rfl) (look_blind (.claimed pair))

/-- The same rules in the same order under other numbers. -/
def Renumbered (before after : List Rule) : Prop :=
  before.map unnumbered = after.map unnumbered

theorem renumbered_relabelled {before after : List Rule} (renumbered : Renumbered before after) :
    Relabelled before after := by
  have same : SameUpTo unnumbered before after := renumbered
  exact same_coarser same fun _ => rfl

/-- Numbering the rules anew changes neither the verdict nor the explanation. -/
theorem renumbered_process_creation {before after : List Rule}
    (renumbered : Renumbered before after) (parsed : ParseResult) (increasing : Increasing before)
    (increasingAfter : Increasing after) (machineArch : String) :
    evaluateProcessCreation { parsed with rules := before } machineArch =
      evaluateProcessCreation { parsed with rules := after } machineArch :=
  alike_process_creation (relabelled_alike (renumbered_relabelled renumbered)) parsed increasing
    increasingAfter machineArch

end Sigmascope
