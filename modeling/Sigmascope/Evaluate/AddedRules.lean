import Sigmascope.Evaluate.ExcludeList
import Sigmascope.Evaluate.Renumbering

/-!
One more rule in a listing. An always rule at the end keeps full coverage unless
the branch for the machine refuses its arch selector; a never rule can only lower
the verdict, whatever its place, and behind the always rules it is not seen.
-/

namespace Sigmascope

set_option autoImplicit false

open Sigmascope.Library

section Always

variable {rules : List Rule} {rule : Rule}

theorem mem_exec_candidates_append {other : Rule} :
    other ∈ execCandidates (rules ++ [rule]) ↔
      other ∈ execCandidates rules ∨ other = rule ∧ isCandidate rule = true := by
  simp only [mem_exec_candidates, List.mem_append, List.mem_singleton]
  constructor
  · intro given
    rcases given with ⟨old | new, candidate⟩
    · exact Or.inl ⟨old, candidate⟩
    · exact Or.inr ⟨new, new ▸ candidate⟩
  · intro given
    rcases given with ⟨old, candidate⟩ | ⟨new, candidate⟩
    · exact ⟨Or.inl old, candidate⟩
    · exact ⟨Or.inr new, new ▸ candidate⟩

theorem unsuppressed_append_always (always : rule.effect = .included) :
    Unsuppressed (rules ++ [rule]) ↔ Unsuppressed rules := by
  constructor
  · intro quiet other member
    exact quiet other (List.mem_append_left _ member)
  · intro quiet other member never
    rcases List.mem_append.mp member with old | new
    · exact quiet other old never
    · rw [List.mem_singleton.mp new, always] at never
      cases never

/-- A rule at the end does not become the covering rule of a pair that has one. -/
theorem covers_append {pair : ArchSyscall} {first : Rule} (covers : Covers rules pair first)
    (rule : Rule) : Covers (rules ++ [rule]) pair first := by
  rw [covers_iff_find] at covers ⊢
  rw [List.find?_append, covers, Option.some_or]

theorem x86_selection_append (selection : X86Selection rules) (always : rule.effect = .included) :
    X86Selection (rules ++ [rule]) ↔ isCandidate rule = true → arches rule ≠ [] := by
  constructor
  · intro extended candidate
    exact extended.archGiven rule (mem_exec_candidates_append.mpr (Or.inr ⟨rfl, candidate⟩))
  · intro named
    constructor
    · intro other member
      rcases mem_exec_candidates_append.mp member with old | ⟨new, candidate⟩
      · exact selection.archGiven other old
      · rw [new]
        exact named candidate
    · intro pair required
      obtain ⟨first, covers, clean⟩ := selection.pairCovered pair required
      refine ⟨first, covers_append covers rule, ?_⟩
      intro other member before
      rcases List.mem_append.mp member with old | new
      · exact clean other old before
      · rw [List.mem_singleton.mp new, exitRuleSuppresses, always]
        simp

theorem other_selection_append (selection : OtherSelection rules) :
    OtherSelection (rules ++ [rule]) ↔ isCandidate rule = true → rule.predicatesOn "arch" = [] := by
  constructor
  · intro extended candidate
    exact extended.archFree rule (mem_exec_candidates_append.mpr (Or.inr ⟨rfl, candidate⟩))
  · intro free
    constructor
    · intro other member
      rcases mem_exec_candidates_append.mp member with old | ⟨new, candidate⟩
      · exact selection.archFree other old
      · rw [new]
        exact free candidate
    · intro syscall target
      obtain ⟨first, member, selects⟩ := selection.selected syscall target
      exact ⟨first, mem_exec_candidates_append.mpr (Or.inl member), selects⟩

/-- The arch selector of a rule is one that the branch for the machine reads. -/
def archReadable (machineArch : String) (rule : Rule) : Bool :=
  if isX86 machineArch then !(arches rule).isEmpty else (rule.predicatesOn "arch").isEmpty

theorem selection_append {machineArch : String} (selection : Selection machineArch rules)
    (always : rule.effect = .included) :
    Selection machineArch (rules ++ [rule]) ↔
      isCandidate rule = true → archReadable machineArch rule = true := by
  unfold Selection at selection ⊢
  unfold archReadable
  split
  · rename_i x86
    rw [if_pos x86] at selection
    rw [x86_selection_append selection always]
    simp
  · rename_i other
    rw [if_neg other] at selection
    rw [other_selection_append selection]
    simp

/-- A candidate whose arch selector the branch does not read is what it reports first. -/
theorem evaluate_selection_unreadable {machineArch : String} {candidate : Rule}
    (member : candidate ∈ execCandidates rules)
    (unreadable : archReadable machineArch candidate = false) :
    (evaluateSelection rules machineArch).1 =
      if isX86 machineArch then .degraded else .indeterminate := by
  unfold evaluateSelection archReadable at *
  split
  · rename_i x86
    have bare : ((execCandidates rules).any fun rule => (arches rule).isEmpty) = true := by
      rw [List.any_eq_true]
      exact ⟨candidate, member, by simpa [x86] using unreadable⟩
    rw [evaluateExecX86, if_pos bare]
  · rename_i other
    have named : ((execCandidates rules).any fun rule => rule.predicatesOn "arch" != []) =
        true := by
      rw [List.any_eq_true]
      exact ⟨candidate, member, by simpa [other] using unreadable⟩
    rw [evaluateExecOther, if_pos named]

end Always

/-- What becomes of full coverage when one more always rule is loaded. It is lost only to
a rule that selects a target call and whose arch selector the branch does not read. -/
theorem appended_always_verdict (parsed : ParseResult) (machineArch : String) (rule : Rule)
    (effective : parsed.determinacy = .effective)
    (covered : (evaluateProcessCreation parsed machineArch).1 = .covered)
    (onExit : rule.onList "exit" = true) (always : rule.effect = .included) :
    (evaluateProcessCreation { parsed with rules := parsed.rules ++ [rule] } machineArch).1 =
      if selectedSyscalls rule = [] ∨ archReadable machineArch rule = true then .covered
      else if isX86 machineArch = true then .degraded
      else .indeterminate := by
  have effectiveAfter : ({ parsed with rules := parsed.rules ++ [rule] } :
      ParseResult).determinacy = .effective := effective
  obtain ⟨quiet, selection⟩ := (exec_covered_iff machineArch effective).mp covered
  have quietAfter := (unsuppressed_append_always always).mpr quiet
  have candidate_iff_selects : isCandidate rule = true ↔ selectedSyscalls rule ≠ [] := by
    simp [candidate_iff, onExit, always]
  by_cases harmless : selectedSyscalls rule = [] ∨ archReadable machineArch rule = true
  · rw [if_pos harmless, exec_covered_iff machineArch effectiveAfter]
    refine ⟨quietAfter, (selection_append selection always).mpr ?_⟩
    intro candidate
    rcases harmless with none | readable
    · exact absurd none (candidate_iff_selects.mp candidate)
    · exact readable
  · rw [if_neg harmless]
    simp only [not_or, Bool.not_eq_true] at harmless
    have member : rule ∈ execCandidates (parsed.rules ++ [rule]) :=
      mem_exec_candidates_append.mpr (Or.inr ⟨rfl, candidate_iff_selects.mpr harmless.1⟩)
    rw [exec_verdict_selection machineArch effectiveAfter (List.ne_nil_of_mem member) quietAfter]
    exact evaluate_selection_unreadable member harmless.2

/-- Always rules for both architectures, with nothing after them. -/
def bothArchesOnly : ParseResult where
  determinacy := .effective
  rules :=
    [listedRule .included "exit" {"execve", "execveat"} [⟨"arch", .eq, "b64"⟩] 1,
      listedRule .included "exit" {"execve", "execveat"} [⟨"arch", .eq, "b32"⟩] 2]

/-- A rule about writes to one file, on every call and without an architecture. -/
def passwdRule : Rule :=
  listedRule .included "exit" {"all"} [⟨"path", .eq, "/etc/passwd"⟩, ⟨"perm", .eq, "wa"⟩] 3

theorem appended_always_verdict_passwd :
    (evaluateProcessCreation { bothArchesOnly with rules := bothArchesOnly.rules ++ [passwdRule] }
        "x86_64").1 =
      if selectedSyscalls passwdRule = [] ∨ archReadable "x86_64" passwdRule = true then .covered
      else if isX86 "x86_64" = true then .degraded
      else .indeterminate :=
  appended_always_verdict bothArchesOnly "x86_64" passwdRule rfl (by decide) (by decide) rfl

/-- Loading the rule costs the coverage that the listing had before. -/
theorem passwd_rule_costs_coverage :
    bothArchesOnly.determinacy = .effective ∧
      (evaluateProcessCreation bothArchesOnly "x86_64").1 = .covered ∧
      passwdRule.onList "exit" = true ∧ passwdRule.effect = .included ∧
      (evaluateProcessCreation
        { bothArchesOnly with rules := bothArchesOnly.rules ++ [passwdRule] } "x86_64").1 ≠
          .covered := by
  decide

/-- A verdict that only went down. -/
def Lowers (before after : Verdict) : Prop :=
  (after = .covered → before = .covered) ∧
    (before = .notCovered → after = .notCovered) ∧
      (before = .degraded → after = .degraded ∨ after = .notCovered)

section Never

variable {left right : List Rule} {rule : Rule} (never : rule.effect = .excluded)
include never

theorem never_not_candidate : isCandidate rule = false := by
  simp [isCandidate, never]

theorem exec_candidates_insert (left right : List Rule) :
    execCandidates (left ++ rule :: right) = execCandidates (left ++ right) := by
  simp [execCandidates, List.filter_append, never_not_candidate never]

theorem numeric_insert :
    (left ++ rule :: right).any isNumericRule = (left ++ right).any isNumericRule := by
  have notNumeric : isNumericRule rule = false := by simp [isNumericRule, never]
  simp [notNumeric]

omit never in
theorem mem_insert_of_mem {other : Rule} (member : other ∈ left ++ right) :
    other ∈ left ++ rule :: right := by
  rcases List.mem_append.mp member with early | late
  · exact List.mem_append_left _ early
  · exact List.mem_append_right _ (List.mem_cons_of_mem _ late)

omit never in
theorem increasing_of_insert (increasing : Increasing (left ++ rule :: right)) :
    Increasing (left ++ right) :=
  increasing.sublist ((List.sublist_cons_self rule right).append_left left)

omit never in
theorem task_suppressors_insert {other : Rule} (member : other ∈ taskSuppressors (left ++ right)) :
    other ∈ taskSuppressors (left ++ rule :: right) := by
  rw [taskSuppressors, List.mem_filter] at member ⊢
  exact ⟨mem_insert_of_mem member.1, member.2⟩

omit never in
theorem unsuppressed_of_insert (quiet : Unsuppressed (left ++ rule :: right)) :
    Unsuppressed (left ++ right) := by
  intro other member
  exact quiet other (mem_insert_of_mem member)

theorem suppressed_before_insert {pair : ArchSyscall}
    (suppressed : suppressedBefore (left ++ right) pair = true) :
    suppressedBefore (left ++ rule :: right) pair = true := by
  have unclaimed : claims pair rule = false := by
    simp [claims, never_not_candidate never]
  exact stands_before_insert unclaimed left right suppressed

/-- The branch for the machine reports the same, or gives up full coverage. -/
theorem evaluate_selection_insert (increasing : Increasing (left ++ rule :: right))
    (machineArch : String) :
    evaluateSelection (left ++ rule :: right) machineArch =
        evaluateSelection (left ++ right) machineArch ∨
      (evaluateSelection (left ++ rule :: right) machineArch).1 = .degraded ∧
        (evaluateSelection (left ++ right) machineArch).1 = .covered := by
  have increasingBefore : Increasing (left ++ right) := increasing_of_insert increasing
  have kept : suppressedEarlier (left ++ right) (execCandidates (left ++ right)) = true →
      suppressedEarlier (left ++ rule :: right) (execCandidates (left ++ rule :: right)) =
        true := by
    rw [suppressed_earlier_iff_before increasing, suppressed_earlier_iff_before increasingBefore]
    intro suppressed
    obtain ⟨pair, before⟩ := suppressed
    exact ⟨pair, suppressed_before_insert never before⟩
  rw [exec_candidates_insert never] at kept
  simp only [evaluateSelection, evaluateExecX86, exec_candidates_insert never]
  split
  · split
    · exact Or.inl rfl
    · split
      · exact Or.inl rfl
      · cases early : suppressedEarlier (left ++ right) (execCandidates (left ++ right)) with
        | true =>
            rw [kept early]
            exact Or.inl rfl
        | false =>
            cases suppressedEarlier (left ++ rule :: right) (execCandidates (left ++ right)) with
            | true => exact Or.inr ⟨rfl, rfl⟩
            | false => exact Or.inl rfl
  · exact Or.inl rfl

theorem inserted_lowers (parsed : ParseResult) (effective : parsed.determinacy = .effective)
    (increasing : Increasing (left ++ rule :: right)) (machineArch : String) :
    Lowers (evaluateProcessCreation { parsed with rules := left ++ right } machineArch).1
      (evaluateProcessCreation { parsed with rules := left ++ rule :: right } machineArch).1 := by
  have before : ({ parsed with rules := left ++ right } : ParseResult).determinacy =
      .effective := effective
  have after : ({ parsed with rules := left ++ rule :: right } : ParseResult).determinacy =
      .effective := effective
  have same := exec_candidates_insert never left right
  by_cases idle : execCandidates (left ++ right) = []
  · rw [exec_verdict_no_candidates machineArch before idle,
      exec_verdict_no_candidates machineArch after (same.trans idle), numeric_insert never]
    exact ⟨id, id, Or.inl⟩
  · have busy : execCandidates (left ++ rule :: right) ≠ [] := same ▸ idle
    cases suppressed : suppression (left ++ rule :: right) with
    | none =>
        have quiet := (suppression_none_iff _).mp suppressed
        rw [exec_verdict_selection machineArch after busy quiet,
          exec_verdict_selection machineArch before idle (unsuppressed_of_insert quiet)]
        rcases evaluate_selection_insert never increasing machineArch with equal | ⟨low, high⟩
        · rw [equal]
          exact ⟨id, id, Or.inl⟩
        · rw [low, high]
          exact ⟨by simp, by simp, by simp⟩
    | some outcome =>
        rw [exec_verdict_suppressed machineArch after busy suppressed,
          suppression_verdict suppressed]
        refine ⟨?_, ?_, ?_⟩
        · split <;> simp
        · intro absent
          have sure : (taskSuppressors (left ++ right)).any unconditional = true := by
            rcases (exec_not_covered_iff machineArch before).mp absent with ⟨none, _⟩ | ⟨_, sure⟩
            · exact absurd none idle
            · exact sure
          obtain ⟨task, member, free⟩ := List.any_eq_true.mp sure
          rw [if_pos (List.any_eq_true.mpr ⟨task, task_suppressors_insert member, free⟩)]
        · intro _
          split <;> simp

omit never in
/-- Rules behind the last claim are not looked at. -/
theorem suppressed_before_append {pair : ArchSyscall} {tail : List Rule}
    (unclaimed : ∀ other ∈ tail, claims pair other = false) :
    suppressedBefore (left ++ tail) pair = suppressedBefore left pair := by
  have noClaim : tail.any (claims pair) = false := by
    simpa [List.any_eq_false] using unclaimed
  exact stands_before_behind noClaim left

/-- Behind the always rules, a never,exit rule is not seen at all. -/
theorem inserted_behind (parsed : ParseResult) (onExit : rule.onList "exit" = true)
    (last : ∀ other ∈ right, other.effect = .excluded)
    (increasing : Increasing (left ++ rule :: right)) (machineArch : String) :
    evaluateProcessCreation { parsed with rules := left ++ rule :: right } machineArch =
      evaluateProcessCreation { parsed with rules := left ++ right } machineArch := by
  have increasingBefore : Increasing (left ++ right) := increasing_of_insert increasing
  have notTask : rule.onList "task" = false := off_other_list onExit (by decide)
  have notExclude : rule.onList "exclude" = false := off_other_list onExit (by decide)
  have suppressed : suppression (left ++ rule :: right) = suppression (left ++ right) := by
    have tasks : taskSuppressors (left ++ rule :: right) = taskSuppressors (left ++ right) := by
      simp [taskSuppressors, notTask]
    have excludes : (left ++ rule :: right).any
          (fun rule => rule.effect == .excluded && rule.onList "exclude") =
        (left ++ right).any fun rule => rule.effect == .excluded && rule.onList "exclude" := by
      simp [notExclude]
    rw [suppression, suppression, tasks, excludes]
  have unclaimed : ∀ pair, ∀ other ∈ right, claims pair other = false := by
    intro pair other member
    simp [claims, never_not_candidate (last other member)]
  have unclaimedRule : ∀ pair, ∀ other ∈ rule :: right, claims pair other = false := by
    intro pair other member
    rcases List.mem_cons.mp member with same | later
    · simp [claims, same, never_not_candidate never]
    · exact unclaimed pair other later
  have early : suppressedEarlier (left ++ rule :: right) (execCandidates (left ++ right)) =
      suppressedEarlier (left ++ right) (execCandidates (left ++ right)) := by
    rw [Bool.eq_iff_iff, suppressed_earlier_iff_before increasingBefore,
      ← exec_candidates_insert never left right, suppressed_earlier_iff_before increasing]
    apply exists_congr
    intro pair
    rw [suppressed_before_append (unclaimedRule pair), suppressed_before_append (unclaimed pair)]
  simp only [evaluateProcessCreation, evaluateExecX86, exec_candidates_insert never,
    numeric_insert never, suppressed, early]

end Never

/-- A rule with effect excluded, put anywhere into the list and the list numbered anew, can only
lower the verdict; on the exit list and behind the last always rule it changes nothing. -/
theorem inserted_never_lowers (parsed : ParseResult) (left right rules : List Rule) (rule : Rule)
    (effective : parsed.determinacy = .effective) (increasing : Increasing parsed.rules)
    (split : parsed.rules = left ++ right) (never : rule.effect = .excluded)
    (renumbered : Renumbered (left ++ rule :: right) rules) (increasingAfter : Increasing rules)
    (machineArch : String) :
    Lowers (evaluateProcessCreation parsed machineArch).1
        (evaluateProcessCreation { parsed with rules := rules } machineArch).1 ∧
      (rule.onList "exit" = true → (∀ other ∈ right, other.effect = .excluded) →
        evaluateProcessCreation { parsed with rules := rules } machineArch =
          evaluateProcessCreation parsed machineArch) := by
  obtain ⟨newLeft, newTail, splitAfter, sameLeft, sameTail⟩ :=
    List.map_eq_append_iff.mp (renumbered.symm.trans List.map_append)
  obtain ⟨newRule, newRight, splitTail, sameRule, sameRight⟩ := List.map_eq_cons_iff.mp sameTail
  subst splitAfter splitTail
  have increasingBefore : Increasing (newLeft ++ newRight) :=
    increasing_of_insert increasingAfter
  have same : Renumbered parsed.rules (newLeft ++ newRight) := by
    rw [Renumbered, split, List.map_append, List.map_append, sameLeft, sameRight]
  have before : evaluateProcessCreation { parsed with rules := newLeft ++ newRight } machineArch =
      evaluateProcessCreation parsed machineArch :=
    (renumbered_process_creation same parsed increasing increasingBefore machineArch).symm
  have neverNew : newRule.effect = .excluded :=
    (congrArg Rule.effect sameRule).trans never
  rw [← before]
  refine ⟨inserted_lowers neverNew parsed effective increasingAfter machineArch, ?_⟩
  intro onExit last
  have onExitNew : newRule.onList "exit" = true :=
    (congrArg (fun item : Rule => item.onList "exit") sameRule).trans onExit
  have lastNew : ∀ other ∈ newRight, other.effect = .excluded := by
    intro other member
    have listed : unnumbered other ∈ right.map unnumbered :=
      sameRight ▸ List.mem_map_of_mem member
    obtain ⟨original, present, equal⟩ := List.mem_map.mp listed
    exact (congrArg Rule.effect equal).symm.trans (last original present)
  exact inserted_behind neverNew parsed onExitNew lastNew increasingAfter machineArch

/-- The two always rules with a never rule for execve behind them. -/
def neverBehind : List Rule :=
  bothArchesOnly.rules ++ [listedRule .excluded "exit" {"execve"} [] 3]

theorem inserted_never_lowers_behind :
    Lowers (evaluateProcessCreation bothArchesOnly "x86_64").1
        (evaluateProcessCreation { bothArchesOnly with rules := neverBehind } "x86_64").1 ∧
      ((listedRule .excluded "exit" {"execve"} [] 3).onList "exit" = true →
        (∀ other ∈ ([] : List Rule), other.effect = .excluded) →
          evaluateProcessCreation { bothArchesOnly with rules := neverBehind } "x86_64" =
            evaluateProcessCreation bothArchesOnly "x86_64") :=
  inserted_never_lowers bothArchesOnly bothArchesOnly.rules [] neverBehind
    (listedRule .excluded "exit" {"execve"} [] 3) rfl (by decide) rfl rfl rfl (by decide) "x86_64"

end Sigmascope
