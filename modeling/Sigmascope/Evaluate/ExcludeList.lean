import Sigmascope.Evaluate.FileWatch
import Sigmascope.Evaluate.ExitFilter

/-!
Rules on the exclude list. The audit system ignores the action that such a rule
is written with, so its effect must not matter. The results say for which
listings the verdicts are indeed independent of it.
-/

namespace Sigmascope

set_option autoImplicit false

/-- The second rule is the first, or an exclude-list rule written with another action. -/
def ActionChange (before after : Rule) : Prop :=
  after = before ∨
    before.onList "exclude" = true ∧ ∃ effect, after = { before with effect := effect }

theorem on_list_unique {rule : Rule} {first second : String}
    (onFirst : rule.onList first = true) (onSecond : rule.onList second = true) :
    first = second := by
  unfold Rule.onList at onFirst onSecond
  cases selector : rule.selector with
  | syscall _ =>
      simp only [selector, beq_iff_eq] at onFirst onSecond
      exact onFirst.symm.trans onSecond
  | event _ => simp [selector] at onFirst

theorem on_list_effect (rule : Rule) (effect : Effect) (scope : String) :
    Rule.onList { rule with effect := effect } scope = rule.onList scope := rfl

section Frame

variable {before after : List Rule}

/-- A selection that passes over the exclude list does not see a change of action. -/
theorem filter_action_change (changed : List.Forall₂ ActionChange before after)
    (select : Rule → Bool)
    (blind : ∀ rule, rule.onList "exclude" = true → select rule = false) :
    after.filter select = before.filter select := by
  induction changed with
  | nil => rfl
  | @cons first second _ _ related _ induction =>
      rcases related with same | ⟨listed, effect, same⟩
      · rw [same, List.filter_cons, List.filter_cons, induction]
      · have stillListed : second.onList "exclude" = true := by
          rw [same, on_list_effect, listed]
        rw [List.filter_cons, List.filter_cons, blind first listed, blind second stillListed]
        simpa using induction

theorem any_action_change (changed : List.Forall₂ ActionChange before after)
    (select : Rule → Bool)
    (blind : ∀ rule, rule.onList "exclude" = true → select rule = false) :
    after.any select = before.any select := by
  have sameFilter := filter_action_change changed select blind
  have anyFilter : ∀ rules : List Rule, rules.any select = (rules.filter select).any select := by
    intro rules
    simp only [List.any_filter, Bool.and_self]
  rw [anyFilter after, anyFilter before, sameFilter]

theorem off_other_list {rule : Rule} {list scope : String} (listed : rule.onList list = true)
    (other : scope ≠ list) : rule.onList scope = false := by
  cases on : rule.onList scope with
  | false => rfl
  | true => exact absurd (on_list_unique on listed) other

theorem exec_candidates_action_change (changed : List.Forall₂ ActionChange before after) :
    execCandidates after = execCandidates before := by
  apply filter_action_change changed isCandidate
  intro rule listed
  simp [isCandidate, off_other_list listed (show "exit" ≠ "exclude" by decide)]

theorem task_suppressors_action_change (changed : List.Forall₂ ActionChange before after) :
    taskSuppressors after = taskSuppressors before := by
  apply filter_action_change changed
  intro rule listed
  simp [off_other_list listed (show "task" ≠ "exclude" by decide)]

theorem numeric_action_change (changed : List.Forall₂ ActionChange before after) :
    after.any isNumericRule = before.any isNumericRule := by
  apply any_action_change changed isNumericRule
  intro rule listed
  simp [isNumericRule, off_other_list listed (show "exit" ≠ "exclude" by decide)]

theorem suppressed_earlier_action_change (changed : List.Forall₂ ActionChange before after)
    (candidates : List Rule) :
    suppressedEarlier after candidates = suppressedEarlier before candidates := by
  unfold suppressedEarlier
  congr 1
  funext item
  apply any_action_change changed
  intro rule listed
  simp [exitRuleSuppresses, off_other_list listed (show "exit" ≠ "exclude" by decide)]

theorem evaluate_selection_action_change (changed : List.Forall₂ ActionChange before after)
    (machineArch : String) :
    evaluateSelection after machineArch = evaluateSelection before machineArch := by
  simp only [evaluateSelection, evaluateExecX86, exec_candidates_action_change changed,
    suppressed_earlier_action_change changed]

end Frame

/-- Write every exclude-list rule with the given action. -/
def withAction (effect : Effect) (rules : List Rule) : List Rule :=
  rules.map fun rule => if rule.onList "exclude" then { rule with effect := effect } else rule

theorem with_action_change (effect : Effect) (rules : List Rule) :
    List.Forall₂ ActionChange rules (withAction effect rules) := by
  unfold withAction
  induction rules with
  | nil => exact List.Forall₂.nil
  | cons rule rules induction =>
      apply List.Forall₂.cons
      · by_cases listed : rule.onList "exclude" = true
        · simp only [listed, if_true]
          exact Or.inr ⟨listed, effect, rfl⟩
        · simp only [listed, Bool.false_eq_true, if_false]
          exact Or.inl rfl
      · exact induction

theorem mem_with_action {effect : Effect} {rules : List Rule} {rule : Rule} :
    rule ∈ withAction effect rules ↔
      (rule ∈ rules ∧ rule.onList "exclude" = false) ∨
        ∃ source ∈ rules, source.onList "exclude" = true ∧
          rule = { source with effect := effect } := by
  simp only [withAction, List.mem_map]
  constructor
  · intro given
    rcases given with ⟨source, member, same⟩
    by_cases listed : source.onList "exclude" = true
    · rw [if_pos listed] at same
      exact Or.inr ⟨source, member, listed, same.symm⟩
    · rw [if_neg listed] at same
      subst same
      exact Or.inl ⟨member, by simpa using listed⟩
  · intro either
    rcases either with ⟨member, free⟩ | ⟨source, member, listed, same⟩
    · exact ⟨rule, member, by simp [free]⟩
    · exact ⟨source, member, by rw [if_pos listed, same]⟩

section Exec

variable {parsed : ParseResult} {machineArch : String}

/-- The verdict once there are candidates and no rule on the task list suppresses:
a never rule on the exclude list degrades, and without one the selection decides. -/
theorem exec_verdict_exclude (effective : parsed.determinacy = .effective)
    (candidates : execCandidates parsed.rules ≠ [])
    (noTask : taskSuppressors parsed.rules = []) :
    (evaluateProcessCreation parsed machineArch).1 =
      if parsed.rules.any fun rule => rule.effect == .excluded && rule.onList "exclude" then
        .degraded
      else (evaluateSelection parsed.rules machineArch).1 := by
  have tasks := (task_suppressors_nil_iff parsed.rules).mp noTask
  cases suppressed : suppression parsed.rules with
  | some outcome =>
      rw [exec_verdict_suppressed machineArch effective candidates suppressed,
        suppression_verdict suppressed, noTask]
      have found : (parsed.rules.any fun rule =>
          rule.effect == .excluded && rule.onList "exclude") = true := by
        by_contra absent
        have quiet : Unsuppressed parsed.rules := by
          intro rule member never
          refine ⟨tasks rule member never, ?_⟩
          simp only [Bool.not_eq_true, List.any_eq_false, Bool.and_eq_true, beq_iff_eq,
            not_and] at absent
          exact absent rule member never
        rw [(suppression_none_iff parsed.rules).mpr quiet] at suppressed
        cases suppressed
      simp [found]
  | none =>
      have quiet := (suppression_none_iff parsed.rules).mp suppressed
      have absent : (parsed.rules.any fun rule =>
          rule.effect == .excluded && rule.onList "exclude") = false := by
        simp only [List.any_eq_false, Bool.and_eq_true, beq_iff_eq, not_and, Bool.not_eq_true]
        exact fun rule member never => (quiet rule member never).2
      rw [exec_verdict_selection machineArch effective candidates quiet]
      simp [absent]

/-- The verdict once there are candidates and a rule on the task list suppresses. -/
theorem exec_verdict_task (effective : parsed.determinacy = .effective)
    (candidates : execCandidates parsed.rules ≠ [])
    (tasks : taskSuppressors parsed.rules ≠ []) :
    (evaluateProcessCreation parsed machineArch).1 =
      if (taskSuppressors parsed.rules).any unconditional then .notCovered else .degraded := by
  cases suppressed : suppression parsed.rules with
  | none =>
      have quiet := (suppression_none_iff parsed.rules).mp suppressed
      exact absurd (unsuppressed_no_task quiet) tasks
  | some outcome =>
      rw [exec_verdict_suppressed machineArch effective candidates suppressed,
        suppression_verdict suppressed]

/-- The branch for the machine ends in DEGRADED. -/
def SelectionDegraded (machineArch : String) (rules : List Rule) : Prop :=
  if isX86 machineArch = true then ¬X86Selection rules
  else (∀ rule ∈ execCandidates rules, rule.predicatesOn "arch" = []) ∧
    ∃ syscall ∈ targetSyscalls, ∀ rule ∈ execCandidates rules,
      restrictive rule = true ∨ syscall ∉ selectedSyscalls rule

theorem exec_x86_degraded_iff (rules : List Rule) :
    (evaluateExecX86 rules (execCandidates rules)).1 = .degraded ↔ ¬X86Selection rules := by
  rw [← exec_x86_covered_iff]
  unfold evaluateExecX86
  split
  · simp
  · split
    · simp
    · split <;> simp

theorem exec_other_degraded_iff (rules : List Rule) (machineArch : String) :
    (evaluateExecOther (execCandidates rules) machineArch).1 = .degraded ↔
      (∀ rule ∈ execCandidates rules, rule.predicatesOn "arch" = []) ∧
        ∃ syscall ∈ targetSyscalls, ∀ rule ∈ execCandidates rules,
          restrictive rule = true ∨ syscall ∉ selectedSyscalls rule := by
  have free : ((execCandidates rules).any fun rule => rule.predicatesOn "arch" != []) = false ↔
      ∀ rule ∈ execCandidates rules, rule.predicatesOn "arch" = [] := by
    simp only [List.any_eq_false, bne_iff_ne, ne_eq, not_not]
  have gap : missingSyscalls (execCandidates rules) ≠ [] ↔
      ∃ syscall ∈ targetSyscalls, ∀ rule ∈ execCandidates rules,
        restrictive rule = true ∨ syscall ∉ selectedSyscalls rule := by
    rw [Ne, missing_syscalls_nil_iff]
    push Not
    apply exists_congr
    intro syscall
    apply and_congr_right
    intro _
    apply forall_congr'
    intro rule
    apply forall_congr'
    intro _
    cases restrictive rule <;> simp
  rw [← free, ← gap]
  unfold evaluateExecOther
  by_cases named : ((execCandidates rules).any fun rule => rule.predicatesOn "arch" != []) = true
  · simp [named]
  · simp only [Bool.not_eq_true] at named
    by_cases missing : missingSyscalls (execCandidates rules) = []
    · simp [named, missing]
    · simp [named, missing]

theorem selection_degraded_iff (machineArch : String) (rules : List Rule) :
    SelectionDegraded machineArch rules ↔
      (evaluateSelection rules machineArch).1 = .degraded := by
  unfold SelectionDegraded evaluateSelection
  split
  · exact (exec_x86_degraded_iff rules).symm
  · exact (exec_other_degraded_iff rules machineArch).symm

/-- Nothing is left for the exclude list to decide: there is no candidate, a never,task
rule suppresses already, or the branch for the machine ends in DEGRADED anyway. -/
def ExecSettled (machineArch : String) (rules : List Rule) : Prop :=
  execCandidates rules = [] ∨ taskSuppressors rules ≠ [] ∨ SelectionDegraded machineArch rules

theorem exec_settled_verdict (effective : parsed.determinacy = .effective)
    (settled : ExecSettled machineArch parsed.rules) {rules : List Rule}
    (changed : List.Forall₂ ActionChange parsed.rules rules) :
    (evaluateProcessCreation { parsed with rules := rules } machineArch).1 =
      (evaluateProcessCreation parsed machineArch).1 := by
  have sameCandidates := exec_candidates_action_change changed
  have sameTasks := task_suppressors_action_change changed
  have effectiveAfter : ({ parsed with rules := rules } : ParseResult).determinacy =
      .effective := effective
  by_cases idle : execCandidates parsed.rules = []
  · have idleAfter : execCandidates rules = [] := sameCandidates.trans idle
    rw [exec_verdict_no_candidates machineArch effectiveAfter idleAfter,
      exec_verdict_no_candidates machineArch effective idle]
    simp only [numeric_action_change changed]
  · have busy : execCandidates rules ≠ [] := sameCandidates ▸ idle
    by_cases tasks : taskSuppressors parsed.rules = []
    · have degraded : (evaluateSelection parsed.rules machineArch).1 = .degraded := by
        rcases settled with none | some | below
        · exact absurd none idle
        · exact absurd tasks some
        · exact (selection_degraded_iff machineArch parsed.rules).mp below
      rw [exec_verdict_exclude effectiveAfter busy (sameTasks.trans tasks),
        exec_verdict_exclude effective idle tasks,
        evaluate_selection_action_change changed, degraded]
      simp
    · rw [exec_verdict_task effectiveAfter busy (sameTasks ▸ tasks),
        exec_verdict_task effective idle tasks]
      simp only [sameTasks]

theorem exec_settled_not_covered (effective : parsed.determinacy = .effective)
    (settled : ExecSettled machineArch parsed.rules) :
    (evaluateProcessCreation parsed machineArch).1 ≠ .covered := by
  intro covered
  obtain ⟨quiet, selection⟩ := (exec_covered_iff machineArch effective).mp covered
  rcases settled with idle | tasks | below
  · exact selection_candidates selection idle
  · exact tasks (unsuppressed_no_task quiet)
  · rw [selection_degraded_iff] at below
    rw [← evaluate_selection_covered_iff, below] at selection
    cases selection

/-- The verdict when every exclude-list rule is written with the same action. -/
theorem exec_verdict_with_action (machineArch : String)
    (effective : parsed.determinacy = .effective)
    (busy : execCandidates parsed.rules ≠ []) (noTask : taskSuppressors parsed.rules = [])
    (effect : Effect) :
    (evaluateProcessCreation { parsed with rules := withAction effect parsed.rules }
        machineArch).1 =
      if (withAction effect parsed.rules).any
          fun rule => rule.effect == .excluded && rule.onList "exclude" then .degraded
      else (evaluateSelection parsed.rules machineArch).1 := by
  have changed := with_action_change effect parsed.rules
  have busyAfter : execCandidates (withAction effect parsed.rules) ≠ [] := by
    rw [exec_candidates_action_change changed]
    exact busy
  have taskAfter : taskSuppressors (withAction effect parsed.rules) = [] := by
    rw [task_suppressors_action_change changed, noTask]
  have effectiveAfter : ({ parsed with rules := withAction effect parsed.rules } :
      ParseResult).determinacy = .effective := effective
  rw [exec_verdict_exclude effectiveAfter busyAfter taskAfter,
    evaluate_selection_action_change changed]

/-- With an exclude-list rule, an unsettled verdict depends on the action of that rule. -/
theorem exec_settled_of_invariant (effective : parsed.determinacy = .effective)
    (present : ∃ rule ∈ parsed.rules, rule.onList "exclude" = true)
    (invariant : ∀ rules, List.Forall₂ ActionChange parsed.rules rules →
      (evaluateProcessCreation { parsed with rules := rules } machineArch).1 =
        (evaluateProcessCreation parsed machineArch).1) :
    ExecSettled machineArch parsed.rules := by
  by_contra unsettled
  simp only [ExecSettled, not_or, ne_eq, not_not] at unsettled
  obtain ⟨busy, noTask, undegraded⟩ := unsettled
  rw [selection_degraded_iff] at undegraded
  obtain ⟨source, member, listed⟩ := present
  have neverFound : ((withAction .excluded parsed.rules).any
      fun rule => rule.effect == .excluded && rule.onList "exclude") = true := by
    rw [List.any_eq_true]
    refine ⟨{ source with effect := .excluded },
      mem_with_action.mpr (Or.inr ⟨source, member, listed, rfl⟩), ?_⟩
    simp [on_list_effect, listed]
  have alwaysFree : ((withAction .included parsed.rules).any
      fun rule => rule.effect == .excluded && rule.onList "exclude") = false := by
    simp only [List.any_eq_false, Bool.and_eq_true, beq_iff_eq, not_and]
    intro rule inside never
    rcases mem_with_action.mp inside with ⟨_, free⟩ | ⟨_, _, _, same⟩
    · simp [free]
    · rw [same] at never
      cases never
  have never := exec_verdict_with_action machineArch effective busy noTask .excluded
  have always := exec_verdict_with_action machineArch effective busy noTask .included
  rw [invariant _ (with_action_change .excluded parsed.rules), neverFound] at never
  rw [invariant _ (with_action_change .included parsed.rules), alwaysFree] at always
  exact undegraded (by simpa using always.symm.trans never)

end Exec

section Watch

variable {parsed : ParseResult}

/-- The rule would contribute a target if it were written with the action always. -/
def WouldTarget (rule : Rule) : Prop :=
  watchesChanges rule = true ∧ ∃ predicate ∈ rule.predicates, isWatchTarget predicate = true

/-- Nothing is left for the exclude list to decide about file watches: another list
has a target, no exclude-list rule could be one, or a task suppressor is unconditional. -/
def WatchSettled (rules : List Rule) : Prop :=
  (∃ rule ∈ rules, rule.onList "exclude" = false ∧ rule.effect = .included ∧ WouldTarget rule) ∨
    (∀ rule ∈ rules, rule.onList "exclude" = true → ¬WouldTarget rule) ∨
      (taskSuppressors rules).any unconditional = true

theorem watch_targets_ne_nil_iff (rules : List Rule) :
    watchTargets rules ≠ [] ↔
      ∃ rule ∈ rules, rule.effect = .included ∧ WouldTarget rule := by
  rw [Ne, watch_targets_nil_iff]
  push Not
  apply exists_congr
  intro rule
  apply and_congr_right
  intro _
  constructor
  · intro given
    rcases given with ⟨target, always, changes, predicate, inside, watched, _⟩
    exact ⟨always, changes, predicate, inside, watched⟩
  · intro given
    rcases given with ⟨always, changes, predicate, inside, watched⟩
    exact ⟨predicate.value, always, changes, predicate, inside, watched, rfl⟩

theorem mem_of_action_change {before after : List Rule}
    (changed : List.Forall₂ ActionChange before after) :
    (∀ rule ∈ before, rule.onList "exclude" = false → rule ∈ after) ∧
      ∀ rule ∈ after, rule ∈ before ∨
        ∃ source ∈ before, source.onList "exclude" = true ∧ ∃ effect,
          rule = { source with effect := effect } := by
  induction changed with
  | nil => simp
  | @cons first second firsts seconds related _ induction =>
      constructor
      · intro rule member free
        rcases List.mem_cons.mp member with same | later
        · rcases related with kept | ⟨listed, _⟩
          · exact List.mem_cons.mpr (Or.inl (same.trans kept.symm))
          · rw [same, listed] at free
            cases free
        · exact List.mem_cons_of_mem _ (induction.1 rule later free)
      · intro rule member
        rcases List.mem_cons.mp member with same | later
        · rcases related with kept | ⟨listed, effect, changed⟩
          · exact Or.inl (List.mem_cons.mpr (Or.inl (same.trans kept)))
          · exact Or.inr ⟨first, List.mem_cons_self, listed, effect, same.trans changed⟩
        · rcases induction.2 rule later with old | ⟨source, inside, listed, effect, changed⟩
          · exact Or.inl (List.mem_cons_of_mem _ old)
          · exact Or.inr ⟨source, List.mem_cons_of_mem _ inside, listed, effect, changed⟩

theorem watch_settled_verdict (effective : parsed.determinacy = .effective)
    (settled : WatchSettled parsed.rules) {rules : List Rule}
    (changed : List.Forall₂ ActionChange parsed.rules rules) :
    (evaluateFileWatch { parsed with rules := rules }).1 = (evaluateFileWatch parsed).1 := by
  have effectiveAfter : ({ parsed with rules := rules } : ParseResult).determinacy =
      .effective := effective
  rw [file_watch_verdict effectiveAfter, file_watch_verdict effective]
  simp only [task_suppressors_action_change changed]
  by_cases certain : (taskSuppressors parsed.rules).any unconditional = true
  · simp [certain]
  · have same : watchTargets rules = [] ↔ watchTargets parsed.rules = [] := by
      obtain ⟨kept, traced⟩ := mem_of_action_change changed
      rcases settled with ⟨rule, member, free, always, would⟩ | harmless | task
      · have before : watchTargets parsed.rules ≠ [] :=
          (watch_targets_ne_nil_iff _).mpr ⟨rule, member, always, would⟩
        have after : watchTargets rules ≠ [] :=
          (watch_targets_ne_nil_iff _).mpr ⟨rule, kept rule member free, always, would⟩
        exact iff_of_false after before
      · rw [← not_iff_not, ← Ne, ← Ne, watch_targets_ne_nil_iff, watch_targets_ne_nil_iff]
        constructor
        · intro given
          rcases given with ⟨rule, member, always, would⟩
          rcases traced rule member with old | ⟨source, inside, listed, effect, same⟩
          · exact ⟨rule, old, always, would⟩
          · have sourceWould : WouldTarget source := by
              rw [same] at would
              exact would
            exact absurd sourceWould (harmless source inside listed)
        · intro given
          rcases given with ⟨rule, member, always, would⟩
          by_cases listed : rule.onList "exclude" = true
          · exact absurd would (harmless rule member listed)
          · exact ⟨rule, kept rule member (by simpa using listed), always, would⟩
      · exact absurd task certain
    simp only [same]

/-- The verdict when every exclude-list rule is written with the same action. -/
theorem watch_verdict_with_action (effective : parsed.determinacy = .effective)
    (uncertain : (taskSuppressors parsed.rules).any unconditional = false) (effect : Effect) :
    (evaluateFileWatch { parsed with rules := withAction effect parsed.rules }).1 =
      if watchTargets (withAction effect parsed.rules) = [] then .notCovered else .degraded := by
  have effectiveAfter : ({ parsed with rules := withAction effect parsed.rules } :
      ParseResult).determinacy = .effective := effective
  rw [file_watch_verdict effectiveAfter]
  simp only [task_suppressors_action_change (with_action_change effect parsed.rules),
    uncertain, Bool.false_eq_true, or_false]

theorem watch_settled_of_invariant (effective : parsed.determinacy = .effective)
    (invariant : ∀ rules, List.Forall₂ ActionChange parsed.rules rules →
      (evaluateFileWatch { parsed with rules := rules }).1 = (evaluateFileWatch parsed).1) :
    WatchSettled parsed.rules := by
  by_contra unsettled
  simp only [WatchSettled, not_or, Bool.not_eq_true] at unsettled
  obtain ⟨noOther, someListed, uncertain⟩ := unsettled
  push Not at noOther someListed
  obtain ⟨source, member, listed, would⟩ := someListed
  have always := watch_verdict_with_action effective uncertain .included
  have never := watch_verdict_with_action effective uncertain .excluded
  have targets : watchTargets (withAction .included parsed.rules) ≠ [] :=
    (watch_targets_ne_nil_iff _).mpr ⟨{ source with effect := .included },
      mem_with_action.mpr (Or.inr ⟨source, member, listed, rfl⟩), rfl, would⟩
  have noTargets : watchTargets (withAction .excluded parsed.rules) = [] := by
    by_contra some
    obtain ⟨rule, inside, included, rest⟩ := (watch_targets_ne_nil_iff _).mp some
    rcases mem_with_action.mp inside with ⟨old, free⟩ | ⟨_, _, _, same⟩
    · exact noOther rule old free included rest
    · rw [same] at included
      cases included
  rw [invariant _ (with_action_change .included parsed.rules), if_neg targets] at always
  rw [invariant _ (with_action_change .excluded parsed.rules), if_pos noTargets] at never
  rw [always] at never
  cases never

end Watch

/-- The action of exclude-list rules is immaterial, and such a rule keeps COVERED away,
exactly on the listings where both verdicts are settled without the exclude list. -/
theorem exclude_list_exact (parsed : ParseResult) (machineArch : String)
    (effective : parsed.determinacy = .effective)
    (present : ∃ rule ∈ parsed.rules, rule.onList "exclude" = true) :
    ((evaluateProcessCreation parsed machineArch).1 ≠ .covered ∧
        ∀ rules, List.Forall₂ ActionChange parsed.rules rules →
          (evaluateProcessCreation { parsed with rules := rules } machineArch).1 =
              (evaluateProcessCreation parsed machineArch).1 ∧
            (evaluateFileWatch { parsed with rules := rules }).1 =
              (evaluateFileWatch parsed).1) ↔
      ExecSettled machineArch parsed.rules ∧ WatchSettled parsed.rules := by
  constructor
  · intro given
    rcases given with ⟨_, invariant⟩
    constructor
    · apply exec_settled_of_invariant effective present
      intro rules changed
      exact (invariant rules changed).1
    · apply watch_settled_of_invariant effective
      intro rules changed
      exact (invariant rules changed).2
  · intro given
    rcases given with ⟨execSettled, watchSettled⟩
    constructor
    · exact exec_settled_not_covered effective execSettled
    · intro rules changed
      constructor
      · exact exec_settled_verdict effective execSettled changed
      · exact watch_settled_verdict effective watchSettled changed

/-- Full exec coverage next to a rule that drops every record of user 0. -/
def alwaysExcludeListing : ParseResult where
  determinacy := .effective
  rules :=
    [listedRule .included "exclude" ∅ [⟨"uid", .eq, "0"⟩] 1,
      listedRule .included "exit" {"execve", "execveat"} [⟨"arch", .eq, "b64"⟩] 2,
      listedRule .included "exit" {"execve", "execveat"} [⟨"arch", .eq, "b32"⟩] 3]

theorem exclude_list_exact_always_exclude :
    ((evaluateProcessCreation alwaysExcludeListing "x86_64").1 ≠ .covered ∧
        ∀ rules, List.Forall₂ ActionChange alwaysExcludeListing.rules rules →
          (evaluateProcessCreation { alwaysExcludeListing with rules := rules } "x86_64").1 =
              (evaluateProcessCreation alwaysExcludeListing "x86_64").1 ∧
            (evaluateFileWatch { alwaysExcludeListing with rules := rules }).1 =
              (evaluateFileWatch alwaysExcludeListing).1) ↔
      ExecSettled "x86_64" alwaysExcludeListing.rules ∧
        WatchSettled alwaysExcludeListing.rules :=
  exclude_list_exact alwaysExcludeListing "x86_64" rfl
    ⟨_, List.mem_cons_self, by decide⟩

theorem always_exclude_listing_covered :
    alwaysExcludeListing.determinacy = .effective ∧
      (∃ rule ∈ alwaysExcludeListing.rules, rule.onList "exclude" = true) ∧
      (evaluateProcessCreation alwaysExcludeListing "x86_64").1 = .covered ∧
      (evaluateProcessCreation
        { alwaysExcludeListing with rules := withAction .excluded alwaysExcludeListing.rules }
        "x86_64").1 = .degraded := by
  decide

end Sigmascope
