import Sigmascope.Parse.RuleOptions

/-!
Which lines become a rule without a diagnostic, and when such a rule does everything
that its line says. A line is readable when every option is understood, an action or
a watch is there, and permissions come with a watch; it is unambiguous when no option
takes another one back.
-/

namespace Sigmascope

set_option autoImplicit false

open Sigmascope.Library Sigmascope.Library.PyText

structure Readable (tokens : List Text) : Prop where
  known : ∀ token ∈ tokens, (readOption token).isSome = true
  provided : ∃ token ∈ tokens, isActionToken token = true ∨ isWatchToken token = true
  watched : (∃ token ∈ tokens, isPermsToken token = true) →
    ∃ token ∈ tokens, isWatchToken token = true

theorem not_readable_iff {tokens : List Text} :
    ¬Readable tokens ↔
      (∃ token ∈ tokens, readOption token = none) ∨
        (∀ token ∈ tokens, isActionToken token = false ∧ isWatchToken token = false) ∨
          ((∃ token ∈ tokens, isPermsToken token = true) ∧
            ∀ token ∈ tokens, isWatchToken token = false) := by
  have parts : Readable tokens ↔
      (∀ token ∈ tokens, (readOption token).isSome = true) ∧
        (∃ token ∈ tokens, isActionToken token = true ∨ isWatchToken token = true) ∧
          ((∃ token ∈ tokens, isPermsToken token = true) →
            ∃ token ∈ tokens, isWatchToken token = true) :=
    ⟨fun readable => ⟨readable.known, readable.provided, readable.watched⟩,
      fun given => ⟨given.1, given.2.1, given.2.2⟩⟩
  rw [parts, not_and_or, not_and_or]
  apply or_congr
  · simp
  · apply or_congr
    · simp
    · rw [Classical.not_imp, not_exists]
      simp

structure Unambiguous (tokens : List Text) : Prop where
  oneAction : tokens.countP isActionToken ≤ 1
  oneWatch : tokens.countP isWatchToken ≤ 1
  onePerms : tokens.countP isPermsToken ≤ 1
  apart : ¬((∃ token ∈ tokens, isActionToken token = true) ∧
    ∃ token ∈ tokens, isWatchToken token = true)
  pathGiven : ∀ token ∈ tokens, isWatchToken token = true → tokenValue token ≠ []

def SaysNever (tokens : List Text) : Prop :=
  ∃ scope, RuleOption.action .excluded scope ∈ saidBy tokens

def pathPredicate (path : String) : Predicate := ⟨"path", .eq, path⟩

def permPredicate (letters : String) : Predicate := ⟨"perm", .eq, letters⟩

/-- Every value that was said is in the rule, and the rule has nothing else. -/
structure Carries (rule : Rule) (said : List RuleOption) : Prop where
  action : ∀ pair ∈ said.filterMap RuleOption.action?,
    rule.effect = pair.1 ∧ rule.onList pair.2 = true
  watch : ∀ path ∈ said.filterMap RuleOption.watch?, rule.effect = .included
  syscalls : ∃ selector, rule.selector = .syscall selector ∧
    ∀ name, name ∈ selector.syscalls ↔ ∃ option ∈ said, name ∈ option.names
  predicates : rule.predicates =
    (said.filterMap RuleOption.watch?).map pathPredicate ++
      (said.filterMap RuleOption.perms?).map permPredicate ++
        said.flatMap RuleOption.predicates

section Close

variable {state : RuleState} {rawLine : Text} {order : Nat} {origin : Origin}

theorem close_diagnostics (reported : state.diagnostics ≠ []) :
    (closeRule origin rawLine order (closeWatch origin rawLine state)).2 ≠ [] := by
  have watched : (closeWatch origin rawLine state).diagnostics ≠ [] := by
    unfold closeWatch
    split
    · exact reported
    · exact reported
    · exact report_diagnostics origin state _ rawLine
    · exact reported
  unfold closeRule
  split
  · exact report_diagnostics origin _ _ rawLine
  · exact watched

theorem close_accepts_iff (quiet : state.diagnostics = []) :
    (∃ rule, closeRule origin rawLine order (closeWatch origin rawLine state) =
        (some rule, [])) ↔
      (state.effect.isSome = true ∨ state.watchPath.isSome = true) ∧
        (state.watchPerms.isSome = true → state.watchPath.isSome = true) := by
  cases path : state.watchPath <;> cases perms : state.watchPerms <;>
    cases effect : state.effect <;>
      simp [closeWatch, closeRule, path, perms, effect, quiet, RuleState.report]

theorem close_accepted {rule : Rule}
    (accepted : closeRule origin rawLine order (closeWatch origin rawLine state) =
      (some rule, [])) :
    (if state.watchPath.isSome then some Effect.included else state.effect) =
        some rule.effect ∧
      rule.selector = .syscall ⟨state.syscalls, state.scope⟩ ∧
        rule.predicates = state.watchPath.toList.map pathPredicate ++
          state.watchPerms.toList.map permPredicate ++ state.predicates := by
  unfold closeRule at accepted
  cases given : (closeWatch origin rawLine state).effect with
  | none =>
      rw [given] at accepted
      cases accepted
  | some effect =>
      rw [given] at accepted
      obtain ⟨same, quiet⟩ := Prod.mk.inj accepted
      cases same
      cases path : state.watchPath with
      | some path =>
          cases perms : state.watchPerms <;>
            simp only [closeWatch, path, perms] at given ⊢ <;>
              exact ⟨given, trivial, rfl⟩
      | none =>
          cases perms : state.watchPerms with
          | some letters =>
              simp only [closeWatch, path, perms] at quiet
              exact absurd quiet (report_diagnostics origin state _ rawLine)
          | none =>
              simp only [closeWatch, path, perms] at given ⊢
              exact ⟨given, trivial, rfl⟩

end Close

section Known

variable {tokens : List Text}

theorem said_count (known : ∀ token ∈ tokens, (readOption token).isSome = true)
    {Value : Type} {write : RuleOption → Option Value} {kind : Text → Bool}
    (agrees : ∀ token said, readOption token = some said → (write said).isSome = kind token) :
    ((saidBy tokens).filterMap write).length = tokens.countP kind := by
  rw [saidBy, List.filterMap_filterMap, List.length_filterMap_eq_countP]
  apply List.countP_congr
  intro token member
  obtain ⟨said, read⟩ := Option.isSome_iff_exists.mp (known token member)
  rw [read, Option.bind_some, agrees token said read]

theorem said_some_iff (known : ∀ token ∈ tokens, (readOption token).isSome = true)
    {Value : Type} {write : RuleOption → Option Value} {kind : Text → Bool}
    (agrees : ∀ token said, readOption token = some said → (write said).isSome = kind token) :
    (lastWrite write (saidBy tokens) none).isSome = true ↔
      ∃ token ∈ tokens, kind token = true := by
  rw [last_write_some_iff, said_count known agrees, List.countP_pos_iff]

theorem effect_kind (token : Text) (said : RuleOption) (read : readOption token = some said) :
    (said.action?.map Prod.fst).isSome = isActionToken token := by
  rw [Option.isSome_map, (read_option_kind read).1]

theorem action_count (known : ∀ token ∈ tokens, (readOption token).isSome = true) :
    ((saidBy tokens).filterMap RuleOption.action?).length = tokens.countP isActionToken :=
  said_count known fun _ _ read => (read_option_kind read).1

theorem watch_count (known : ∀ token ∈ tokens, (readOption token).isSome = true) :
    ((saidBy tokens).filterMap RuleOption.watch?).length = tokens.countP isWatchToken :=
  said_count known fun _ _ read => (read_option_kind read).2.1

theorem perms_count (known : ∀ token ∈ tokens, (readOption token).isSome = true) :
    ((saidBy tokens).filterMap RuleOption.perms?).length = tokens.countP isPermsToken :=
  said_count known fun _ _ read => (read_option_kind read).2.2

end Known

section Line

variable {tokens : List Text} {rawLine : Text} {order : Nat} {origin : Origin}

theorem parse_rule_known (known : ∀ token ∈ tokens, (readOption token).isSome = true) :
    parseRule rawLine tokens order origin =
      closeRule origin rawLine order
        (closeWatch origin rawLine ((saidBy tokens).foldl RuleState.apply {})) := by
  rw [parseRule, read_run_said origin {} known]

/-- A line becomes a rule without a diagnostic exactly when it is readable. -/
theorem parse_rule_accepts_iff :
    (∃ rule, parseRule rawLine tokens order origin = (some rule, [])) ↔ Readable tokens := by
  by_cases known : ∀ token ∈ tokens, (readOption token).isSome = true
  · have effect := said_some_iff known effect_kind
    have path := said_some_iff known fun _ _ read => (read_option_kind read).2.1
    have perms := said_some_iff known fun _ _ read => (read_option_kind read).2.2
    rw [parse_rule_known known, close_accepts_iff (apply_run_diagnostics {} _), apply_run_effect,
      apply_run_path, apply_run_perms, effect, path, perms]
    constructor
    · intro given
      refine ⟨known, ?_, given.2⟩
      rcases given.1 with provided | provided
      · obtain ⟨token, member, action⟩ := provided
        exact ⟨token, member, Or.inl action⟩
      · obtain ⟨token, member, watch⟩ := provided
        exact ⟨token, member, Or.inr watch⟩
    · intro readable
      obtain ⟨token, member, provided⟩ := readable.provided
      refine ⟨?_, readable.watched⟩
      rcases provided with action | watch
      · exact Or.inl ⟨token, member, action⟩
      · exact Or.inr ⟨token, member, watch⟩
  · constructor
    · intro accepted
      obtain ⟨rule, accepted⟩ := accepted
      exfalso
      apply known
      intro token member
      apply Option.isSome_iff_ne_none.mpr
      intro unread
      have reported : (parseRule rawLine tokens order origin).2 ≠ [] :=
        close_diagnostics (read_run_unread origin {} member unread)
      rw [accepted] at reported
      exact reported rfl
    · intro readable
      exact absurd readable.known known

theorem parse_rule_settled :
    (∃ rule, parseRule rawLine tokens order origin = (some rule, [])) ∨
      (parseRule rawLine tokens order origin).2 ≠ [] := by
  rw [parseRule, closeRule]
  generalize closeWatch origin rawLine (tokens.foldl (readToken origin) {}) = state
  cases state.effect with
  | none => exact Or.inr (report_diagnostics origin state _ rawLine)
  | some effect =>
      by_cases quiet : state.diagnostics = []
      · exact Or.inl ⟨_, Prod.ext rfl quiet⟩
      · exact Or.inr quiet

/-- A line that is not readable leaves a diagnostic behind, whatever else it says. -/
theorem parse_rule_refused (unreadable : ¬Readable tokens) :
    (parseRule rawLine tokens order origin).2 ≠ [] := by
  rcases parse_rule_settled with accepted | reported
  · exact absurd (parse_rule_accepts_iff.mp accepted) unreadable
  · exact reported

/-- Where an action is said and nothing is ambiguous, no watch overrides it. -/
theorem unwatched_of_action (known : ∀ token ∈ tokens, (readOption token).isSome = true)
    (unambiguous : Unambiguous tokens) {pair : Effect × String}
    (spoken : pair ∈ (saidBy tokens).filterMap RuleOption.action?) :
    ¬(lastWrite RuleOption.watch? (saidBy tokens) none).isSome = true := by
  have acting : ∃ token ∈ tokens, isActionToken token = true := by
    rw [← List.countP_pos_iff, ← action_count known]
    exact List.length_pos_of_mem spoken
  rw [said_some_iff known fun _ _ read => (read_option_kind read).2.1]
  intro watched
  exact unambiguous.apart ⟨acting, watched⟩

theorem accepted_carries {rule : Rule}
    (accepted : parseRule rawLine tokens order origin = (some rule, []))
    (unambiguous : Unambiguous tokens) : Carries rule (saidBy tokens) := by
  have known := (parse_rule_accepts_iff.mp ⟨rule, accepted⟩).known
  have oneAction := (action_count known).trans_le unambiguous.oneAction
  have oneWatch := (watch_count known).trans_le unambiguous.oneWatch
  have onePerms := (perms_count known).trans_le unambiguous.onePerms
  rw [parse_rule_known known] at accepted
  obtain ⟨effect, selector, predicates⟩ := close_accepted accepted
  rw [apply_run_path, apply_run_effect] at effect
  rw [apply_run_path, apply_run_perms, apply_run_predicates] at predicates
  constructor
  · intro pair spoken
    have scope : ((saidBy tokens).foldl RuleState.apply {}).scope = pair.2 := by
      apply Option.some.inj
      rw [apply_run_scope]
      exact said_action_sole oneAction spoken Prod.snd _
    rw [if_neg (unwatched_of_action known unambiguous spoken),
      said_action_sole oneAction spoken Prod.fst none] at effect
    refine ⟨(Option.some.inj effect).symm, ?_⟩
    rw [Rule.onList, selector, scope]
    exact beq_self_eq_true pair.2
  · intro path spoken
    have watched : (lastWrite RuleOption.watch? (saidBy tokens) none).isSome = true := by
      rw [last_write_some_iff]
      exact List.length_pos_of_mem spoken
    rw [if_pos watched] at effect
    exact (Option.some.inj effect).symm
  · refine ⟨_, selector, ?_⟩
    intro name
    rw [apply_run_syscalls]
    simp
  · rw [predicates, writes_sole oneWatch, writes_sole onePerms]
    rfl

end Line

end Sigmascope
