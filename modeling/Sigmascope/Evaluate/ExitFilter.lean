import Sigmascope.Evaluate.AuditdCoverage
import Sigmascope.Library.FirstMatch

/-!
First-match filtering of system call exits. The abstract side is the decision
of an ordered filter list under a truth assignment to predicates; the theorems
compare it with what the evaluator reports as COVERED.
-/

namespace Sigmascope

set_option autoImplicit false

open Sigmascope.Library

/-- One exit of a system call, with the truth of every predicate about it. -/
structure ExitEvent where
  syscall : String
  holds : Predicate → Bool

def selectsCall (rule : Rule) (syscall : String) : Bool :=
  decide (rule.syscalls = ∅ ∨ "all" ∈ rule.syscalls ∨ syscall ∈ rule.syscalls)

/-- A key labels the record and does not take part in matching. -/
def exitMatches (rule : Rule) (event : ExitEvent) : Bool :=
  selectsCall rule event.syscall &&
    rule.predicates.all fun predicate => predicate.field == "key" || event.holds predicate

def exitList (rules : List Rule) : List Rule := rules.filter fun rule => rule.onList "exit"

/-- The exit-list rule that decides the event. -/
def exitDecider (rules : List Rule) (event : ExitEvent) : Option Rule :=
  FirstMatch.decider exitMatches (exitList rules) event

/-- An exit on one architecture: an arch predicate holds when it names it. -/
def archEvent (arch syscall : String) (truth : Predicate → Bool) : ExitEvent where
  syscall := syscall
  holds predicate :=
    if predicate.field = "arch" then predicate.value == arch else truth predicate

theorem exit_matches_iff {rule : Rule} {event : ExitEvent} :
    exitMatches rule event = true ↔
      selectsCall rule event.syscall = true ∧
        ∀ predicate ∈ rule.predicates, predicate.field = "key" ∨ event.holds predicate = true := by
  simp only [exitMatches, Bool.and_eq_true, List.all_eq_true, Bool.or_eq_true, beq_iff_eq]

theorem mem_exit_list {rules : List Rule} {rule : Rule} :
    rule ∈ exitList rules ↔ rule ∈ rules ∧ rule.onList "exit" = true :=
  List.mem_filter

/-- An effective result with increasing orders whose exit-list selectors carry no number. -/
structure SymbolicRuleset (parsed : ParseResult) : Prop where
  effective : parsed.determinacy = .effective
  increasing : parsed.rules.Pairwise fun left right => left.order < right.order
  symbolic : ∀ rule ∈ exitList parsed.rules, ∀ token ∈ rule.syscalls,
    PyText.isDigit token = false

theorem SymbolicRuleset.exitIncreasing {parsed : ParseResult} (plain : SymbolicRuleset parsed) :
    (exitList parsed.rules).Pairwise fun left right => left.order < right.order :=
  plain.increasing.filter _

/-- Each exit-list rule has at most one arch predicate, of the form arch=b64 or arch=b32. -/
structure SingleArch (rules : List Rule) : Prop where
  once : ∀ rule ∈ exitList rules, (rule.predicatesOn "arch").length ≤ 1
  shape : ∀ rule ∈ exitList rules, ∀ predicate ∈ rule.predicatesOn "arch",
    predicate.op = .eq ∧ (predicate.value = "b64" ∨ predicate.value = "b32")

theorem selects_of_selected {rule : Rule} {syscall : String}
    (selected : syscall ∈ selectedSyscalls rule) : selectsCall rule syscall = true := by
  rw [selectsCall, decide_eq_true_eq]
  exact Or.inr (mem_selected_syscalls.mp selected).2

theorem mem_predicates_on {rule : Rule} {field : String} {predicate : Predicate} :
    predicate ∈ rule.predicatesOn field ↔
      predicate ∈ rule.predicates ∧ predicate.field = field := by
  simp only [Rule.predicatesOn, List.mem_filter, beq_iff_eq]

theorem unrestricted_field {rule : Rule} (broad : restrictive rule = false)
    {predicate : Predicate} (member : predicate ∈ rule.predicates) :
    predicate.field = "arch" ∨ predicate.field = "key" := by
  simp only [restrictive, List.any_eq_false, Bool.not_eq_true', Bool.not_eq_false] at broad
  have listed := broad predicate member
  simpa [nonNarrowingFields] using listed

theorem suppresses_iff {rule : Rule} {arch syscall : String} :
    exitRuleSuppresses rule arch syscall = true ↔
      isNeverExit rule = true ∧ selectsCall rule syscall = true ∧
        (arches rule = [] ∨ arch ∈ arches rule) := by
  unfold exitRuleSuppresses isNeverExit selectsCall
  by_cases exitRule : rule.onList "exit" = true
  · by_cases never : rule.effect = .excluded
    · simp only [exitRule, never, Bool.not_true, bne_self_eq_false, Bool.or_self,
        Bool.false_eq_true, if_false, beq_self_eq_true, Bool.and_self, true_and,
        decide_eq_true_eq, ne_eq]
      split
      · rename_i misses
        simp [misses]
      · rename_i selects
        have chosen : rule.syscalls = ∅ ∨ "all" ∈ rule.syscalls ∨ syscall ∈ rule.syscalls := by
          tauto
        simp only [chosen, true_and, Bool.or_eq_true, List.isEmpty_iff, List.contains_iff_mem]
    · simp [exitRule, never]
  · simp [exitRule]

section X86

variable {rules : List Rule} {arch syscall : String} {truth : Predicate → Bool}

/-- With one arch predicate at most, the covering rule matches whatever the other predicates say. -/
theorem covering_rule_matches (single : SingleArch rules) {rule : Rule}
    (covers : Covers rules (arch, syscall) rule) :
    exitMatches rule (archEvent arch syscall truth) = true := by
  obtain ⟨member, candidate, claims⟩ := covers_claims covers
  obtain ⟨broad, _, named, selected⟩ := mem_claimed_pairs.mp claims
  have onExit : rule ∈ exitList rules :=
    mem_exit_list.mpr ⟨member, (candidate_iff.mp candidate).1⟩
  obtain ⟨witness, witnessMember, witnessField, _, witnessValue⟩ := mem_arches.mp named
  refine exit_matches_iff.mpr ⟨selects_of_selected selected, ?_⟩
  intro predicate inside
  rcases unrestricted_field broad inside with isArch | isKey
  · have same : predicate = witness := by
      have short := single.once rule onExit
      have first := mem_predicates_on.mpr ⟨inside, isArch⟩
      have second := mem_predicates_on.mpr ⟨witnessMember, witnessField⟩
      match listed : rule.predicatesOn "arch" with
      | [] => simp [listed] at first
      | [only] =>
          simp only [listed, List.mem_singleton] at first second
          exact first.trans second.symm
      | _ :: _ :: _ => simp [listed] at short
    subst predicate
    exact Or.inr (by simp [archEvent, witnessField, witnessValue])
  · exact Or.inl isKey

/-- A never rule that matches the event is one the evaluator counts as suppressing. -/
theorem matching_never_suppresses {rule : Rule}
    (onExit : rule ∈ exitList rules) (never : rule.effect = .excluded)
    (matched : exitMatches rule (archEvent arch syscall truth) = true) :
    exitRuleSuppresses rule arch syscall = true := by
  obtain ⟨selects, satisfied⟩ := exit_matches_iff.mp matched
  refine suppresses_iff.mpr ⟨?_, selects, ?_⟩
  · simp [isNeverExit, never, (mem_exit_list.mp onExit).2]
  · by_cases free : arches rule = []
    · exact Or.inl free
    · obtain ⟨name, named⟩ := List.exists_mem_of_ne_nil _ free
      obtain ⟨predicate, inside, field, op, value⟩ := mem_arches.mp named
      have holds := satisfied predicate inside
      simp only [field, archEvent, if_true, beq_iff_eq] at holds
      have agrees : predicate.value = arch := by simpa using holds
      exact Or.inr (mem_arches.mpr ⟨predicate, inside, field, op, agrees⟩)

theorem selection_decides_include (plain : (exitList rules).Pairwise
      fun left right => left.order < right.order)
    (single : SingleArch rules) (selection : X86Selection rules)
    (required : (arch, syscall) ∈ requiredPairs) :
    ∃ first, exitDecider rules (archEvent arch syscall truth) = some first ∧
      first.effect = .included := by
  obtain ⟨rule, covers, clean⟩ := selection.pairCovered (arch, syscall) required
  obtain ⟨member, candidate, _⟩ := covers_claims covers
  obtain ⟨onExit, always, _⟩ := candidate_iff.mp candidate
  apply FirstMatch.favourable_decider plain (fun rule => rule.effect = .included)
    (mem_exit_list.mpr ⟨member, onExit⟩) (covering_rule_matches single covers) always
  intro other listed before matched
  by_contra notAlways
  have never : other.effect = .excluded := by
    cases effect : other.effect with
    | included => exact absurd effect notAlways
    | excluded => rfl
  have suppresses := matching_never_suppresses listed never matched
  rw [clean other (mem_exit_list.mp listed).1 before] at suppresses
  cases suppresses

end X86

/-- On x86-64, COVERED is sound against first-match filtering: nothing on the task
or exclude list suppresses, and every exec event on either architecture is decided
by an always rule. -/
theorem exec_x86_covered_sound (parsed : ParseResult) (machineArch : String)
    (x86 : machineArch = "x86_64" ∨ machineArch = "amd64")
    (plain : SymbolicRuleset parsed) (single : SingleArch parsed.rules)
    (covered : (evaluateProcessCreation parsed machineArch).1 = .covered) :
    (∀ rule ∈ parsed.rules, rule.effect = .excluded →
        rule.onList "task" = false ∧ rule.onList "exclude" = false) ∧
      ∀ arch ∈ ["b64", "b32"], ∀ syscall ∈ ["execve", "execveat"],
        ∀ truth : Predicate → Bool, ∃ first,
          exitDecider parsed.rules (archEvent arch syscall truth) = some first ∧
            first.effect = .included := by
  have onX86 : isX86 machineArch = true := by
    rcases x86 with rfl | rfl <;> decide
  obtain ⟨unsuppressed, selection⟩ := (exec_covered_iff machineArch plain.effective).mp covered
  rw [Selection, if_pos onX86] at selection
  refine ⟨unsuppressed, ?_⟩
  intro arch inside syscall target truth
  exact selection_decides_include plain.exitIncreasing single selection
    (mem_required_pairs.mpr ⟨inside, target⟩)

/-- A system call rule read from the given line of a listing. -/
def listedRule (effect : Effect) (scope : String) (syscalls : Finset String)
    (predicates : List Predicate) (line : Nat) : Rule where
  effect := effect
  selector := .syscall ⟨syscalls, scope⟩
  predicates := predicates
  order := line
  origin := ⟨"auditctl -l", "line " ++ toString line⟩
  raw := ""

/-- Always rules for both architectures with a restricted never rule after them. -/
def bothArchesListing : ParseResult where
  determinacy := .effective
  rules :=
    [listedRule .included "exit" {"execve", "execveat"} [⟨"arch", .eq, "b64"⟩] 1,
      listedRule .included "exit" {"execve", "execveat"} [⟨"arch", .eq, "b32"⟩] 2,
      listedRule .excluded "exit" {"all"} [⟨"uid", .eq, "0"⟩] 3]

theorem exec_x86_covered_sound_both_arches :
    (∀ rule ∈ bothArchesListing.rules, rule.effect = .excluded →
        rule.onList "task" = false ∧ rule.onList "exclude" = false) ∧
      ∀ arch ∈ ["b64", "b32"], ∀ syscall ∈ ["execve", "execveat"],
        ∀ truth : Predicate → Bool, ∃ first,
          exitDecider bothArchesListing.rules (archEvent arch syscall truth) = some first ∧
            first.effect = .included :=
  exec_x86_covered_sound bothArchesListing "x86_64" (Or.inl rfl)
    ⟨rfl, by decide, by decide⟩ ⟨by decide, by decide⟩ (by decide)

section OtherMachines

variable {rules : List Rule} {syscall : String}

/-- An unrestricted candidate without arch predicate matches every event of its call. -/
theorem arch_free_rule_matches {rule : Rule} (free : rule.predicatesOn "arch" = [])
    (broad : restrictive rule = false) (selected : syscall ∈ selectedSyscalls rule)
    (truth : Predicate → Bool) : exitMatches rule ⟨syscall, truth⟩ = true := by
  refine exit_matches_iff.mpr ⟨selects_of_selected selected, ?_⟩
  intro predicate inside
  rcases unrestricted_field broad inside with isArch | isKey
  · have listed := mem_predicates_on.mpr ⟨inside, isArch⟩
    simp [free] at listed
  · exact Or.inl isKey

/-- A never,exit rule selects a target call and is numbered before every
unrestricted always rule for that call. -/
def EarlyNever (rules : List Rule) : Prop :=
  ∃ syscall ∈ targetSyscalls, ∃ never ∈ rules,
    isNeverExit never = true ∧ selectsCall never syscall = true ∧
      ∀ always ∈ execCandidates rules, restrictive always = false →
        syscall ∈ selectedSyscalls always → never.order < always.order

/-- A never,exit rule selects a target call, and every earlier always rule for that
call has a predicate that the never rule does not have. -/
def ExposedNever (rules : List Rule) : Prop :=
  ∃ syscall ∈ targetSyscalls, ∃ never ∈ rules,
    isNeverExit never = true ∧ selectsCall never syscall = true ∧
      ∀ always ∈ exitList rules, always.effect = .included →
        selectsCall always syscall = true → always.order < never.order →
          ∃ predicate ∈ always.predicates,
            predicate.field ≠ "key" ∧ predicate ∉ never.predicates

theorem never_exit_iff {rule : Rule} :
    isNeverExit rule = true ↔ rule.effect = .excluded ∧ rule.onList "exit" = true := by
  simp only [isNeverExit, Bool.and_eq_true, beq_iff_eq]

/-- A never rule that decides an event is exposed. -/
theorem deciding_never_exposed
    (increasing : (exitList rules).Pairwise fun left right => left.order < right.order)
    (target : syscall ∈ targetSyscalls) {truth : Predicate → Bool} {first : Rule}
    (decides : exitDecider rules ⟨syscall, truth⟩ = some first)
    (never : first.effect = .excluded) : ExposedNever rules := by
  have listed := mem_exit_list.mp (FirstMatch.decider_mem decides)
  obtain ⟨selects, satisfied⟩ := exit_matches_iff.mp (FirstMatch.decider_hits decides)
  refine ⟨syscall, target, first, listed.1, never_exit_iff.mpr ⟨never, listed.2⟩, selects, ?_⟩
  intro always onExit _ chosen before
  by_contra shadowed
  push Not at shadowed
  have matched : exitMatches always ⟨syscall, truth⟩ = true := by
    refine exit_matches_iff.mpr ⟨chosen, ?_⟩
    intro predicate inside
    by_cases isKey : predicate.field = "key"
    · exact Or.inl isKey
    · exact satisfied predicate (shadowed predicate inside isKey)
  rcases FirstMatch.decider_le_of_hits increasing decides onExit matched with same | sooner
  · subst same
    exact lt_irrefl _ before
  · exact lt_asymm before sooner

/-- An exposed never rule decides the event in which exactly its own predicates hold,
unless another never rule does. -/
theorem exposed_never_decides
    (increasing : (exitList rules).Pairwise fun left right => left.order < right.order)
    (exposed : ExposedNever rules) :
    ∃ syscall ∈ targetSyscalls, ∃ truth first,
      exitDecider rules ⟨syscall, truth⟩ = some first ∧ first.effect = .excluded := by
  obtain ⟨syscall, target, never, member, isNever, selects, apart⟩ := exposed
  obtain ⟨effect, exitRule⟩ := never_exit_iff.mp isNever
  let truth : Predicate → Bool := fun predicate => decide (predicate ∈ never.predicates)
  have onExit : never ∈ exitList rules := mem_exit_list.mpr ⟨member, exitRule⟩
  have matched : exitMatches never ⟨syscall, truth⟩ = true := by
    refine exit_matches_iff.mpr ⟨selects, ?_⟩
    intro predicate inside
    exact Or.inr (by simpa [truth] using inside)
  obtain ⟨first, decides⟩ := FirstMatch.decider_exists onExit matched
  refine ⟨syscall, target, truth, first, decides, ?_⟩
  rcases FirstMatch.decider_le_of_hits increasing decides onExit matched with same | before
  · exact same ▸ effect
  · cases firstEffect : first.effect with
    | excluded => rfl
    | included =>
        obtain ⟨chosen, satisfied⟩ := exit_matches_iff.mp (FirstMatch.decider_hits decides)
        obtain ⟨predicate, inside, notKey, foreign⟩ :=
          apart first (FirstMatch.decider_mem decides) firstEffect chosen before
        have holds := (satisfied predicate inside).resolve_left notKey
        exact absurd (by simpa [truth] using holds) foreign

/-- Every exec event is decided by an always rule. -/
def IncludesEveryExec (rules : List Rule) : Prop :=
  ∀ syscall ∈ targetSyscalls, ∀ truth : Predicate → Bool,
    ∃ first, exitDecider rules ⟨syscall, truth⟩ = some first ∧ first.effect = .included

theorem includes_every_exec_iff
    (increasing : (exitList rules).Pairwise fun left right => left.order < right.order)
    (selection : OtherSelection rules) :
    IncludesEveryExec rules ↔ ¬ExposedNever rules := by
  constructor
  · intro includes exposed
    obtain ⟨call, target, truth, first, decides, never⟩ :=
      exposed_never_decides increasing exposed
    obtain ⟨other, decidesOther, always⟩ := includes call target truth
    have same : other = first := Option.some.inj (decidesOther.symm.trans decides)
    rw [same, never] at always
    cases always
  · intro safe call target truth
    obtain ⟨rule, candidate, broad, selected⟩ := selection.selected call target
    have listed := mem_exec_candidates.mp candidate
    have onExit : rule ∈ exitList rules :=
      mem_exit_list.mpr ⟨listed.1, (candidate_iff.mp listed.2).1⟩
    obtain ⟨first, decides⟩ := FirstMatch.decider_exists onExit
      (arch_free_rule_matches (selection.archFree rule candidate) broad selected truth)
    refine ⟨first, decides, ?_⟩
    cases effect : first.effect with
    | included => rfl
    | excluded => exact absurd (deciding_never_exposed increasing target decides effect) safe

/-- An exposed never rule stands in front of every unrestricted always rule. -/
theorem early_of_exposed
    (increasing : (exitList rules).Pairwise fun left right => left.order < right.order)
    (selection : OtherSelection rules) (exposed : ExposedNever rules) : EarlyNever rules := by
  obtain ⟨call, target, never, member, isNever, selects, apart⟩ := exposed
  refine ⟨call, target, never, member, isNever, selects, ?_⟩
  intro always candidate broad selected
  have listed := mem_exec_candidates.mp candidate
  obtain ⟨exitRule, effect, _⟩ := candidate_iff.mp listed.2
  have neverListed := never_exit_iff.mp isNever
  rcases FirstMatch.order_cases increasing (mem_exit_list.mpr ⟨listed.1, exitRule⟩)
    (mem_exit_list.mpr ⟨member, neverListed.2⟩) with same | before | after
  · rw [same, neverListed.1] at effect
    cases effect
  · obtain ⟨predicate, inside, notKey, _⟩ := apart always
      (mem_exit_list.mpr ⟨listed.1, exitRule⟩) effect (selects_of_selected selected) before
    rcases unrestricted_field broad inside with isArch | isKey
    · have named := mem_predicates_on.mpr ⟨inside, isArch⟩
      simp [selection.archFree always candidate] at named
    · exact absurd isKey notKey
  · exact after

end OtherMachines

/-- Off x86-64 the code takes no never rule into account. COVERED implies the
first-match law exactly when no never rule is exposed, and rules out a never rule in
front of every unrestricted always rule exactly when there is none. -/
theorem exec_other_first_match_exact (parsed : ParseResult) (machineArch : String)
    (other : machineArch ≠ "x86_64" ∧ machineArch ≠ "amd64") (plain : SymbolicRuleset parsed) :
    (((evaluateProcessCreation parsed machineArch).1 = .covered →
        IncludesEveryExec parsed.rules ∧ ¬EarlyNever parsed.rules) ↔
      (Unsuppressed parsed.rules ∧ OtherSelection parsed.rules → ¬EarlyNever parsed.rules)) ∧
    (((evaluateProcessCreation parsed machineArch).1 = .covered →
        IncludesEveryExec parsed.rules) ↔
      (Unsuppressed parsed.rules ∧ OtherSelection parsed.rules → ¬ExposedNever parsed.rules)) := by
  have offX86 : isX86 machineArch = false := by
    simp [isX86, other.1, other.2]
  have covered : (evaluateProcessCreation parsed machineArch).1 = .covered ↔
      Unsuppressed parsed.rules ∧ OtherSelection parsed.rules := by
    rw [exec_covered_iff machineArch plain.effective, Selection, offX86, if_neg (by decide)]
  have increasing := plain.exitIncreasing
  rw [covered]
  constructor
  · constructor
    · intro law generic
      exact (law generic).2
    · intro clean generic
      refine ⟨(includes_every_exec_iff increasing generic.2).mpr ?_, clean generic⟩
      exact fun exposed => clean generic (early_of_exposed increasing generic.2 exposed)
  · constructor
    · intro law generic
      exact (includes_every_exec_iff increasing generic.2).mp (law generic)
    · intro clean generic
      exact (includes_every_exec_iff increasing generic.2).mpr (clean generic)

/-- A never rule for root in front of the only always rule. -/
def neverFirstListing : ParseResult where
  determinacy := .effective
  rules :=
    [listedRule .excluded "exit" {"execve"} [⟨"uid", .eq, "0"⟩] 1,
      listedRule .included "exit" {"execve", "execveat"} [] 2]

theorem exec_other_first_match_exact_never_first :
    (((evaluateProcessCreation neverFirstListing "aarch64").1 = .covered →
        IncludesEveryExec neverFirstListing.rules ∧ ¬EarlyNever neverFirstListing.rules) ↔
      (Unsuppressed neverFirstListing.rules ∧ OtherSelection neverFirstListing.rules →
        ¬EarlyNever neverFirstListing.rules)) ∧
    (((evaluateProcessCreation neverFirstListing "aarch64").1 = .covered →
        IncludesEveryExec neverFirstListing.rules) ↔
      (Unsuppressed neverFirstListing.rules ∧ OtherSelection neverFirstListing.rules →
        ¬ExposedNever neverFirstListing.rules)) :=
  exec_other_first_match_exact neverFirstListing "aarch64" (by decide)
    ⟨rfl, by decide, by decide⟩

/-- The listing is reported as COVERED, and an execve of root is decided by the never rule. -/
theorem never_first_listing_covered :
    SymbolicRuleset neverFirstListing ∧
      (evaluateProcessCreation neverFirstListing "aarch64").1 = .covered ∧
      EarlyNever neverFirstListing.rules ∧
      (exitDecider neverFirstListing.rules ⟨"execve", fun _ => true⟩).map Rule.effect =
        some .excluded := by
  refine ⟨⟨rfl, by decide, by decide⟩, by decide, ?_, by decide⟩
  refine ⟨"execve", by decide, _, List.mem_cons_self, by decide, by decide, by decide⟩

end Sigmascope
