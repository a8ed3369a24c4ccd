import Sigmascope.Evaluate.ExitFilter
import Sigmascope.Evaluate.Renumbering

/-!
Rule lists that say the same thing about exec. A stretch of a list may be rewritten when
it answers every question of the evaluator as before and does not mix rules that claim a
pair with rules that suppress it.
-/

namespace Sigmascope

set_option autoImplicit false

open Sigmascope.Library

/-- The never rule applies to the pair. -/
abbrev suppresses (pair : ArchSyscall) (rule : Rule) : Bool :=
  exitRuleSuppresses rule pair.1 pair.2

theorem suppresses_never {pair : ArchSyscall} {rule : Rule}
    (applies : suppresses pair rule = true) :
    rule.onList "exit" = true ∧ rule.effect = .excluded := by
  unfold suppresses exitRuleSuppresses at applies
  split at applies
  · cases applies
  · rename_i given
    simpa using given

theorem claims_always {pair : ArchSyscall} {rule : Rule} (claimed : claims pair rule = true) :
    rule.onList "exit" = true ∧ rule.effect = .included := by
  rw [claims, Bool.and_eq_true, candidate_iff] at claimed
  exact ⟨claimed.1.1, claimed.1.2.1⟩

/-- Two stretches of rules that answer alike and, pair by pair, do not both claim and suppress. -/
structure SameStretch (first second : List Rule) : Prop where
  looks : ∀ look, ExecLook look → first.any look = second.any look
  never : ∀ pair, first.any (suppresses pair) = second.any (suppresses pair)
  unmixed : ∀ pair, first.any (suppresses pair) = false ∨ first.any (claims pair) = false

theorem same_stretch_alike {first second : List Rule} (same : SameStretch first second)
    (left right : List Rule) :
    ExecAlike (left ++ (first ++ right)) (left ++ (second ++ right)) where
  looks look asked := by
    simp only [List.any_append, same.looks look asked]
  early pair :=
    stands_before_stretch left right (same.never pair) (same.looks _ (.claimed pair))
      (same.unmixed pair)

/-- The rule on the exit list with other system calls. -/
def withSyscalls (rule : Rule) (syscalls : Finset String) : Rule :=
  { rule with selector := .syscall ⟨syscalls, "exit"⟩ }

/-- One rule for each of the names, like the given rule in everything else. -/
def splitRule (rule : Rule) (names : List String) : List Rule :=
  names.map fun name => withSyscalls rule {name}

theorem with_own_syscalls {rule : Rule} (onExit : rule.onList "exit" = true) :
    withSyscalls rule rule.syscalls = rule := by
  obtain ⟨effect, selector, predicates, order, origin, raw⟩ := rule
  cases selector with
  | event => cases onExit
  | syscall selector =>
      have scope : selector.scope = "exit" := by simpa [Rule.onList] using onExit
      simp only [withSyscalls, Rule.syscalls, ← scope]

theorem any_split (look : Rule → Bool) (rule : Rule) (names : List String) :
    (splitRule rule names).any look = names.any fun name => look (withSyscalls rule {name}) := by
  rw [splitRule, List.any_map]
  rfl

section Split

variable {rule : Rule} {names : List String}

theorem candidate_with_syscalls (syscalls : Finset String) :
    isCandidate (withSyscalls rule syscalls) = true ↔
      rule.effect = .included ∧
        ∃ syscall, syscall ∈ selectedSyscalls (withSyscalls rule syscalls) := by
  rw [candidate_iff, ne_eq, List.eq_nil_iff_forall_not_mem, not_forall_not]
  exact ⟨fun given => given.2, fun given => ⟨rfl, given⟩⟩

theorem claims_with_syscalls (pair : ArchSyscall) (syscalls : Finset String) :
    claims pair (withSyscalls rule syscalls) = true ↔
      (rule.effect = .included ∧ restrictive rule = false ∧ pair.1 ∈ ["b64", "b32"] ∧
          pair.1 ∈ arches rule) ∧
        pair.2 ∈ selectedSyscalls (withSyscalls rule syscalls) := by
  rw [claims, Bool.and_eq_true, candidate_with_syscalls, List.contains_iff_mem, mem_claimed_pairs]
  constructor
  · intro given
    rcases given with ⟨⟨always, _⟩, free, known, named, selects⟩
    exact ⟨⟨always, free, known, named⟩, selects⟩
  · intro given
    rcases given with ⟨⟨always, free, known, named⟩, selects⟩
    exact ⟨⟨always, _, selects⟩, free, known, named, selects⟩

theorem selects_with_syscalls (syscall : String) (syscalls : Finset String) :
    (isCandidate (withSyscalls rule syscalls) && (!restrictive (withSyscalls rule syscalls) &&
        (selectedSyscalls (withSyscalls rule syscalls)).contains syscall)) = true ↔
      (rule.effect = .included ∧ restrictive rule = false) ∧
        syscall ∈ selectedSyscalls (withSyscalls rule syscalls) := by
  rw [Bool.and_eq_true, Bool.and_eq_true, candidate_with_syscalls, List.contains_iff_mem,
    Bool.not_eq_true']
  constructor
  · intro given
    rcases given with ⟨⟨always, _⟩, free, selects⟩
    exact ⟨⟨always, free⟩, selects⟩
  · intro given
    rcases given with ⟨⟨always, free⟩, selects⟩
    exact ⟨⟨always, _, selects⟩, free, selects⟩

variable (symbolic : "all" ∉ names)
include symbolic

theorem selected_split {syscall : String} :
    syscall ∈ selectedSyscalls (withSyscalls rule names.toFinset) ↔
      ∃ name ∈ names, syscall ∈ selectedSyscalls (withSyscalls rule {name}) := by
  have whole : (withSyscalls rule names.toFinset).syscalls = names.toFinset := rfl
  have part : ∀ name, (withSyscalls rule {name}).syscalls = {name} := fun _ => rfl
  simp only [mem_selected_syscalls, whole, part, List.mem_toFinset, Finset.mem_singleton]
  constructor
  · intro given
    rcases given with ⟨target, everything | own⟩
    · exact absurd everything symbolic
    · exact ⟨syscall, own, target, Or.inr rfl⟩
  · intro given
    rcases given with ⟨name, member, target, everything | own⟩
    · exact absurd (everything ▸ member) symbolic
    · exact ⟨target, Or.inr (own ▸ member)⟩

theorem candidate_split :
    isCandidate (withSyscalls rule names.toFinset) =
      names.any fun name => isCandidate (withSyscalls rule {name}) := by
  rw [Bool.eq_iff_iff, List.any_eq_true]
  simp only [candidate_with_syscalls, selected_split symbolic]
  constructor
  · intro given
    rcases given with ⟨always, syscall, name, member, selects⟩
    exact ⟨name, member, always, syscall, selects⟩
  · intro given
    rcases given with ⟨name, member, always, syscall, selects⟩
    exact ⟨always, syscall, name, member, selects⟩

/-- A question about candidates that does not look at the system calls. -/
theorem candidate_look_split (look : Rule → Bool)
    (blind : ∀ syscalls, look (withSyscalls rule syscalls) = look rule) :
    (isCandidate (withSyscalls rule names.toFinset) && look (withSyscalls rule names.toFinset)) =
      names.any fun name =>
        isCandidate (withSyscalls rule {name}) && look (withSyscalls rule {name}) := by
  simp only [blind, candidate_split symbolic]
  exact List.and_any_distrib_right

/-- A question whether one system call is selected, under conditions on the rest of the rule. -/
theorem selecting_look_split (look : Rule → Bool) {free : Prop} {syscall : String}
    (meaning : ∀ syscalls, look (withSyscalls rule syscalls) = true ↔
      free ∧ syscall ∈ selectedSyscalls (withSyscalls rule syscalls)) :
    look (withSyscalls rule names.toFinset) =
      names.any fun name => look (withSyscalls rule {name}) := by
  rw [Bool.eq_iff_iff, List.any_eq_true]
  simp only [meaning, selected_split symbolic]
  constructor
  · intro given
    rcases given with ⟨holds, name, member, selects⟩
    exact ⟨name, member, holds, selects⟩
  · intro given
    rcases given with ⟨name, member, holds, selects⟩
    exact ⟨holds, name, member, selects⟩

omit symbolic in
theorem suppresses_with_syscalls (pair : ArchSyscall) {syscalls : Finset String}
    (nonempty : syscalls ≠ ∅) (notAll : "all" ∉ syscalls) :
    suppresses pair (withSyscalls rule syscalls) = true ↔
      (rule.effect = .excluded ∧
          ((arches rule).isEmpty || (arches rule).contains pair.1) = true) ∧
        pair.2 ∈ syscalls := by
  have own : (withSyscalls rule syscalls).syscalls = syscalls := rfl
  have same : (withSyscalls rule syscalls).effect = rule.effect := rfl
  have listed : (withSyscalls rule syscalls).onList "exit" = true := rfl
  have named : arches (withSyscalls rule syscalls) = arches rule := rfl
  rw [suppresses, exitRuleSuppresses, own, same, listed, named]
  by_cases never : rule.effect = .excluded
  · by_cases member : pair.2 ∈ syscalls
    · simp [never, member]
    · simp [never, member, nonempty, notAll]
  · simp [never]

theorem suppresses_split (named : names ≠ []) (pair : ArchSyscall) :
    suppresses pair (withSyscalls rule names.toFinset) =
      names.any fun name => suppresses pair (withSyscalls rule {name}) := by
  have whole : names.toFinset ≠ ∅ := by simpa using named
  have part : ∀ name ∈ names, suppresses pair (withSyscalls rule {name}) = true ↔
      (rule.effect = .excluded ∧
          ((arches rule).isEmpty || (arches rule).contains pair.1) = true) ∧
        pair.2 = name := by
    intro name member
    rw [suppresses_with_syscalls pair (Finset.singleton_ne_empty name), Finset.mem_singleton]
    intro everything
    exact symbolic (Finset.mem_singleton.mp everything ▸ member)
  rw [Bool.eq_iff_iff, List.any_eq_true,
    suppresses_with_syscalls pair whole (by simpa using symbolic), List.mem_toFinset]
  constructor
  · intro given
    exact ⟨pair.2, given.2, (part pair.2 given.2).mpr ⟨given.1, rfl⟩⟩
  · intro given
    rcases given with ⟨name, member, applies⟩
    obtain ⟨holds, own⟩ := (part name member).mp applies
    exact ⟨holds, own ▸ member⟩

omit symbolic in
theorem named_not_numeric {syscalls : Finset String} {name : String} (member : name ∈ syscalls)
    (word : PyText.isDigit name = false) :
    isNumericRule (withSyscalls rule syscalls) = false := by
  have own : (withSyscalls rule syscalls).syscalls = syscalls := rfl
  have mixed : ¬∀ item ∈ syscalls, PyText.isDigit item = true := by
    intro digits
    rw [digits name member] at word
    cases word
  simp only [isNumericRule, own, mixed, decide_false, Bool.and_false]

/-- An exit rule answers every question like the rules for its names together. -/
theorem exec_look_split (named : names ≠ [])
    (words : ∀ name ∈ names, PyText.isDigit name = false) {look : Rule → Bool}
    (asked : ExecLook look) :
    look (withSyscalls rule names.toFinset) =
      names.any fun name => look (withSyscalls rule {name}) := by
  cases asked with
  | candidate => exact candidate_split symbolic
  | numeric =>
      obtain ⟨name, member⟩ := List.exists_mem_of_ne_nil names named
      rw [named_not_numeric (List.mem_toFinset.mpr member) (words name member), eq_comm,
        List.any_eq_false]
      intro other inside
      rw [named_not_numeric (Finset.mem_singleton_self other) (words other inside)]
      exact Bool.false_ne_true
  | neverTask => simp [withSyscalls, Rule.onList]
  | certainTask => simp [withSyscalls, Rule.onList]
  | neverExclude => simp [withSyscalls, Rule.onList]
  | bare => exact candidate_look_split symbolic (fun item => (arches item).isEmpty) fun _ => rfl
  | narrow => exact candidate_look_split symbolic restrictive fun _ => rfl
  | named =>
      exact candidate_look_split symbolic (fun item => item.predicatesOn "arch" != []) fun _ => rfl
  | claimed pair => exact selecting_look_split symbolic (claims pair) (claims_with_syscalls pair)
  | selected syscall =>
      exact selecting_look_split symbolic
        (fun item => isCandidate item &&
          (!restrictive item && (selectedSyscalls item).contains syscall))
        (selects_with_syscalls syscall)

theorem split_same_stretch (onExit : rule.onList "exit" = true)
    (split : names.toFinset = rule.syscalls) (named : names ≠ [])
    (words : ∀ name ∈ names, PyText.isDigit name = false) :
    SameStretch [rule] (splitRule rule names) := by
  have whole : withSyscalls rule names.toFinset = rule := by
    rw [split]
    exact with_own_syscalls onExit
  constructor
  · intro look asked
    rw [any_split, List.any_cons, List.any_nil, Bool.or_false,
      ← exec_look_split symbolic named words asked, whole]
  · intro pair
    rw [any_split, List.any_cons, List.any_nil, Bool.or_false,
      ← suppresses_split symbolic named pair, whole]
  · intro pair
    by_cases never : rule.effect = .excluded
    · right
      simp [claims, isCandidate, never]
    · left
      simp [suppresses, exitRuleSuppresses, never]

end Split

theorem swap_same_stretch {first second : Rule}
    (apart : first.effect = second.effect ∨
      ∀ scope, ¬(first.onList scope = true ∧ second.onList scope = true)) :
    SameStretch [first, second] [second, first] := by
  have exchanged : ∀ look : Rule → Bool, [first, second].any look = [second, first].any look := by
    intro look
    simp [Bool.or_comm]
  refine ⟨fun look _ => exchanged look, fun pair => exchanged _, ?_⟩
  intro pair
  by_contra mixed
  simp only [not_or, Bool.not_eq_false, List.any_eq_true] at mixed
  obtain ⟨⟨never, neverMember, applies⟩, always, alwaysMember, claimed⟩ := mixed
  have isNever := suppresses_never applies
  have isAlways := claims_always claimed
  have differ : never.effect ≠ always.effect := by
    rw [isNever.2, isAlways.2]
    decide
  simp only [List.mem_cons, List.not_mem_nil, or_false] at neverMember alwaysMember
  rcases neverMember with rfl | rfl
  · rcases alwaysMember with rfl | rfl
    · exact differ rfl
    · rcases apart with same | apart
      · exact differ same
      · exact apart "exit" ⟨isNever.1, isAlways.1⟩
  · rcases alwaysMember with rfl | rfl
    · rcases apart with same | apart
      · exact differ same.symm
      · exact apart "exit" ⟨isAlways.1, isNever.1⟩
    · exact differ rfl

/-- A stretch is rewritten and the list is numbered anew. -/
theorem stretch_process_creation {parsed : ParseResult} {left right first second after : List Rule}
    (same : SameStretch first second) (split : parsed.rules = left ++ (first ++ right))
    (relabelled : Relabelled (left ++ (second ++ right)) after)
    (increasing : Increasing parsed.rules) (increasingAfter : Increasing after)
    (machineArch : String) :
    evaluateProcessCreation { parsed with rules := after } machineArch =
      evaluateProcessCreation parsed machineArch := by
  have rewritten := same_stretch_alike same left right
  have labels := relabelled_alike relabelled
  have alike : ExecAlike parsed.rules after := by
    rw [split]
    constructor
    · intro look asked
      exact (rewritten.looks look asked).trans (labels.looks look asked)
    · intro pair
      exact (rewritten.early pair).trans (labels.early pair)
  exact (alike_process_creation alike parsed increasing increasingAfter machineArch).symm

/-- Splitting an exit rule by its symbolic names, and swapping two neighbours with the same effect
or without a common filter list, change neither the verdict nor the explanation. -/
theorem equivalent_lists_verdict (parsed : ParseResult) (machineArch : String)
    (left right after : List Rule) (increasing : Increasing parsed.rules)
    (increasingAfter : Increasing after) :
    (∀ rule names, parsed.rules = left ++ rule :: right → rule.onList "exit" = true →
        names.toFinset = rule.syscalls → names ≠ [] → "all" ∉ names →
        (∀ name ∈ names, PyText.isDigit name = false) →
        Relabelled (left ++ (splitRule rule names ++ right)) after →
          evaluateProcessCreation { parsed with rules := after } machineArch =
            evaluateProcessCreation parsed machineArch) ∧
      ∀ first second, parsed.rules = left ++ first :: second :: right →
        (first.effect = second.effect ∨
          ∀ scope, ¬(first.onList scope = true ∧ second.onList scope = true)) →
        Relabelled (left ++ second :: first :: right) after →
          evaluateProcessCreation { parsed with rules := after } machineArch =
            evaluateProcessCreation parsed machineArch := by
  constructor
  · intro rule names listed onExit split named symbolic words relabelled
    have same := split_same_stretch symbolic onExit split named words
    exact stretch_process_creation same listed relabelled increasing increasingAfter machineArch
  · intro first second listed apart relabelled
    have same := swap_same_stretch apart
    exact stretch_process_creation same listed relabelled increasing increasingAfter machineArch

/-- One rule for both calls on each architecture. -/
def joinedRules : ParseResult where
  determinacy := .effective
  rules :=
    [listedRule .included "exit" {"execve", "execveat"} [⟨"arch", .eq, "b64"⟩] 1,
      listedRule .included "exit" {"execve", "execveat"} [⟨"arch", .eq, "b32"⟩] 2]

/-- The first rule is split. -/
def splitFirst : List Rule :=
  [listedRule .included "exit" {"execve"} [⟨"arch", .eq, "b64"⟩] 1,
    listedRule .included "exit" {"execveat"} [⟨"arch", .eq, "b64"⟩] 2,
    listedRule .included "exit" {"execve", "execveat"} [⟨"arch", .eq, "b32"⟩] 3]

/-- The rules are swapped. -/
def swappedRules : List Rule :=
  [listedRule .included "exit" {"execve", "execveat"} [⟨"arch", .eq, "b32"⟩] 1,
    listedRule .included "exit" {"execve", "execveat"} [⟨"arch", .eq, "b64"⟩] 2]

theorem equivalent_lists_verdict_joined :
    evaluateProcessCreation { joinedRules with rules := splitFirst } "x86_64" =
        evaluateProcessCreation joinedRules "x86_64" ∧
      evaluateProcessCreation { joinedRules with rules := swappedRules } "x86_64" =
        evaluateProcessCreation joinedRules "x86_64" := by
  constructor
  · exact (equivalent_lists_verdict joinedRules "x86_64" [] _ splitFirst (by decide)
      (by decide)).1 _ ["execve", "execveat"] rfl (by decide) (by decide) (by decide)
      (by decide) (by decide) rfl
  · exact (equivalent_lists_verdict joinedRules "x86_64" [] [] swappedRules (by decide)
      (by decide)).2 _ _ rfl (Or.inl rfl) rfl

end Sigmascope
