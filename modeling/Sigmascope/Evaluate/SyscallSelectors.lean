import Sigmascope.Evaluate.ExitFilter

/-!
Syscall sets as the evaluator reads them. Two readings are kept apart from the
plain one: a number selects whatever the kernel takes it for, and an empty set
selects every call on a never rule and none on an always rule.
-/

namespace Sigmascope

set_option autoImplicit false

open Sigmascope.Library

/-- The set names an exec call, or all calls. -/
def namesExec (rule : Rule) : Bool :=
  decide ("all" ∈ rule.syscalls ∨ "execve" ∈ rule.syscalls ∨ "execveat" ∈ rule.syscalls)

/-- The set consists of numbers, and holds one. -/
def numbersOnly (rule : Rule) : Bool :=
  decide (rule.syscalls ≠ ∅) &&
    decide (∀ item ∈ rule.syscalls, PyText.isDigit item = true)

def isAlwaysExit (rule : Rule) : Bool := rule.effect == .included && rule.onList "exit"

theorem names_exec_iff {rule : Rule} :
    namesExec rule = true ↔ selectedSyscalls rule ≠ [] := by
  rw [ne_eq, List.eq_nil_iff_forall_not_mem]
  push Not
  simp only [mem_selected_syscalls, namesExec, decide_eq_true_eq, targetSyscalls,
    List.mem_cons, List.not_mem_nil, or_false]
  constructor
  · intro given
    rcases given with everything | first | second
    · exact ⟨"execve", Or.inl rfl, Or.inl everything⟩
    · exact ⟨"execve", Or.inl rfl, Or.inr first⟩
    · exact ⟨"execveat", Or.inr rfl, Or.inr second⟩
  · intro given
    rcases given with ⟨_, rfl | rfl, everything | selected⟩
    · exact Or.inl everything
    · exact Or.inr (Or.inl selected)
    · exact Or.inl everything
    · exact Or.inr (Or.inr selected)

theorem candidate_iff_names_exec {rule : Rule} :
    isCandidate rule = true ↔ isAlwaysExit rule = true ∧ namesExec rule = true := by
  rw [candidate_iff, names_exec_iff, isAlwaysExit, Bool.and_eq_true, beq_iff_eq]
  tauto

theorem numeric_iff_numbers_only {rule : Rule} :
    isNumericRule rule = true ↔ isAlwaysExit rule = true ∧ numbersOnly rule = true := by
  simp only [isNumericRule, isAlwaysExit, numbersOnly, Bool.and_eq_true]
  tauto

theorem exec_candidates_ne_nil_iff {rules : List Rule} :
    execCandidates rules ≠ [] ↔
      ∃ rule ∈ rules, isAlwaysExit rule = true ∧ namesExec rule = true := by
  rw [ne_eq, List.eq_nil_iff_forall_not_mem]
  push Not
  simp only [mem_exec_candidates, candidate_iff_names_exec]

/-- With no never rule on the task list, a gap is reported exactly when no always,exit rule
names an exec call and none consists of numbers. -/
theorem exec_not_covered_audited {parsed : ParseResult} (machineArch : String)
    (effective : parsed.determinacy = .effective) (audited : taskSuppressors parsed.rules = []) :
    (evaluateProcessCreation parsed machineArch).1 = .notCovered ↔
      ∀ rule ∈ parsed.rules, isAlwaysExit rule = true →
        namesExec rule = false ∧ numbersOnly rule = false := by
  rw [exec_not_covered_iff machineArch effective, audited, ← not_iff_not]
  simp only [List.any_nil, Bool.false_eq_true, and_false, or_false, not_and_or,
    exec_candidates_ne_nil_iff, Bool.not_eq_false, List.any_eq_true, numeric_iff_numbers_only]
  push Not
  constructor
  · intro given
    rcases given with ⟨rule, member, always, named⟩ | ⟨rule, member, always, numbers⟩
    · refine ⟨rule, member, always, ?_⟩
      intro unnamed
      rw [named] at unnamed
      cases unnamed
    · exact ⟨rule, member, always, fun _ => by simp [numbers]⟩
  · intro given
    rcases given with ⟨rule, member, always, reads⟩
    cases named : namesExec rule with
    | true => exact Or.inl ⟨rule, member, always, named⟩
    | false => exact Or.inr ⟨rule, member, always, by simpa using reads named⟩

/-- A listing with numbers in it is kept from being reported as a gap exactly when some
always,exit rule names an exec call or consists of numbers only. -/
theorem numbered_rules_verdict_iff (parsed : ParseResult) (machineArch : String)
    (effective : parsed.determinacy = .effective)
    (audited : taskSuppressors parsed.rules = []) :
    (evaluateProcessCreation parsed machineArch).1 ≠ .notCovered ↔
      ∃ rule ∈ parsed.rules, isAlwaysExit rule = true ∧
        (namesExec rule = true ∨ numbersOnly rule = true) := by
  rw [ne_eq, exec_not_covered_audited machineArch effective audited]
  push Not
  simp only [ne_eq, Bool.not_eq_false, or_iff_not_imp_left, Bool.not_eq_true]

/-- Number 59 and a name in one selector: `-a always,exit -S 59,openat`. -/
def numberBesideName : ParseResult where
  determinacy := .effective
  rules := [listedRule .included "exit" {"59", "openat"} [] 1]

theorem numbered_rules_verdict_iff_beside_name :
    (evaluateProcessCreation numberBesideName "x86_64").1 ≠ .notCovered ↔
      ∃ rule ∈ numberBesideName.rules, isAlwaysExit rule = true ∧
        (namesExec rule = true ∨ numbersOnly rule = true) :=
  numbered_rules_verdict_iff numberBesideName "x86_64" rfl rfl

/-- The number may be that of execve, and a gap is reported all the same. -/
theorem number_beside_name_reported_gap :
    numberBesideName.determinacy = .effective ∧
      (∀ rule ∈ numberBesideName.rules, rule.effect = .excluded → rule.onList "task" = false) ∧
      (∃ rule ∈ numberBesideName.rules, rule.effect = .included ∧ rule.onList "exit" = true ∧
        ∃ item ∈ rule.syscalls, PyText.isDigit item = true) ∧
      (evaluateProcessCreation numberBesideName "x86_64").1 = .notCovered := by
  decide

section EmptySelector

variable {always : Rule}

/-- The never rule with the selector and the predicates of an always rule. -/
def asNever (always : Rule) : Rule := { always with effect := .excluded }

/-- Predicates that a key or a plain `arch=b64` or `arch=b32` makes. -/
def ArchOrKey (predicate : Predicate) : Prop :=
  predicate.field = "arch" ∧ predicate.op = .eq ∧
      (predicate.value = "b64" ∨ predicate.value = "b32") ∨
    predicate.field = "key"

theorem as_never_suppresses_iff {arch syscall : String} (onExit : always.onList "exit" = true) :
    exitRuleSuppresses (asNever always) arch syscall = true ↔
      selectsCall always syscall = true ∧ (arches always = [] ∨ arch ∈ arches always) := by
  have never : isNeverExit (asNever always) = true := never_exit_iff.mpr ⟨rfl, onExit⟩
  rw [suppresses_iff, never]
  simp only [true_and]
  rfl

/-- Some architecture of an x86-64 host is among those that the rule applies to. -/
theorem some_arch_applies (plain : ∀ predicate ∈ always.predicates, ArchOrKey predicate) :
    ∃ arch ∈ ["b64", "b32"], arches always = [] ∨ arch ∈ arches always := by
  cases named : arches always with
  | nil => exact ⟨"b64", by decide, Or.inl rfl⟩
  | cons arch others =>
      have first : arch ∈ arches always := by
        rw [named]
        exact List.mem_cons_self
      obtain ⟨predicate, member, isArch, _, value⟩ := mem_arches.mp first
      refine ⟨arch, ?_, Or.inr List.mem_cons_self⟩
      rcases plain predicate member with ⟨_, _, known⟩ | isKey
      · rw [value] at known
        simpa using known
      · rw [isArch] at isKey
        exact absurd isKey (by decide)

/-- A selector that is not empty means the same on both sides. -/
theorem selected_iff_selects {syscall : String} (target : syscall ∈ targetSyscalls)
    (given : always.syscalls ≠ ∅) :
    syscall ∈ selectedSyscalls always ↔ selectsCall always syscall = true := by
  rw [mem_selected_syscalls, selectsCall, decide_eq_true_eq]
  tauto

end EmptySelector

/-- What the never rule suppresses is selected by the always rule with the same selector
and predicates, and no gap is reported, exactly when the selector is not empty. -/
theorem selector_read_alike_iff (parsed : ParseResult) (machineArch : String) (always : Rule)
    (effective : parsed.determinacy = .effective) (audited : taskSuppressors parsed.rules = [])
    (member : always ∈ parsed.rules) (included : always.effect = .included)
    (onExit : always.onList "exit" = true)
    (plain : ∀ predicate ∈ always.predicates, ArchOrKey predicate) :
    (∀ arch ∈ ["b64", "b32"], ∀ syscall ∈ targetSyscalls,
        exitRuleSuppresses (asNever always) arch syscall = true →
          syscall ∈ selectedSyscalls always ∧
            (evaluateProcessCreation parsed machineArch).1 ≠ .notCovered) ↔
      always.syscalls ≠ ∅ := by
  constructor
  · intro alike empty
    obtain ⟨arch, inside, applies⟩ := some_arch_applies plain
    have everyCall : selectsCall always "execve" = true := by
      simp [selectsCall, empty]
    have suppresses := (as_never_suppresses_iff onExit).mpr ⟨everyCall, applies⟩
    have selected := (alike arch inside "execve" (by decide) suppresses).1
    rw [mem_selected_syscalls, empty] at selected
    simp at selected
  · intro given arch _ syscall target suppresses
    have selects := ((as_never_suppresses_iff onExit).mp suppresses).1
    have selected := (selected_iff_selects target given).mpr selects
    refine ⟨selected, ?_⟩
    have named : namesExec always = true := names_exec_iff.mpr (List.ne_nil_of_mem selected)
    have isAlways : isAlwaysExit always = true := by
      simp [isAlwaysExit, included, onExit]
    rw [ne_eq, exec_not_covered_audited machineArch effective audited]
    intro silent
    have unnamed := (silent always member isAlways).1
    rw [named] at unnamed
    cases unnamed

/-- An always rule without `-S`, which the kernel applies to every call. -/
def selectorLeftOut : Rule := listedRule .included "exit" ∅ [⟨"arch", .eq, "b64"⟩] 1

def leftOutListing : ParseResult where
  determinacy := .effective
  rules := [selectorLeftOut]

theorem selector_read_alike_iff_left_out :
    (∀ arch ∈ ["b64", "b32"], ∀ syscall ∈ targetSyscalls,
        exitRuleSuppresses (asNever selectorLeftOut) arch syscall = true →
          syscall ∈ selectedSyscalls selectorLeftOut ∧
            (evaluateProcessCreation leftOutListing "x86_64").1 ≠ .notCovered) ↔
      selectorLeftOut.syscalls ≠ ∅ :=
  selector_read_alike_iff leftOutListing "x86_64" selectorLeftOut rfl rfl
    List.mem_cons_self rfl rfl (by simp [selectorLeftOut, listedRule, ArchOrKey])

/-- The rule without `-S` suppresses execve as a never rule and selects nothing as an
always rule, so a gap is reported. -/
theorem selector_left_out_read_apart :
    selectorLeftOut ∈ leftOutListing.rules ∧ selectorLeftOut.syscalls = ∅ ∧
      exitRuleSuppresses (asNever selectorLeftOut) "b64" "execve" = true ∧
      "execve" ∉ selectedSyscalls selectorLeftOut ∧
      (evaluateProcessCreation leftOutListing "x86_64").1 = .notCovered := by
  decide

end Sigmascope
