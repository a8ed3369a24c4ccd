import Sigmascope.Evaluate.ExitFilter

/-!
Architecture and system call selectors that the evaluator does not interpret.
The arch predicates of one rule are conjunctive, and a name other than b64 and
b32 may denote either; a decimal system call token may denote any call. The
results say for which listings the verdict COVERED respects this reading.
-/

namespace Sigmascope

set_option autoImplicit false

open Sigmascope.Library

def knownArches : List String := ["b64", "b32"]

/-- The predicate certainly holds on the architecture. -/
def archHolds (arch : String) (predicate : Predicate) : Bool :=
  match predicate.op with
  | .eq => predicate.value == arch
  | .ne => knownArches.contains predicate.value && predicate.value != arch
  | _ => false

/-- The predicate may hold on the architecture. -/
def archCouldHold (arch : String) (predicate : Predicate) : Bool :=
  match predicate.op with
  | .eq => predicate.value == arch || !knownArches.contains predicate.value
  | .ne => predicate.value != arch
  | _ => true

def satisfiesArch (rule : Rule) (arch : String) : Bool :=
  (rule.predicatesOn "arch").all (archHolds arch)

def admitsArch (rule : Rule) (arch : String) : Bool :=
  (rule.predicatesOn "arch").all (archCouldHold arch)

/-- The listing is reported below COVERED for a reason that the names in it give:
a suppressing list, a candidate without architecture, a pair without covering rule,
or a never rule in front of the covering rule. -/
def WithheldByNames (rules : List Rule) : Prop :=
  (∃ rule ∈ rules, rule.effect = .excluded ∧
      (rule.onList "task" = true ∨ rule.onList "exclude" = true)) ∨
    (∃ rule ∈ execCandidates rules, arches rule = []) ∨
    (∃ pair ∈ requiredPairs, ∀ rule ∈ execCandidates rules, pair ∉ claimedPairs rule) ∨
    ∃ pair ∈ requiredPairs, ∃ rule, Covers rules pair rule ∧
      ∃ other ∈ rules, other.order < rule.order ∧
        exitRuleSuppresses other pair.1 pair.2 = true

theorem not_unsuppressed_iff (rules : List Rule) :
    ¬Unsuppressed rules ↔ ∃ rule ∈ rules, rule.effect = .excluded ∧
      (rule.onList "task" = true ∨ rule.onList "exclude" = true) := by
  simp only [Unsuppressed]
  push Not
  apply exists_congr
  intro rule
  apply and_congr_right
  intro _
  apply and_congr_right
  intro _
  cases rule.onList "task" <;> cases rule.onList "exclude" <;> simp

theorem uncovered_iff (rules : List Rule) (pair : ArchSyscall) :
    (¬∃ rule, Covers rules pair rule) ↔
      ∀ rule ∈ execCandidates rules, pair ∉ claimedPairs rule := by
  simp only [Covers, ← Option.isSome_iff_exists, Bool.not_eq_true, Option.isSome_eq_false_iff,
    Option.isNone_iff_eq_none, List.find?_eq_none, decide_eq_true_eq]

theorem not_x86_selection_iff (rules : List Rule) :
    ¬X86Selection rules ↔
      (∃ rule ∈ execCandidates rules, arches rule = []) ∨
      (∃ pair ∈ requiredPairs, ∀ rule ∈ execCandidates rules, pair ∉ claimedPairs rule) ∨
      ∃ pair ∈ requiredPairs, ∃ rule, Covers rules pair rule ∧
        ∃ other ∈ rules, other.order < rule.order ∧
          exitRuleSuppresses other pair.1 pair.2 = true := by
  constructor
  · intro unselected
    by_contra settled
    push Not at settled
    obtain ⟨named, covered, clean⟩ := settled
    apply unselected
    refine ⟨named, ?_⟩
    intro pair required
    have exists_cover : ∃ rule, Covers rules pair rule := by
      by_contra uncovered
      obtain ⟨rule, candidate, claims⟩ := covered pair required
      exact (uncovered_iff rules pair).mp uncovered rule candidate claims
    obtain ⟨rule, covers⟩ := exists_cover
    refine ⟨rule, covers, ?_⟩
    intro other member before
    simpa using clean pair required rule covers other member before
  · intro withheld selection
    rcases withheld with ⟨rule, candidate, bare⟩ | ⟨pair, required, unclaimed⟩ |
      ⟨pair, required, rule, covers, other, member, before, suppresses⟩
    · exact selection.archGiven rule candidate bare
    · obtain ⟨rule, covers, _⟩ := selection.pairCovered pair required
      exact (uncovered_iff rules pair).mpr unclaimed ⟨rule, covers⟩
    · obtain ⟨first, coversFirst, clean⟩ := selection.pairCovered pair required
      have same : first = rule := Option.some.inj (coversFirst.symm.trans covers)
      rw [clean other member (same ▸ before)] at suppresses
      cases suppresses

theorem exec_x86_not_covered_iff {parsed : ParseResult} {machineArch : String}
    (x86 : isX86 machineArch = true) (effective : parsed.determinacy = .effective) :
    (evaluateProcessCreation parsed machineArch).1 ≠ .covered ↔
      WithheldByNames parsed.rules := by
  rw [Ne, exec_covered_iff machineArch effective, Selection, if_pos x86, not_and_or,
    not_unsuppressed_iff, not_x86_selection_iff, WithheldByNames]

/-- A never,exit rule with a decimal token, which may denote any call, precedes the
rule that covers some pair on an architecture that it admits. -/
def NumericNeverFirst (rules : List Rule) : Prop :=
  ∃ pair ∈ requiredPairs, ∃ never ∈ rules, isNeverExit never = true ∧
    (∃ token ∈ never.syscalls, PyText.isDigit token = true) ∧ admitsArch never pair.1 = true ∧
      ∃ always, Covers rules pair always ∧ never.order < always.order

/-- The earlier-never check reads names only, so a numeric never rule in front keeps
COVERED away exactly when something else in the listing does. -/
theorem exec_numeric_never_exact (parsed : ParseResult) (machineArch : String)
    (x86 : machineArch = "x86_64" ∨ machineArch = "amd64")
    (effective : parsed.determinacy = .effective) (_numeric : NumericNeverFirst parsed.rules) :
    (evaluateProcessCreation parsed machineArch).1 ≠ .covered ↔ WithheldByNames parsed.rules := by
  apply exec_x86_not_covered_iff _ effective
  rcases x86 with rfl | rfl <;> decide

/-- System call 59 is execve on x86-64. -/
def numericNeverListing : ParseResult where
  determinacy := .effective
  rules :=
    [listedRule .excluded "exit" {"59"} [⟨"arch", .eq, "b64"⟩] 1,
      listedRule .included "exit" {"execve", "execveat"} [⟨"arch", .eq, "b64"⟩] 2,
      listedRule .included "exit" {"execve", "execveat"} [⟨"arch", .eq, "b32"⟩] 3]

theorem numeric_never_listing_first : NumericNeverFirst numericNeverListing.rules :=
  ⟨("b64", "execve"), by decide, _, List.mem_cons_self, by decide, ⟨"59", by decide, by decide⟩,
    by decide, _, rfl, by decide⟩

theorem exec_numeric_never_exact_execve :
    (evaluateProcessCreation numericNeverListing "x86_64").1 ≠ .covered ↔
      WithheldByNames numericNeverListing.rules :=
  exec_numeric_never_exact numericNeverListing "x86_64" (Or.inl rfl) rfl
    numeric_never_listing_first

theorem numeric_never_listing_covered :
    numericNeverListing.determinacy = .effective ∧
      NumericNeverFirst numericNeverListing.rules ∧
      (evaluateProcessCreation numericNeverListing "x86_64").1 = .covered :=
  ⟨rfl, numeric_never_listing_first, by decide⟩

/-- An unrestricted always,exit rule selects the call and all its arch predicates hold. -/
def consistentlyCovers (rule : Rule) (pair : ArchSyscall) : Bool :=
  rule.onList "exit" && rule.effect == .included && !restrictive rule &&
    selectsCall rule pair.2 && satisfiesArch rule pair.1

/-- A never,exit rule selects the call and all its arch predicates may hold. -/
def possiblySuppresses (rule : Rule) (pair : ArchSyscall) : Bool :=
  isNeverExit rule && selectsCall rule pair.2 && admitsArch rule pair.1

/-- Each pair has an always rule that applies on its architecture, with no never rule
numbered before it that may apply there. -/
def ArchSound (rules : List Rule) : Prop :=
  ∀ pair ∈ requiredPairs, ∃ always ∈ rules, consistentlyCovers always pair = true ∧
    ∀ never ∈ rules, never.order < always.order → possiblySuppresses never pair = false

instance (rules : List Rule) : Decidable (ArchSound rules) := by
  unfold ArchSound
  infer_instance

/-- A never rule that may apply to the pair and that the evaluator passes over: it
reads the architecture names as others, or it stops looking at the rule whose arch
values contain the architecture. -/
def Overlooked (rules : List Rule) (pair : ArchSyscall) (never : Rule) : Prop :=
  possiblySuppresses never pair = true ∧
    (exitRuleSuppresses never pair.1 pair.2 = false ∨
      ∃ rule, Covers rules pair rule ∧ rule.order ≤ never.order)

/-- Each pair has an always rule that applies on its architecture, with no overlooked
never rule numbered before it. -/
def NothingOverlooked (rules : List Rule) : Prop :=
  ∀ pair ∈ requiredPairs, ∃ always ∈ rules, consistentlyCovers always pair = true ∧
    ∀ never ∈ rules, Overlooked rules pair never → always.order ≤ never.order

/-- Where the code finds its selection, a never rule before the covering rule is
either seen and refused or overlooked. -/
theorem arch_sound_iff_nothing_overlooked {rules : List Rule} (selection : X86Selection rules) :
    ArchSound rules ↔ NothingOverlooked rules := by
  apply forall_congr'
  intro pair
  apply forall_congr'
  intro required
  apply exists_congr
  intro always
  apply and_congr_right
  intro _
  apply and_congr_right
  intro _
  constructor
  · intro clean never member overlooked
    by_contra before
    have harmless := clean never member (Nat.lt_of_not_le before)
    rw [overlooked.1] at harmless
    cases harmless
  · intro clean never member before
    by_contra possible
    simp only [Bool.not_eq_false] at possible
    obtain ⟨rule, covers, checked⟩ := selection.pairCovered pair required
    have overlooked : Overlooked rules pair never := by
      refine ⟨possible, ?_⟩
      by_cases early : never.order < rule.order
      · exact Or.inl (checked never member early)
      · exact Or.inr ⟨rule, covers, Nat.le_of_not_lt early⟩
    exact absurd before (Nat.not_lt.mpr (clean never member overlooked))

/-- COVERED respects the arch selectors exactly on the listings where no rule is
taken for an architecture that its predicates exclude and no never rule is overlooked. -/
theorem exec_arch_selectors_exact (parsed : ParseResult) (machineArch : String)
    (x86 : machineArch = "x86_64" ∨ machineArch = "amd64")
    (effective : parsed.determinacy = .effective) :
    ((evaluateProcessCreation parsed machineArch).1 = .covered → ArchSound parsed.rules) ↔
      (Unsuppressed parsed.rules ∧ X86Selection parsed.rules →
        NothingOverlooked parsed.rules) := by
  have onX86 : isX86 machineArch = true := by
    rcases x86 with rfl | rfl <;> decide
  rw [exec_covered_iff machineArch effective, Selection, if_pos onX86]
  apply forall_congr'
  intro generic
  exact arch_sound_iff_nothing_overlooked generic.2

/-- The only rule asks for both architectures at once, so it never matches. -/
def bothAtOnceListing : ParseResult where
  determinacy := .effective
  rules :=
    [listedRule .included "exit" {"execve", "execveat"}
      [⟨"arch", .eq, "b64"⟩, ⟨"arch", .eq, "b32"⟩] 1]

theorem exec_arch_selectors_exact_both_at_once :
    ((evaluateProcessCreation bothAtOnceListing "x86_64").1 = .covered →
        ArchSound bothAtOnceListing.rules) ↔
      (Unsuppressed bothAtOnceListing.rules ∧ X86Selection bothAtOnceListing.rules →
        NothingOverlooked bothAtOnceListing.rules) :=
  exec_arch_selectors_exact bothAtOnceListing "x86_64" (Or.inl rfl) rfl

theorem both_at_once_listing_covered :
    bothAtOnceListing.determinacy = .effective ∧
      (evaluateProcessCreation bothAtOnceListing "x86_64").1 = .covered ∧
      ¬ArchSound bothAtOnceListing.rules := by
  decide

end Sigmascope
