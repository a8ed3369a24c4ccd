import Sigmascope.Evaluate.Disjunction

/-!
The exit code of the command line. The gate ranks the verdicts by severity, which is
not the preference of the disjunction: there a lack of information beats a known gap.
-/

namespace Sigmascope

set_option autoImplicit false

/-- The choices of `--fail-on`. -/
inductive FailOn where
  | none
  | degraded
  | notCovered
  | indeterminate
deriving DecidableEq, Repr

def FailOn.value : FailOn → String
  | .none => "none"
  | .degraded => "degraded"
  | .notCovered => "not_covered"
  | .indeterminate => "indeterminate"

/-- The table `order` of `_threshold_met`. -/
def severityOrder : List (String × Nat) :=
  [("covered", 0), ("degraded", 1), ("not_covered", 2), ("indeterminate", 3)]

/-- The lookup with its default; the choices of `--fail-on` are all in the table. -/
def severity (verdict : String) : Nat := (severityOrder.lookup verdict).getD 0

def thresholdMet (findings : List Finding) (threshold : FailOn) : Bool :=
  if threshold = .none then false
  else findings.any fun item => decide (severity threshold.value ≤ severity item.verdict.value)

def exitCode (findings : List Finding) (failOn : FailOn) : Nat :=
  if thresholdMet findings failOn then 3 else 0

/-- The finding makes the gate fail. -/
def fails (threshold : FailOn) (verdict : Verdict) : Bool :=
  threshold != .none && decide (severity threshold.value ≤ severity verdict.value)

theorem threshold_met_eq (findings : List Finding) (threshold : FailOn) :
    thresholdMet findings threshold = findings.any fun item => fails threshold item.verdict := by
  by_cases off : threshold = .none
  · simp [thresholdMet, fails, off]
  · have chosen : (threshold != .none) = true := bne_iff_ne.mpr off
    rw [thresholdMet, if_neg off]
    simp only [fails, chosen, Bool.true_and]

/-- The only way in which a better verdict of the disjunction is a worse one for the gate. -/
theorem fails_max_iff (threshold : FailOn) (verdict other : Verdict)
    (passes : fails threshold verdict = false) :
    fails threshold (max verdict other) = true ↔
      other = .indeterminate ∧ (verdict ≠ .covered ∧ verdict ≠ .indeterminate) ∧
        (threshold = .notCovered ∨ threshold = .indeterminate) := by
  revert passes
  cases threshold <;> cases verdict <;> cases other <;> decide

/-- A passing gate is made to fail by one more provider exactly when the provider cannot be read,
no other one covers the requirement or cannot be read, and the threshold asks for more than a
partial gap. -/
theorem extra_provider_fails_iff (requirement : Requirement) (providers : List ProviderResult)
    (extra : ProviderResult) (before after : List Finding) (threshold : FailOn)
    (provided : providers ≠ [])
    (passes : thresholdMet
      (before ++ resolveProviderDisjunction requirement providers :: after) threshold = false) :
    thresholdMet
        (before ++ resolveProviderDisjunction requirement (providers ++ [extra]) :: after)
        threshold = true ↔
      extra.verdict = .indeterminate ∧
        (∀ item ∈ providers, item.verdict ≠ .covered ∧ item.verdict ≠ .indeterminate) ∧
          (threshold = .notCovered ∨ threshold = .indeterminate) := by
  rw [threshold_met_eq, List.any_append, List.any_cons, Bool.or_eq_false_iff,
    Bool.or_eq_false_iff] at passes
  obtain ⟨front, own, back⟩ := passes
  have alone : (resolveProviderDisjunction requirement [extra]).verdict = extra.verdict := rfl
  have neither : (∀ item ∈ providers, item.verdict ≠ .covered ∧ item.verdict ≠ .indeterminate) ↔
      (resolveProviderDisjunction requirement providers).verdict ≠ .covered ∧
        (resolveProviderDisjunction requirement providers).verdict ≠ .indeterminate := by
    rw [ne_eq, ne_eq, resolve_covered_iff requirement provided,
      resolve_indeterminate_iff requirement provided]
    push Not
    constructor
    · intro free
      refine ⟨fun item member => (free item member).1, ?_⟩
      intro unreadable
      obtain ⟨item, member, unread⟩ := unreadable
      exact absurd unread (free item member).2
    · intro given item member
      refine ⟨given.1 item member, ?_⟩
      intro unread
      obtain ⟨other, inside, covers⟩ := given.2 ⟨item, member, unread⟩
      exact given.1 other inside covers
  rw [threshold_met_eq, List.any_append, List.any_cons, front, back, Bool.false_or, Bool.or_false,
    resolve_append requirement provided (List.cons_ne_nil extra []), alone,
    fails_max_iff threshold _ _ own, neither]

/-- A partial gap, and a second provider that cannot be read. -/
def partialResult : ProviderResult := ⟨"a", .degraded, "partial", []⟩

theorem extra_provider_fails_iff_partial :
    thresholdMet
        ([] ++ resolveProviderDisjunction linuxFileEvent ([partialResult] ++ [unreadableResult]) ::
          [])
        .indeterminate = true ↔
      unreadableResult.verdict = .indeterminate ∧
        (∀ item ∈ [partialResult],
          item.verdict ≠ .covered ∧ item.verdict ≠ .indeterminate) ∧
          (FailOn.indeterminate = .notCovered ∨ FailOn.indeterminate = .indeterminate) :=
  extra_provider_fails_iff linuxFileEvent [partialResult] unreadableResult [] [] .indeterminate
    (by decide) (by decide)

/-- The gate passes with the partial gap alone and fails with the alternative beside it. -/
theorem unreadable_alternative_fails :
    thresholdMet [resolveProviderDisjunction linuxFileEvent [partialResult]]
        .indeterminate = false ∧
      thresholdMet [resolveProviderDisjunction linuxFileEvent [partialResult, unreadableResult]]
        .indeterminate = true := by
  decide

end Sigmascope
