import Sigmascope.Evaluate.Resolver

/-!
The disjunction of providers as a join. What it decides depends on the verdicts that
occur among the providers only, and appending lists of providers takes the greater
of two verdicts.
-/

namespace Sigmascope

set_option autoImplicit false

open Sigmascope.Library

section Join

variable (requirement : Requirement) {providers others : List ProviderResult}

theorem resolve_iff (provided : providers ≠ []) (verdict : Verdict) :
    (resolveProviderDisjunction requirement providers).verdict = verdict ↔
      IsGreatest {value | value ∈ providers.map ProviderResult.verdict} verdict := by
  have greatest := resolve_greatest requirement provided
  constructor
  · intro same
    rwa [same] at greatest
  · intro other
    exact greatest.unique other

theorem resolve_append (provided : providers ≠ []) (alternatives : others ≠ []) :
    (resolveProviderDisjunction requirement (providers ++ others)).verdict =
      max (resolveProviderDisjunction requirement providers).verdict
        (resolveProviderDisjunction requirement others).verdict := by
  rw [resolve_iff requirement (List.append_ne_nil_of_left_ne_nil provided _)]
  have joined := (resolve_greatest requirement provided).union
    (resolve_greatest requirement alternatives)
  have both : {value | value ∈ (providers ++ others).map ProviderResult.verdict} =
      {value | value ∈ providers.map ProviderResult.verdict} ∪
        {value | value ∈ others.map ProviderResult.verdict} := by
    ext value
    simp only [List.map_append, List.mem_append, Set.mem_ofPred_eq, Set.mem_union]
  rwa [both]

/-- The order of the providers and their repetitions do not matter. -/
theorem resolve_same_members (same : ∀ item, item ∈ others ↔ item ∈ providers) :
    (resolveProviderDisjunction requirement others).verdict =
      (resolveProviderDisjunction requirement providers).verdict := by
  cases providers with
  | nil =>
      have none : others = [] := List.eq_nil_iff_forall_not_mem.mpr fun item member =>
        List.not_mem_nil ((same item).mp member)
      rw [none]
  | cons first rest =>
      have provided : others ≠ [] := List.ne_nil_of_mem ((same first).mpr List.mem_cons_self)
      have verdicts : {value | value ∈ others.map ProviderResult.verdict} =
          {value | value ∈ (first :: rest).map ProviderResult.verdict} := by
        ext value
        simp only [Set.mem_ofPred_eq, List.mem_map, same]
      rw [resolve_iff requirement provided, verdicts]
      exact resolve_greatest requirement (List.cons_ne_nil first rest)

theorem not_covered_lowest (verdict : Verdict) : Verdict.notCovered ≤ verdict := by
  change providerOrder .notCovered ≤ providerOrder verdict
  exact Nat.zero_le _

theorem covered_highest (verdict : Verdict) : verdict ≤ Verdict.covered := by
  change providerOrder verdict ≤ providerOrder .covered
  cases verdict <;> decide

theorem le_indeterminate_iff (verdict : Verdict) :
    verdict ≤ Verdict.indeterminate ↔ verdict ≠ .covered := by
  change providerOrder verdict ≤ providerOrder .indeterminate ↔ verdict ≠ .covered
  cases verdict <;> decide

theorem resolve_covered_iff (provided : providers ≠ []) :
    (resolveProviderDisjunction requirement providers).verdict = .covered ↔
      ∃ item ∈ providers, item.verdict = .covered := by
  rw [resolve_iff requirement provided, IsGreatest, Set.mem_ofPred_eq, List.mem_map]
  constructor
  · intro greatest
    exact greatest.1
  · intro held
    exact ⟨held, fun verdict _ => covered_highest verdict⟩

theorem resolve_not_covered_iff (provided : providers ≠ []) :
    (resolveProviderDisjunction requirement providers).verdict = .notCovered ↔
      ∀ item ∈ providers, item.verdict = .notCovered := by
  constructor
  · intro lowest item member
    have greatest := (resolve_iff requirement provided _).mp lowest
    have below := greatest.2 (List.mem_map.mpr ⟨item, member, rfl⟩)
    exact le_antisymm below (not_covered_lowest item.verdict)
  · exact resolve_constant requirement provided

theorem resolve_indeterminate_iff (provided : providers ≠ []) :
    (resolveProviderDisjunction requirement providers).verdict = .indeterminate ↔
      (∃ item ∈ providers, item.verdict = .indeterminate) ∧
        ∀ item ∈ providers, item.verdict ≠ .covered := by
  rw [resolve_iff requirement provided, IsGreatest, Set.mem_ofPred_eq, List.mem_map]
  apply and_congr_right
  intro _
  simp only [mem_upperBounds, Set.mem_ofPred_eq, List.forall_mem_map, le_indeterminate_iff]

/-- With full coverage, the explanation is that of the first provider that has it. -/
theorem resolve_covered_explanation
    (covered : (resolveProviderDisjunction requirement providers).verdict = .covered) :
    ∃ first, providers.find? (fun item => item.verdict == .covered) = some first ∧
      (resolveProviderDisjunction requirement providers).explanation = first.explanation := by
  cases providers with
  | nil => cases covered
  | cons head rest =>
      have first := first_maximum_first (fun item : ProviderResult => providerOrder item.verdict)
        head rest
      have best : (firstMaximum (fun item : ProviderResult => providerOrder item.verdict)
          head rest).verdict = .covered := covered
      refine ⟨_, ?_, if_pos best⟩
      rw [← first]
      congr 1
      funext item
      rw [best]
      cases item.verdict <;> rfl

end Join

/-- What the disjunction of a non-empty list of providers is. -/
structure IsDisjunction (requirement : Requirement) (providers : List ProviderResult)
    (finding : Finding) : Prop where
  members : ∀ others : List ProviderResult, (∀ item, item ∈ others ↔ item ∈ providers) →
    (resolveProviderDisjunction requirement others).verdict = finding.verdict
  covered : finding.verdict = .covered ↔ ∃ item ∈ providers, item.verdict = .covered
  satisfied : finding.satisfied = true ↔ ∃ item ∈ providers, item.verdict = .covered
  notCovered : finding.verdict = .notCovered ↔ ∀ item ∈ providers, item.verdict = .notCovered
  indeterminate : finding.verdict = .indeterminate ↔
    (∃ item ∈ providers, item.verdict = .indeterminate) ∧
      ∀ item ∈ providers, item.verdict ≠ .covered
  unchanged : finding.providers = providers
  explanation : finding.verdict = .covered →
    ∃ first, providers.find? (fun item => item.verdict == .covered) = some first ∧
      finding.explanation = first.explanation

theorem verdict_chain :
    Verdict.notCovered < .degraded ∧ Verdict.degraded < .indeterminate ∧
      Verdict.indeterminate < .covered := by
  decide

/-- Appending providers takes the greater verdict of the chain, and each disjunction is settled
by its members. -/
theorem provider_disjunction_join (requirement : Requirement)
    (providers others : List ProviderResult) (provided : providers ≠ [])
    (alternatives : others ≠ []) :
    (Verdict.notCovered < .degraded ∧ Verdict.degraded < .indeterminate ∧
        Verdict.indeterminate < .covered) ∧
      (resolveProviderDisjunction requirement (providers ++ others)).verdict =
          max (resolveProviderDisjunction requirement providers).verdict
            (resolveProviderDisjunction requirement others).verdict ∧
        IsDisjunction requirement providers
          (resolveProviderDisjunction requirement providers) := by
  refine ⟨verdict_chain, resolve_append requirement provided alternatives, ?_⟩
  have covered := resolve_covered_iff requirement provided
  have satisfied : (resolveProviderDisjunction requirement providers).satisfied =
      (resolveProviderDisjunction requirement providers).verdict.satisfied := rfl
  constructor
  · intro rearranged same
    exact resolve_same_members requirement same
  · exact covered
  · rw [satisfied, Verdict.satisfied, beq_iff_eq]
    exact covered
  · exact resolve_not_covered_iff requirement provided
  · exact resolve_indeterminate_iff requirement provided
  · rfl
  · exact resolve_covered_explanation requirement

/-- A provider that is off. -/
def offResult : ProviderResult := ⟨"a", .notCovered, "off", []⟩

/-- A provider whose state cannot be read. -/
def unreadableResult : ProviderResult := ⟨"b", .indeterminate, "unknown", []⟩

theorem provider_disjunction_join_unreadable :
    (Verdict.notCovered < .degraded ∧ Verdict.degraded < .indeterminate ∧
        Verdict.indeterminate < .covered) ∧
      (resolveProviderDisjunction linuxFileEvent ([offResult] ++ [unreadableResult])).verdict =
          max (resolveProviderDisjunction linuxFileEvent [offResult]).verdict
            (resolveProviderDisjunction linuxFileEvent [unreadableResult]).verdict ∧
        IsDisjunction linuxFileEvent [offResult]
          (resolveProviderDisjunction linuxFileEvent [offResult]) :=
  provider_disjunction_join linuxFileEvent [offResult] [unreadableResult] (by decide) (by decide)

end Sigmascope
