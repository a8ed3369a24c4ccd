import Sigmascope.Catalog
import Sigmascope.Library.FirstMaximum
import Sigmascope.Library.InformationLoss

/-!
Resolution of alternative providers. The verdicts form a chain in which a lack
of information ranks above a known gap and below coverage, and the finding
carries the greatest verdict among its providers.
-/

namespace Sigmascope

set_option autoImplicit false

open Sigmascope.Library

structure Evidence where
  resource : String
  locator : String
  raw : String
deriving DecidableEq, Repr

structure ProviderResult where
  sourceId : String
  verdict : Verdict
  explanation : String
  evidence : List Evidence
deriving DecidableEq, Repr

structure Finding where
  logsource : List (String × String)
  verdict : Verdict
  satisfied : Bool
  explanation : String
  providers : List ProviderResult
  references : List String
deriving DecidableEq, Repr

/-- `_PROVIDER_ORDER`. -/
def providerOrder : Verdict → Nat
  | .covered => 3
  | .indeterminate => 2
  | .degraded => 1
  | .notCovered => 0

theorem provider_order_injective : Function.Injective providerOrder := by
  intro left right same
  cases left <;> cases right <;> first | rfl | cases same

/-- The chain NOT_COVERED < DEGRADED < INDETERMINATE < COVERED. -/
instance : LinearOrder Verdict := LinearOrder.lift' providerOrder provider_order_injective

def resolveProviderDisjunction (requirement : Requirement) (providers : List ProviderResult) :
    Finding :=
  let (verdict, explanation) :=
    match providers with
    | [] => (Verdict.indeterminate, "No provider evaluation was available.")
    | first :: rest =>
        let best := firstMaximum (fun item => providerOrder item.verdict) first rest
        (best.verdict,
          if best.verdict = .covered then best.explanation
          else "; ".intercalate
            (providers.map fun item => item.sourceId ++ ": " ++ item.explanation))
  { logsource := requirement.logsource
    verdict := verdict
    satisfied := verdict.satisfied
    explanation := explanation
    providers := providers
    references := requirement.references }

/-- The resolved verdict is the greatest one among the providers. -/
theorem resolve_greatest (requirement : Requirement) {providers : List ProviderResult}
    (provided : providers ≠ []) :
    IsGreatest {verdict | verdict ∈ providers.map ProviderResult.verdict}
      (resolveProviderDisjunction requirement providers).verdict := by
  cases providers with
  | nil => exact absurd rfl provided
  | cons first rest =>
      have best := first_maximum_greatest (fun item : ProviderResult => providerOrder item.verdict)
        first rest
      constructor
      · have member := first_maximum_mem (fun item : ProviderResult =>
          providerOrder item.verdict) first rest
        exact List.mem_map.mpr ⟨_, member, rfl⟩
      · intro verdict member
        obtain ⟨item, inside, rfl⟩ := List.mem_map.mp member
        exact best.2 (List.mem_map.mpr ⟨item, inside, rfl⟩)

/-- Providers that agree on a verdict pass it on. -/
theorem resolve_constant (requirement : Requirement) {providers : List ProviderResult}
    (provided : providers ≠ []) {verdict : Verdict}
    (agree : ∀ item ∈ providers, item.verdict = verdict) :
    (resolveProviderDisjunction requirement providers).verdict = verdict := by
  obtain ⟨item, inside, same⟩ := List.mem_map.mp (resolve_greatest requirement provided).1
  exact same.symm.trans (agree item inside)

theorem above_indeterminate (verdict : Verdict) (above : Verdict.indeterminate < verdict) :
    IsTop verdict := by
  intro other
  change providerOrder .indeterminate < providerOrder verdict at above
  change providerOrder other ≤ providerOrder verdict
  cases verdict <;> cases other <;> simp [providerOrder] at above ⊢

/-- Blurred providers give the blurred finding. -/
theorem resolve_blurs (requirement : Requirement) {before after : List ProviderResult}
    (blurred : List.Forall₂
      (fun first second => Blurs .indeterminate first.verdict second.verdict) before after) :
    Blurs .indeterminate (resolveProviderDisjunction requirement before).verdict
      (resolveProviderDisjunction requirement after).verdict := by
  cases blurred with
  | nil => exact Blurs.refl _ _
  | @cons first second firsts seconds related rest =>
      have pointwise : List.Forall₂ (Blurs .indeterminate)
          ((first :: firsts).map ProviderResult.verdict)
          ((second :: seconds).map ProviderResult.verdict) := by
        rw [List.forall₂_map_left_iff, List.forall₂_map_right_iff]
        exact List.Forall₂.cons related rest
      exact Blurs.greatest above_indeterminate pointwise
        (resolve_greatest requirement (List.cons_ne_nil _ _))
        (resolve_greatest requirement (List.cons_ne_nil _ _))

end Sigmascope
