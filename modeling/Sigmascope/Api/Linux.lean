import Sigmascope.Api.Report
import Sigmascope.Collect.Auditd
import Sigmascope.Evaluate.Auditd
import Sigmascope.Parse.AuditdStatus

/-!
The Linux half of a run: one collection is parsed once, and every auditd
provider of every requirement is judged against it by a chain of precedence.
-/

namespace Sigmascope

set_option autoImplicit false

open Sigmascope.Library

def parsedRules (collection : AuditdCollection) : ParseResult :=
  match collection.effectiveRules with
  | some text => parseAuditdRules "auditctl -l" text
  | none => unreadResult

def parsedStatus (collection : AuditdCollection) : ParseResult :=
  match collection.status with
  | some text => parseAuditdStatus "auditctl -s" text
  | none => unreadResult

/-- The chain of precedence for one auditd provider. -/
def auditdVerdict (collection : AuditdCollection) (arch : String) (provider : AuditdProvider) :
    Verdict × String :=
  let parsed := parsedRules collection
  let status := parsedStatus collection
  let enabled := gateValue status.gates "auditd.enabled"
  let pid := gateValue status.gates "auditd.pid"
  match collection.installed with
  | none => (.indeterminate, "auditd installation state could not be determined.")
  | some false => (.notCovered, "auditd is not installed (auditctl was not found).")
  | some true =>
      if enabled.any GateValue.eqZero then
        (.notCovered, "auditd is installed, but the Linux audit subsystem is disabled.")
      else if pid.any GateValue.eqZero then
        (.notCovered, "auditd is installed, but the auditd daemon is not running.")
      else if status.determinacy = .unknown ∨ enabled = none ∨ pid = none then
        (.indeterminate, "auditd is installed, but its runtime state could not be determined.")
      else if collection.effectiveRules = none then
        (.indeterminate,
          "auditd is installed and running, but its effective rules could not be read.")
      else if provider.requirement = some "process_creation" then
        evaluateProcessCreation parsed arch
      else if provider.requirement = some "file_watch" then evaluateFileWatch parsed
      else (.indeterminate, "Unknown auditd catalogue requirement.")

def auditdOutput (collection : AuditdCollection) (arch : String) (provider : AuditdProvider) :
    ProviderResult :=
  let (verdict, explanation) := auditdVerdict collection arch provider
  { sourceId := provider.sourceId
    verdict := verdict
    explanation := explanation
    evidence := evidenceFromGates (parsedStatus collection).gates ++
      evidenceFromRules (parsedRules collection) }

/-- Providers of other kinds are passed over. -/
def auditdOutputs (collection : AuditdCollection) (arch : String) (requirement : Requirement) :
    List ProviderResult :=
  requirement.providers.filterMap fun provider =>
    match provider with
    | .auditd auditd => some (auditdOutput collection arch auditd)
    | _ => none

def linuxFinding (collection : AuditdCollection) (arch : String) (requirement : Requirement) :
    Finding :=
  resolveProviderDisjunction requirement (auditdOutputs collection arch requirement)

/-- `_run_linux` for the collection that `collect_auditd` returned. -/
def runLinux (collection : AuditdCollection) (requirements : List Requirement) (arch : String) :
    RunResult where
  findings := requirements.map (linuxFinding collection arch)
  diagnostics := (parsedRules collection).diagnostics ++ (parsedStatus collection).diagnostics
  errors := collection.errors

theorem mem_auditd_outputs {collection : AuditdCollection} {arch : String}
    {requirement : Requirement} {output : ProviderResult} :
    output ∈ auditdOutputs collection arch requirement ↔
      ∃ provider, Provider.auditd provider ∈ requirement.providers ∧
        output = auditdOutput collection arch provider := by
  simp only [auditdOutputs, List.mem_filterMap]
  constructor
  · intro given
    rcases given with ⟨provider, member, produced⟩
    cases provider with
    | auditd auditd => exact ⟨auditd, member, (Option.some.inj produced).symm⟩
    | windowsAudit _ => cases produced
    | sysmon _ => cases produced
    | unknownKind => cases produced
  · intro given
    rcases given with ⟨provider, member, rfl⟩
    exact ⟨.auditd provider, member, rfl⟩

/-- A verdict that every auditd provider gets is the verdict of every finding with a provider. -/
theorem linux_finding_constant {collection : AuditdCollection} {arch : String}
    {requirement : Requirement} {verdict : Verdict}
    (uniform : ∀ provider, (auditdVerdict collection arch provider).1 = verdict)
    (provided : (linuxFinding collection arch requirement).providers ≠ []) :
    (linuxFinding collection arch requirement).verdict = verdict := by
  apply resolve_constant
  · exact provided
  · intro output member
    obtain ⟨provider, _, rfl⟩ := mem_auditd_outputs.mp member
    exact uniform provider

theorem parsed_rules_unknown_of_diagnostics {collection : AuditdCollection}
    (reported : (parsedRules collection).diagnostics ≠ []) :
    (parsedRules collection).determinacy = .unknown := by
  cases listing : collection.effectiveRules with
  | none => simp only [parsedRules, listing, unreadResult]
  | some text =>
      simp only [parsedRules, listing] at reported ⊢
      exact (determinacy_unknown_iff _).mpr reported

theorem parsed_status_unknown_of_diagnostics {collection : AuditdCollection}
    (reported : (parsedStatus collection).diagnostics ≠ []) :
    (parsedStatus collection).determinacy = .unknown := by
  cases listing : collection.status with
  | none => simp only [parsedStatus, listing, unreadResult]
  | some text =>
      simp only [parsedStatus, listing] at reported ⊢
      exact (determinacy_unknown_iff _).mpr reported

/-- Zero is the only number that `value == 0` accepts among the gates of a status. -/
theorem parsed_status_zero_iff (collection : AuditdCollection) (key : String) :
    (gateValue (parsedStatus collection).gates ("auditd." ++ key)).any GateValue.eqZero = true ↔
      CarriesZero (parsedStatus collection) key := by
  unfold parsedStatus
  cases collection.status with
  | none => simp [unreadResult, gateValue, CarriesZero]
  | some text =>
      simp only [carries_zero_iff]
      simp only [parseAuditdStatus]
      rw [status_gate_eq]
      generalize Dict.get? _ key = found
      cases found with
      | none => simp
      | some value => simp [GateValue.eqZero]

section Unread

variable {collection : AuditdCollection} {arch : String} {provider : AuditdProvider}

theorem auditd_verdict_zero (installed : collection.installed = some true)
    (zero : CarriesZero (parsedStatus collection) "enabled" ∨
      CarriesZero (parsedStatus collection) "pid") :
    (auditdVerdict collection arch provider).1 = .notCovered := by
  rw [← parsed_status_zero_iff, ← parsed_status_zero_iff] at zero
  simp only [String.reduceAppend] at zero
  simp only [auditdVerdict, installed]
  rcases zero with disabled | stopped
  · rw [if_pos disabled]
  · split
    · rfl
    · rfl

/-- On an installed system without a zero in its status, one unreadable output is enough
for INDETERMINATE. -/
theorem auditd_verdict_unreadable (installed : collection.installed = some true)
    (nonzero : ¬(CarriesZero (parsedStatus collection) "enabled" ∨
      CarriesZero (parsedStatus collection) "pid"))
    (unreadable : (parsedStatus collection).determinacy = .unknown ∨
      collection.effectiveRules = none ∨ (parsedRules collection).determinacy = .unknown) :
    (auditdVerdict collection arch provider).1 = .indeterminate := by
  rw [← parsed_status_zero_iff, ← parsed_status_zero_iff] at nonzero
  simp only [String.reduceAppend, not_or] at nonzero
  simp only [auditdVerdict, installed]
  rw [if_neg nonzero.1, if_neg nonzero.2]
  rcases unreadable with status | noRules | rules
  · rw [if_pos (Or.inl status)]
  · split
    · rfl
    · rfl
  · -- The evaluators refuse rules that were not understood.
    split
    · rfl
    · split
      · rfl
      · split
        · simp [evaluateProcessCreation, rules]
        · split
          · simp [evaluateFileWatch, rules]
          · rfl

/-- An error or a diagnostic of a run means that one of the outputs is unreadable. -/
theorem unreadable_of_reported (shape : CollectionShape collection)
    (installed : collection.installed = some true)
    (reported : (parsedRules collection).diagnostics ++ (parsedStatus collection).diagnostics ≠ [] ∨
      collection.errors ≠ []) :
    (parsedStatus collection).determinacy = .unknown ∨
      collection.effectiveRules = none ∨ (parsedRules collection).determinacy = .unknown := by
  rcases reported with issues | errors
  · by_cases rulesIssue : (parsedRules collection).diagnostics = []
    · rw [rulesIssue, List.nil_append] at issues
      exact Or.inl (parsed_status_unknown_of_diagnostics issues)
    · exact Or.inr (Or.inr (parsed_rules_unknown_of_diagnostics rulesIssue))
  · rcases shape.present installed errors with noRules | noStatus
    · exact Or.inr (Or.inl noRules)
    · left
      simp only [parsedStatus, noStatus, unreadResult]

/-- Unless a zero is read, an error or a diagnostic leaves every provider INDETERMINATE. -/
theorem auditd_verdict_reported (shape : CollectionShape collection)
    (reported : (parsedRules collection).diagnostics ++ (parsedStatus collection).diagnostics ≠ [] ∨
      collection.errors ≠ [])
    (nonzero : ¬(CarriesZero (parsedStatus collection) "enabled" ∨
      CarriesZero (parsedStatus collection) "pid")) :
    (auditdVerdict collection arch provider).1 = .indeterminate := by
  cases installed : collection.installed with
  | none => simp only [auditdVerdict, installed]
  | some flag =>
      cases flag with
      | false =>
          have unread := shape.unread (by simp [installed])
          simp [parsedRules, parsedStatus, unread.1, unread.2, unreadResult,
            shape.absent installed] at reported
      | true =>
          apply auditd_verdict_unreadable installed nonzero
          exact unreadable_of_reported shape installed reported

end Unread

/-- No finding with a provider claims anything positive: it is NOT_COVERED exactly when the
status carries a zero for the enabled flag or the pid, and INDETERMINATE otherwise. -/
def BlocksClaims (collection : AuditdCollection) (findings : List Finding) : Prop :=
  ∀ finding ∈ findings, finding.providers ≠ [] →
    finding.verdict ≠ .covered ∧ finding.verdict ≠ .degraded ∧
    (finding.verdict = .notCovered ↔
      CarriesZero (parsedStatus collection) "enabled" ∨
        CarriesZero (parsedStatus collection) "pid") ∧
    (¬(CarriesZero (parsedStatus collection) "enabled" ∨
        CarriesZero (parsedStatus collection) "pid") →
      finding.verdict = .indeterminate)

/-- Whatever is not understood blocks every positive claim. -/
theorem run_linux_reported_blocks (collection : AuditdCollection)
    (requirements : List Requirement) (arch : String) (shape : CollectionShape collection)
    (reported : (runLinux collection requirements arch).diagnostics ≠ [] ∨
      (runLinux collection requirements arch).errors ≠ []) :
    BlocksClaims collection (runLinux collection requirements arch).findings := by
  intro finding member provided
  obtain ⟨requirement, _, rfl⟩ := List.mem_map.mp member
  by_cases zero : CarriesZero (parsedStatus collection) "enabled" ∨
      CarriesZero (parsedStatus collection) "pid"
  · have installed : collection.installed = some true := by
      by_contra notInstalled
      have unread := shape.unread notInstalled
      simp [parsedStatus, unread.2, unreadResult, CarriesZero] at zero
    have verdict : (linuxFinding collection arch requirement).verdict = .notCovered :=
      linux_finding_constant (fun provider => auditd_verdict_zero installed zero) provided
    simp [verdict, zero]
  · have verdict : (linuxFinding collection arch requirement).verdict = .indeterminate :=
      linux_finding_constant (fun provider => auditd_verdict_reported shape reported zero) provided
    simp [verdict, zero]

/-- A host whose rule listing has a line that is not a rule. -/
def unreadableRules : AuditdCollection where
  installed := some true
  effectiveRules := some "No rules"
  status := some "enabled 1\npid 827\n"
  errors := []

theorem run_linux_reported_blocks_unreadable :
    BlocksClaims unreadableRules (runLinux unreadableRules linuxMappings "x86_64").findings :=
  run_linux_reported_blocks unreadableRules linuxMappings "x86_64"
    ⟨by decide, by decide, by decide⟩ (Or.inl (by decide))

end Sigmascope
