import Sigmascope.Api.Linux
import Sigmascope.Api.Windows

/-!
Loss of visibility. Whatever part of the collected state is erased, every
verdict of the run stays as it was or becomes INDETERMINATE. Each chain of
precedence is compared with itself one erased input at a time.
-/

namespace Sigmascope

set_option autoImplicit false

open Sigmascope.Library

abbrev VerdictBlurs (before after : Verdict) : Prop := Blurs .indeterminate before after

/-- The second list of findings is a blurred copy of the first one. -/
def FindingsBlur (before after : List Finding) : Prop :=
  List.Forall₂ (fun first second => VerdictBlurs first.verdict second.verdict) before after

/-- A requirement whose providers are judged twice. -/
theorem resolve_blurs_filter_map (requirement : Requirement)
    {first second : Provider → Option ProviderResult}
    (pointwise : ∀ provider, Option.Rel
      (fun before after : ProviderResult => VerdictBlurs before.verdict after.verdict)
      (first provider) (second provider)) :
    VerdictBlurs
      (resolveProviderDisjunction requirement (requirement.providers.filterMap first)).verdict
      (resolveProviderDisjunction requirement
        (requirement.providers.filterMap second)).verdict := by
  apply resolve_blurs
  apply List.rel_filterMap (R := Eq)
  · intro provider same equal
    subst equal
    exact pointwise provider
  · exact List.forall₂_same.mpr fun _ _ => rfl

section Linux

/-- The second collection is the first one with some outputs of the collector erased. -/
structure AuditdErasure (before after : AuditdCollection) : Prop where
  installed : Blurs none before.installed after.installed
  effectiveRules : Blurs none before.effectiveRules after.effectiveRules
  status : Blurs none before.status after.status

/-- Erasing the status leaves only the answers that do not depend on it. -/
theorem auditd_verdict_status_lost (collection : AuditdCollection) (arch : String)
    (provider : AuditdProvider) :
    VerdictBlurs (auditdVerdict collection arch provider).1
      (auditdVerdict { collection with status := none } arch provider).1 := by
  obtain ⟨installed, rules, status, errors⟩ := collection
  cases installed with
  | none => exact Or.inl rfl
  | some flag =>
      cases flag with
      | false => exact Or.inr rfl
      | true =>
          left
          simp [auditdVerdict, parsedStatus, unreadResult, gateValue]

theorem auditd_verdict_rules_lost (collection : AuditdCollection) (arch : String)
    (provider : AuditdProvider) :
    VerdictBlurs (auditdVerdict collection arch provider).1
      (auditdVerdict { collection with effectiveRules := none } arch provider).1 := by
  obtain ⟨installed, rules, status, errors⟩ := collection
  cases installed with
  | none => exact Or.inl rfl
  | some flag =>
      cases flag with
      | false => exact Or.inr rfl
      | true =>
          have sameStatus : parsedStatus ⟨some true, none, status, errors⟩ =
              parsedStatus ⟨some true, rules, status, errors⟩ := rfl
          simp only [auditdVerdict, sameStatus]
          -- The questions about the status come first and are answered alike.
          split
          · exact Or.inr rfl
          · split
            · exact Or.inr rfl
            · split
              · exact Or.inr rfl
              · exact Or.inl rfl

theorem auditd_verdict_installed_lost (collection : AuditdCollection) (arch : String)
    (provider : AuditdProvider) :
    VerdictBlurs (auditdVerdict collection arch provider).1
      (auditdVerdict { collection with installed := none } arch provider).1 :=
  Or.inl rfl

variable {before after : AuditdCollection}

theorem auditd_verdict_blurs (erased : AuditdErasure before after) (arch : String)
    (provider : AuditdProvider) :
    VerdictBlurs (auditdVerdict before arch provider).1
      (auditdVerdict after arch provider).1 := by
  obtain ⟨installed, rules, status, errors⟩ := before
  obtain ⟨installedAfter, rulesAfter, statusAfter, errorsAfter⟩ := after
  have first : VerdictBlurs
      (auditdVerdict ⟨installed, rules, status, errors⟩ arch provider).1
      (auditdVerdict ⟨installedAfter, rules, status, errors⟩ arch provider).1 := by
    rcases erased.installed with lost | kept
    · rw [show installedAfter = none from lost]
      exact auditd_verdict_installed_lost _ arch provider
    · rw [show installedAfter = installed from kept]
      exact Blurs.refl _ _
  have second : VerdictBlurs
      (auditdVerdict ⟨installedAfter, rules, status, errors⟩ arch provider).1
      (auditdVerdict ⟨installedAfter, rulesAfter, status, errors⟩ arch provider).1 := by
    rcases erased.effectiveRules with lost | kept
    · rw [show rulesAfter = none from lost]
      exact auditd_verdict_rules_lost ⟨installedAfter, rules, status, errors⟩ arch provider
    · rw [show rulesAfter = rules from kept]
      exact Blurs.refl _ _
  have third : VerdictBlurs
      (auditdVerdict ⟨installedAfter, rulesAfter, status, errors⟩ arch provider).1
      (auditdVerdict ⟨installedAfter, rulesAfter, statusAfter, errors⟩ arch provider).1 := by
    rcases erased.status with lost | kept
    · rw [show statusAfter = none from lost]
      exact auditd_verdict_status_lost ⟨installedAfter, rulesAfter, status, errors⟩ arch provider
    · rw [show statusAfter = status from kept]
      exact Blurs.refl _ _
  exact Blurs.trans (Blurs.trans first second) third

theorem run_linux_blurs (erased : AuditdErasure before after) (requirements : List Requirement)
    (arch : String) :
    FindingsBlur (runLinux before requirements arch).findings
      (runLinux after requirements arch).findings := by
  simp only [FindingsBlur, runLinux, List.forall₂_map_left_iff, List.forall₂_map_right_iff]
  apply List.forall₂_same.mpr
  intro requirement _
  apply resolve_blurs_filter_map
  intro provider
  cases provider with
  | auditd auditd => exact Option.Rel.some (auditd_verdict_blurs erased arch auditd)
  | windowsAudit _ => exact Option.Rel.none
  | sysmon _ => exact Option.Rel.none
  | unknownKind => exact Option.Rel.none

end Linux

section Windows

/-- A parse result that was lost carries no gates. -/
def ResultLost (before after : ParseResult) : Prop :=
  after = before ∨ (after.determinacy = .unknown ∧ after.gates = [])

def ChannelLost (before after : ChannelConfig) : Prop :=
  after = before ∨ ∃ error, after = ⟨none, some error⟩

/-- The second collection is the first one with some inputs erased; every channel
answers the same way throughout a run. -/
structure WindowsErasure (before after : WindowsCollection)
    (channels channelsAfter : String → ChannelConfig) : Prop where
  auditPolicy : ResultLost before.auditPolicy after.auditPolicy
  registry : ResultLost before.registry after.registry
  installed : Blurs none before.sysmon.installed after.sysmon.installed
  running : Blurs none before.sysmon.running after.sysmon.running
  currentConfig : Blurs none before.sysmon.currentConfig after.sysmon.currentConfig
  steady : before.getChannelConfig = fun _ => channels
  steadyAfter : after.getChannelConfig = fun _ => channelsAfter
  channels : ∀ name, ChannelLost (channels name) (channelsAfter name)

theorem find_gate_empty {parsed : ParseResult} (empty : parsed.gates = []) (key : String) :
    findGate parsed key = none := by
  rw [findGate, empty, List.find?_nil]

theorem windows_audit_channel_lost (provider : WindowsAuditProvider)
    (auditPolicy registry : ParseResult) {before after : ChannelConfig}
    (lost : ChannelLost before after) :
    VerdictBlurs (evaluateWindowsAudit provider auditPolicy registry before).1
      (evaluateWindowsAudit provider auditPolicy registry after).1 := by
  rcases lost with rfl | ⟨error, rfl⟩
  · exact Blurs.refl _ _
  · left
    simp [evaluateWindowsAudit]

theorem windows_audit_policy_lost (provider : WindowsAuditProvider)
    {before after : ParseResult} (registry : ParseResult) (config : ChannelConfig)
    (lost : ResultLost before after) :
    VerdictBlurs (evaluateWindowsAudit provider before registry config).1
      (evaluateWindowsAudit provider after registry config).1 := by
  rcases lost with rfl | ⟨_, empty⟩
  · exact Blurs.refl _ _
  · simp only [evaluateWindowsAudit, find_gate_empty empty]
    split
    · exact Or.inr rfl
    · split
      · exact Or.inr rfl
      · exact Or.inl rfl

theorem field_gate_registry_lost (provider : WindowsAuditProvider)
    {before after : ParseResult} (auditGate : Gate) (lost : ResultLost before after) :
    VerdictBlurs (evaluateFieldGate provider before auditGate).1
      (evaluateFieldGate provider after auditGate).1 := by
  rcases lost with rfl | ⟨_, empty⟩
  · exact Blurs.refl _ _
  · cases gated : provider.fieldGate with
    | none =>
        right
        simp only [evaluateFieldGate, gated]
    | some fieldGate =>
        left
        simp only [evaluateFieldGate, gated, find_gate_empty empty]

theorem windows_audit_registry_lost (provider : WindowsAuditProvider)
    (auditPolicy : ParseResult) {before after : ParseResult} (config : ChannelConfig)
    (lost : ResultLost before after) :
    VerdictBlurs (evaluateWindowsAudit provider auditPolicy before config).1
      (evaluateWindowsAudit provider auditPolicy after config).1 := by
  simp only [evaluateWindowsAudit]
  split
  · exact Or.inr rfl
  · split
    · exact Or.inr rfl
    · cases findGate auditPolicy (auditKey (upperText provider.subcategoryGuid)) with
      | none => exact Or.inr rfl
      | some auditGate =>
          simp only [evaluateAuditGate]
          split
          · exact Or.inr rfl
          · split
            · exact Or.inr rfl
            · exact field_gate_registry_lost provider auditGate lost

variable {before after : WindowsCollection} {channels channelsAfter : String → ChannelConfig}
  {parsed parsedAfter : Option ParseResult}

theorem windows_audit_output_blurs (erased : WindowsErasure before after channels channelsAfter)
    (provider : WindowsAuditProvider) :
    VerdictBlurs (windowsAuditOutput before provider (channels provider.channel)).verdict
      (windowsAuditOutput after provider (channelsAfter provider.channel)).verdict := by
  have policy := windows_audit_policy_lost provider before.registry (channels provider.channel)
    erased.auditPolicy
  have registry := windows_audit_registry_lost provider after.auditPolicy
    (channels provider.channel) erased.registry
  have channel := windows_audit_channel_lost provider after.auditPolicy after.registry
    (erased.channels provider.channel)
  exact Blurs.trans (Blurs.trans policy registry) channel

/-- An erased input ends the questions about Sysmon with INDETERMINATE, or was not asked for. -/
theorem sysmon_ready_blurs (erased : WindowsErasure before after channels channelsAfter)
    (configLost : Blurs none parsed parsedAfter) :
    (∃ explanation, sysmonReady after.sysmon parsedAfter = .inl (.indeterminate, explanation)) ∨
      sysmonReady after.sysmon parsedAfter = sysmonReady before.sysmon parsed := by
  unfold sysmonReady
  rcases erased.installed with lost | kept
  · rw [lost]
    exact Or.inl ⟨_, rfl⟩
  · rw [kept]
    cases before.sysmon.installed with
    | none => exact Or.inr rfl
    | some flag =>
        cases flag with
        | false => exact Or.inr rfl
        | true =>
            rcases erased.running with lost | kept
            · rw [lost]
              exact Or.inl ⟨_, rfl⟩
            · rw [kept]
              rcases configLost with lost | kept
              · rw [lost]
                cases before.sysmon.running with
                | none => exact Or.inr rfl
                | some flag =>
                    cases flag with
                    | false => exact Or.inr rfl
                    | true => exact Or.inl ⟨_, rfl⟩
              · rw [kept]
                exact Or.inr rfl

theorem evaluate_sysmon_channel_lost (result : ParseResult) (eventType : String)
    {config configAfter : ChannelConfig} (lost : ChannelLost config configAfter) :
    VerdictBlurs (evaluateSysmon result config eventType).1
      (evaluateSysmon result configAfter eventType).1 := by
  rcases lost with rfl | ⟨error, rfl⟩
  · exact Blurs.refl _ _
  · left
    simp [evaluateSysmon]

theorem judged_output_blurs (erased : WindowsErasure before after channels channelsAfter)
    (configLost : Blurs none parsed parsedAfter) (provider : Provider) :
    Option.Rel (fun first second : ProviderResult => VerdictBlurs first.verdict second.verdict)
      (judgedOutput before parsed channels provider)
      (judgedOutput after parsedAfter channelsAfter provider) := by
  cases provider with
  | windowsAudit audit => exact Option.Rel.some (windows_audit_output_blurs erased audit)
  | sysmon sysmon =>
      simp only [judgedOutput]
      rcases sysmon_ready_blurs erased configLost with ⟨explanation, ended⟩ | same
      · rw [ended]
        cases sysmonReady before.sysmon parsed with
        | inl outcome => exact Option.Rel.some (Blurs.lost _ _)
        | inr result => exact Option.Rel.some (Blurs.lost _ _)
      · rw [same]
        cases sysmonReady before.sysmon parsed with
        | inl outcome => exact Option.Rel.some (Blurs.refl _ _)
        | inr result =>
            exact Option.Rel.some
              (evaluate_sysmon_channel_lost result sysmon.eventType
                (erased.channels sysmon.channel))
  | auditd _ => exact Option.Rel.none
  | unknownKind => exact Option.Rel.none

theorem judged_findings_blur (erased : WindowsErasure before after channels channelsAfter)
    (configLost : Blurs none parsed parsedAfter) (requirements : List Requirement) :
    FindingsBlur (requirements.map (judgedFinding before parsed channels))
      (requirements.map (judgedFinding after parsedAfter channelsAfter)) := by
  simp only [FindingsBlur, List.forall₂_map_left_iff, List.forall₂_map_right_iff]
  apply List.forall₂_same.mpr
  intro requirement _
  apply resolve_blurs_filter_map
  exact judged_output_blurs erased configLost

/-- The configuration of the erased run is parsed if that of the full run is. -/
theorem parsed_config_lost {decodeOem : List UInt8 → String}
    (erased : WindowsErasure before after channels channelsAfter)
    (read : parsedConfig decodeOem before.sysmon = .ok parsed) :
    ∃ parsedAfter, parsedConfig decodeOem after.sysmon = .ok parsedAfter ∧
      Blurs none parsed parsedAfter := by
  rcases erased.currentConfig with lost | kept
  · exact ⟨none, by simp only [parsedConfig, lost], Or.inl rfl⟩
  · refine ⟨parsed, ?_, Or.inr rfl⟩
    rw [parsedConfig, kept]
    exact read

theorem run_windows_judged (decodeOem : List UInt8 → String) {collection : WindowsCollection}
    (steady : collection.getChannelConfig = fun _ => channels) (requirements : List Requirement)
    (read : parsedConfig decodeOem collection.sysmon = .ok parsed) :
    ∃ report, runWindows decodeOem collection requirements = .ok report ∧
      report.findings = requirements.map (judgedFinding collection parsed channels) := by
  refine ⟨_, by rw [runWindows, read]; rfl, ?_⟩
  apply (windows_findings_judged _).2
  apply windows_findings_steady steady
  exact Memo.snapshot_empty channels

/-- Erasing inputs of a Windows run that returns gives a run that returns too, and blurs
its findings. -/
theorem run_windows_blurs (decodeOem : List UInt8 → String)
    (erased : WindowsErasure before after channels channelsAfter)
    (requirements : List Requirement) {report : RunResult}
    (returned : runWindows decodeOem before requirements = .ok report) :
    ∃ reportAfter, runWindows decodeOem after requirements = .ok reportAfter ∧
      FindingsBlur report.findings reportAfter.findings := by
  cases read : parsedConfig decodeOem before.sysmon with
  | error raised =>
      rw [runWindows, read] at returned
      cases returned
  | ok parsed =>
      obtain ⟨parsedAfter, readAfter, configLost⟩ := parsed_config_lost erased read
      obtain ⟨same, ran, findings⟩ := run_windows_judged decodeOem erased.steady requirements read
      obtain ⟨reportAfter, ranAfter, findingsAfter⟩ :=
        run_windows_judged decodeOem erased.steadyAfter requirements readAfter
      rw [returned] at ran
      cases ran
      refine ⟨reportAfter, ranAfter, ?_⟩
      rw [findings, findingsAfter]
      exact judged_findings_blur erased configLost requirements

end Windows

/-- On both systems, erasing any part of what was collected leaves every finding as it
was or turns it INDETERMINATE. -/
theorem lost_visibility_blurs :
    (∀ (before after : AuditdCollection) (requirements : List Requirement) (arch : String),
      AuditdErasure before after →
      FindingsBlur (runLinux before requirements arch).findings
        (runLinux after requirements arch).findings) ∧
    (∀ (decodeOem : List UInt8 → String) (before after : WindowsCollection)
      (channels channelsAfter : String → ChannelConfig) (requirements : List Requirement)
      (report : RunResult), WindowsErasure before after channels channelsAfter →
      runWindows decodeOem before requirements = .ok report →
      ∃ reportAfter, runWindows decodeOem after requirements = .ok reportAfter ∧
        FindingsBlur report.findings reportAfter.findings) := by
  constructor
  · intro before after requirements arch erased
    exact run_linux_blurs erased requirements arch
  · intro decodeOem before after channels channelsAfter requirements report erased returned
    exact run_windows_blurs decodeOem erased requirements returned

/-- A Linux host that audits every execve, seen with all privileges. -/
def visibleAuditd : AuditdCollection where
  installed := some true
  effectiveRules := some "-a always,exit -S execve,execveat"
  status := some "enabled 1\npid 827\n"
  errors := []

def hiddenAuditd : AuditdCollection := { visibleAuditd with effectiveRules := none }

/-- A Windows host whose Security channel answers before the erasure only. -/
def visibleWindows : WindowsCollection where
  auditPolicy :=
    { determinacy := .effective
      gates := nativeGates [("\x7b0CCE9226-69AE-11D9-BED3-505054503030\x7d", "success")] }
  auditErrors := []
  registry := { determinacy := .unknown }
  sysmon := ⟨some true, some true, some [], []⟩
  getChannelConfig := fun _ _ => ⟨some true, none⟩

def hiddenWindows : WindowsCollection where
  auditPolicy := { determinacy := .unknown }
  auditErrors := []
  registry := { determinacy := .unknown }
  sysmon := ⟨some true, some true, none, []⟩
  getChannelConfig := fun _ _ => ⟨none, some ⟨"windows.channel", "access denied", "Security"⟩⟩

theorem lost_visibility_blurs_hidden :
    FindingsBlur (runLinux visibleAuditd linuxMappings "aarch64").findings
      (runLinux hiddenAuditd linuxMappings "aarch64").findings ∧
    ∃ report reportAfter, runWindows (fun _ => "") visibleWindows windowsMappings = .ok report ∧
      runWindows (fun _ => "") hiddenWindows windowsMappings = .ok reportAfter ∧
      FindingsBlur report.findings reportAfter.findings := by
  constructor
  · exact lost_visibility_blurs.1 visibleAuditd hiddenAuditd linuxMappings "aarch64"
      ⟨Or.inr rfl, Or.inl rfl, Or.inr rfl⟩
  · have erased : WindowsErasure visibleWindows hiddenWindows (fun _ => ⟨some true, none⟩)
        (fun _ => ⟨none, some ⟨"windows.channel", "access denied", "Security"⟩⟩) :=
      { auditPolicy := Or.inr ⟨rfl, rfl⟩
        registry := Or.inl rfl
        installed := Or.inr rfl
        running := Or.inr rfl
        currentConfig := Or.inl rfl
        steady := rfl
        steadyAfter := rfl
        channels := fun _ => Or.inr ⟨_, rfl⟩ }
    obtain ⟨reportAfter, ran, blurred⟩ :=
      lost_visibility_blurs.2 (fun _ => "") visibleWindows hiddenWindows _ _ windowsMappings _
        erased rfl
    exact ⟨_, reportAfter, rfl, ran, blurred⟩

end Sigmascope
