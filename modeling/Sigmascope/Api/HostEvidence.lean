import Sigmascope.Api.HostReadings
import Sigmascope.Evaluate.Disjunction

/-!
No verdict without evidence. Every verdict but INDETERMINATE is a claim about the host, and it
is made only when calls of the same run got the replies that bear it out: which replies these
are depends on the provider and on the reason.
-/

namespace Sigmascope.Host

set_option autoImplicit false

open Sigmascope.Library Sigmascope.Library.PyText

variable {facts : HostFacts} {history : History}

section Replies

/-- The command ended well and printed the text. -/
def Answered (facts : HostFacts) (history : History) (executable argument text : String) : Prop :=
  ∃ stdout stderr, Replied history (.run [executable, argument]) (.completed 0 stdout stderr) ∧
    text = facts.decodeUtf8 stdout

/-- The event log says whether the channel is enabled. -/
def ChannelSays (history : History) (channel : String) (enabled : Bool) : Prop :=
  ∃ value, PropertyRead history channel value ∧ (value != 0) = enabled

/-- The audit policy says the state of a subcategory: in the buffer of the native query for the
given subcategories, or in the report of the command. -/
inductive PolicySays (facts : HostFacts) (history : History) (subcategoryGuids : List String)
    (guid state : String) : Prop where
  | native {guids : List Guid} {entries : List AuditPolicyInformation}
      {entry : AuditPolicyInformation} (asked : guidArray subcategoryGuids = .ok guids)
      (read : BufferRead history guids entries) (member : entry ∈ entries)
      (about : upperText entry.auditSubCategoryGuid.asString = upperText guid)
      (state : policyState entry.auditingInformation.toNat = state)
  | report {parsed : ParseResult} {gate : Gate} (read : ReportRead facts history parsed)
      (member : gate ∈ parsed.gates) (about : gate.key = auditKey (upperText guid))
      (state : gate.value.toText = state)

/-- The registry says whether new processes are recorded with their command line. -/
inductive CommandLineSays (history : History) : Bool → Prop where
  | unset (read : ValueRead history commandLinePath commandLineValue (.error .missing)) :
      CommandLineSays history false
  | set {value : RegistryValue}
      (read : ValueRead history commandLinePath commandLineValue (.ok value)) :
      CommandLineSays history value.truth

/-- A service of Sysmon is running. -/
def SysmonRuns (history : History) : Prop :=
  ∃ name ∈ serviceNames, ServiceIn history name serviceRunning

/-- The configuration that Sysmon printed leads to the verdict for an event type. -/
def ConfigSays (facts : HostFacts) (history : History) (eventType : String) (verdict : Verdict) :
    Prop :=
  ∃ bytes parsed, Printed facts history bytes ∧
    parseSysmonCurrent "sysmon -c" (facts.decodeOem bytes) = .ok parsed ∧
    (evaluateEventType parsed eventType).1 = verdict

/-- What a verdict about a provider stands on. -/
inductive Stands (facts : HostFacts) (history : History) (subcategoryGuids : List String)
    (arch : String) : Provider → Verdict → Prop where
  | unlocated {provider : AuditdProvider} (nowhere : Unlocated history) :
      Stands facts history subcategoryGuids arch (.auditd provider) .notCovered
  | idle {provider : AuditdProvider} {executable status : String}
      (located : Located history executable)
      (shown : Answered facts history executable "-s" status)
      (zero : CarriesZero (parseAuditdStatus "auditctl -s" status) "enabled" ∨
        CarriesZero (parseAuditdStatus "auditctl -s" status) "pid") :
      Stands facts history subcategoryGuids arch (.auditd provider) .notCovered
  | rules {provider : AuditdProvider} {executable rules status : String} {verdict : Verdict}
      (located : Located history executable)
      (listed : Answered facts history executable "-l" rules)
      (shown : Answered facts history executable "-s" status) (running : RunningStatus status)
      (said : RulesSay rules arch provider verdict) :
      Stands facts history subcategoryGuids arch (.auditd provider) verdict
  | channelOff {provider : WindowsAuditProvider}
      (closed : ChannelSays history provider.channel false) :
      Stands facts history subcategoryGuids arch (.windowsAudit provider) .notCovered
  | unaudited {provider : WindowsAuditProvider} {state : String}
      (opened : ChannelSays history provider.channel true)
      (said : PolicySays facts history subcategoryGuids provider.subcategoryGuid state)
      (missing : state ∉ provider.requiredStates) :
      Stands facts history subcategoryGuids arch (.windowsAudit provider) .notCovered
  | audited {provider : WindowsAuditProvider} {state : String}
      (opened : ChannelSays history provider.channel true)
      (said : PolicySays facts history subcategoryGuids provider.subcategoryGuid state)
      (required : state ∈ provider.requiredStates)
      (field : provider.fieldGate ≠ none → CommandLineSays history true)
      (unreserved : provider.necessaryButInsufficient.filter (· != "") = none) :
      Stands facts history subcategoryGuids arch (.windowsAudit provider) .covered
  | bare {provider : WindowsAuditProvider} {state : String}
      (opened : ChannelSays history provider.channel true)
      (said : PolicySays facts history subcategoryGuids provider.subcategoryGuid state)
      (required : state ∈ provider.requiredStates) (gated : provider.fieldGate ≠ none)
      (field : CommandLineSays history false) :
      Stands facts history subcategoryGuids arch (.windowsAudit provider) .degraded
  | noSysmon {provider : SysmonProvider} (absent : ∀ name ∈ serviceNames, NoService history name) :
      Stands facts history subcategoryGuids arch (.sysmon provider) .notCovered
  | stopped {provider : SysmonProvider} {name : String} {state : Nat}
      (member : name ∈ serviceNames) (inside : ServiceIn history name state)
      (other : state ≠ serviceRunning) :
      Stands facts history subcategoryGuids arch (.sysmon provider) .notCovered
  | operationalOff {provider : SysmonProvider} (running : SysmonRuns history)
      (closed : ChannelSays history provider.channel false) :
      Stands facts history subcategoryGuids arch (.sysmon provider) .notCovered
  | configured {provider : SysmonProvider} {verdict : Verdict} (running : SysmonRuns history)
      (opened : ChannelSays history provider.channel true)
      (said : ConfigSays facts history provider.eventType verdict) :
      Stands facts history subcategoryGuids arch (.sysmon provider) verdict

theorem channel_answer {channel : String} {config : ChannelConfig} {enabled : Bool}
    (read : ChannelRead history channel config) (known : config.enabled = some enabled) :
    ChannelSays history channel enabled := by
  cases read with
  | answered read =>
      cases known
      exact ⟨_, read, rfl⟩
  | failed error => cases known

theorem audit_key_injective {first second : String} (same : auditKey first = auditKey second) :
    first = second := (String.append_right_inj "windows.audit.").mp same

theorem policy_answer {subcategoryGuids : List String} {policy : ParseResult} {guid : String}
    {gate : Gate} (read : PolicyRead facts history subcategoryGuids policy)
    (found : findGate policy (auditKey (upperText guid)) = some gate) :
    PolicySays facts history subcategoryGuids guid gate.value.toText := by
  have member := List.mem_of_find?_eq_some found
  have about : gate.key = auditKey (upperText guid) := by
    simpa using List.find?_some found
  cases read with
  | report read => exact .report read member about rfl
  | unread => cases member
  | native read =>
      obtain ⟨⟨key, state⟩, listed, rfl⟩ := List.mem_map.mp member
      cases read with
      | unasked nothing => cases listed
      | answered asked read =>
          rcases Dict.mem_assign_all_items listed with nothing | assigned
          · cases nothing
          · obtain ⟨entry, inside, same⟩ := List.mem_map.mp assigned
            cases same
            exact .native asked read inside (audit_key_injective about) rfl

theorem command_line_answer {registry : ParseResult} {key : String} {gate : Gate}
    (read : RegistryRead facts history registry) (found : findGate registry key = some gate) :
    ∃ on, gate.value = .bool on ∧ CommandLineSays history on := by
  have member := List.mem_of_find?_eq_some found
  unfold RegistryRead at read
  split at read
  · obtain ⟨outcome, valued, rfl⟩ := read
    rcases outcome with failure | value
    · cases failure with
      | missing =>
          cases List.mem_singleton.mp member
          exact ⟨false, rfl, .unset valued⟩
      | failed text => cases member
    · cases List.mem_singleton.mp member
      exact ⟨value.truth, rfl, .set valued⟩
  · rw [read] at member
    cases member

end Replies

section Providers

variable {subcategoryGuids : List String} {arch : String}

theorem auditctl_answered {executable argument text : String} {outcome : RunOutcome}
    (reply : Replied history (.run [executable, argument]) outcome)
    (read : (Sigmascope.auditctl (decodeOutcome facts outcome) executable argument).1 =
      some text) : Answered facts history executable argument text := by
  cases outcome with
  | raised message => cases read
  | completed returnCode stdout stderr =>
      unfold decodeOutcome Sigmascope.auditctl at read
      dsimp only at read
      split at read
      · cases read
      · rename_i succeeded
        rw [not_not] at succeeded
        subst succeeded
        cases read
        exact ⟨stdout, stderr, reply, rfl⟩

theorem auditd_stands {collection : AuditdCollection} (read : AuditdRead facts history collection)
    {provider : AuditdProvider} {verdict : Verdict} (definite : verdict ≠ .indeterminate)
    (given : (auditdVerdict collection arch provider).1 = verdict) :
    Stands facts history subcategoryGuids arch (.auditd provider) verdict := by
  rcases auditd_verdict_definite definite given with
    ⟨absent, rfl⟩ | ⟨installed, rfl, zero⟩ |
      ⟨rules, status, installed, listed, shown, running, said⟩
  · cases read with
    | absent nowhere => exact .unlocated nowhere
    | hidden errors member barred => cases absent
    | installed errors located listed shown => cases absent
  · cases read with
    | absent nowhere => cases installed
    | hidden errors member barred => cases installed
    | installed errors located listing showing =>
        rename_i executable rulesOutcome statusOutcome
        cases shown : (Sigmascope.auditctl (decodeOutcome facts statusOutcome) executable
            "-s").1 with
        | none =>
            simp only [parsedStatus, shown, unreadResult, CarriesZero] at zero
            simp at zero
        | some status =>
            simp only [parsedStatus, shown] at zero
            exact .idle located (auditctl_answered showing shown) zero
  · cases read with
    | absent nowhere => cases installed
    | hidden errors member barred => cases installed
    | installed errors located listing showing =>
        exact .rules located (auditctl_answered listing listed)
          (auditctl_answered showing shown) running said

variable {inputs : WindowsInputs} {look : String → ChannelConfig}
  (read : WindowsRead facts history subcategoryGuids inputs look)
include read

/-- A subcategory in a required state, with the field gate on or off. -/
theorem passed_audit_stands {provider : WindowsAuditProvider} {verdict : Verdict}
    (passed : verdict = .covered ∨ verdict = .degraded)
    (given : (Sigmascope.windowsAuditOutput (inputs.collection look) provider
      (look provider.channel)).verdict = verdict) :
    Stands facts history subcategoryGuids arch (.windowsAudit provider) verdict := by
  obtain ⟨isOpen, auditGate, found, audited⟩ := (windows_audit_passed_iff passed).mp given
  obtain ⟨settled, required, field⟩ := (audit_gate_passed_iff passed).mp audited
  have opened := channel_answer (read.channels provider.channel) isOpen.1
  have said := policy_answer read.auditPolicy found
  rcases passed with rfl | rfl
  · obtain ⟨unreserved, fields⟩ := field_gate_covered_iff.mp field
    refine .audited opened said required ?_ unreserved
    intro gated
    obtain ⟨fieldGate, present⟩ := Option.ne_none_iff_exists'.mp gated
    obtain ⟨gate, foundGate, on⟩ := fields fieldGate present
    obtain ⟨value, same, answer⟩ := command_line_answer read.registry foundGate
    cases on.symm.trans same
    exact answer
  · obtain ⟨fieldGate, present, gate, foundGate, off⟩ := field_gate_degraded_iff.mp field
    obtain ⟨value, same, answer⟩ := command_line_answer read.registry foundGate
    refine .bare opened said required (Option.ne_none_iff_exists'.mpr ⟨fieldGate, present⟩) ?_
    cases value with
    | false => exact answer
    | true => exact absurd same off

theorem windows_audit_stands {provider : WindowsAuditProvider} {verdict : Verdict}
    (definite : verdict ≠ .indeterminate)
    (given : (Sigmascope.windowsAuditOutput (inputs.collection look) provider
      (look provider.channel)).verdict = verdict) :
    Stands facts history subcategoryGuids arch (.windowsAudit provider) verdict := by
  cases verdict with
  | covered => exact passed_audit_stands read (Or.inl rfl) given
  | degraded => exact passed_audit_stands read (Or.inr rfl) given
  | indeterminate => exact absurd rfl definite
  | notCovered =>
      have channel := read.channels provider.channel
      rcases windows_audit_not_covered_iff.mp given with
        disabled | ⟨isOpen, auditGate, found, settled, missing⟩
      · exact .channelOff (channel_answer channel disabled)
      · exact .unaudited (channel_answer channel isOpen.1) (policy_answer read.auditPolicy found)
          missing

theorem sysmon_stands {provider : SysmonProvider} {output : ProviderResult}
    {verdict : Verdict} (definite : verdict ≠ .indeterminate)
    (made : judgedOutput (inputs.collection look) inputs.parsed look (.sysmon provider) =
      some output) (given : output.verdict = verdict) :
    Stands facts history subcategoryGuids arch (.sysmon provider) verdict := by
  unfold judgedOutput at made
  dsimp only at made
  cases ready : sysmonReady (inputs.collection look).sysmon inputs.parsed with
  | inl outcome =>
      rw [ready] at made
      cases made
      subst given
      rcases sysmon_unready_verdict ready with unknown | ⟨gap, absent | ⟨installed, stopped⟩⟩
      · exact absurd unknown definite
      · have without := read.sysmon.absent absent
        change Stands facts history subcategoryGuids arch (.sysmon provider) outcome.1
        rw [gap]
        exact .noSysmon without
      · obtain ⟨name, member, state, inside, same⟩ := read.sysmon.status false installed stopped
        change Stands facts history subcategoryGuids arch (.sysmon provider) outcome.1
        rw [gap]
        exact .stopped member inside (by simpa using same.symm)
  | inr result =>
      rw [ready] at made
      cases made
      obtain ⟨installed, runs, parsed⟩ := sysmon_ready_parsed ready
      obtain ⟨name, member, state, inside, same⟩ := read.sysmon.status true installed runs
      have active : state = serviceRunning := by simpa using same.symm
      have running : SysmonRuns history := ⟨name, member, active ▸ inside⟩
      have channel := read.channels provider.channel
      rcases evaluate_sysmon_definite definite given with ⟨disabled, rfl⟩ | ⟨isOpen, event⟩
      · exact .operationalOff running (channel_answer channel disabled)
      · refine .configured running (channel_answer channel isOpen.1) ?_
        have converted := read.parsed
        rw [parsed] at converted
        unfold parsedConfig at converted
        cases config : inputs.sysmon.currentConfig with
        | none =>
            rw [config] at converted
            cases converted
        | some bytes =>
            rw [config] at converted
            refine ⟨bytes, result, read.sysmon.config bytes config, ?_, event⟩
            cases text : parseSysmonCurrent "sysmon -c" (facts.decodeOem bytes) with
            | error error =>
                simp only [text] at converted
                cases converted
            | ok other =>
                simp only [text] at converted
                cases converted
                rfl

end Providers

section Findings

variable {subcategoryGuids : List String} {arch : String}

/-- A finding stands: full and partial coverage on one of the providers of its requirement, a
gap on all. -/
def FindingStands (facts : HostFacts) (history : History) (subcategoryGuids : List String)
    (arch : String) (requirement : Requirement) (finding : Finding) : Prop :=
  finding.logsource = requirement.logsource ∧
    (finding.verdict = .covered ∨ finding.verdict = .degraded → ∃ provider ∈ requirement.providers,
      Stands facts history subcategoryGuids arch provider finding.verdict) ∧
    (finding.verdict = .notCovered → ∀ provider ∈ requirement.providers,
      Stands facts history subcategoryGuids arch provider .notCovered)

/-- Every provider of the requirement is judged, and the judgements are joined. -/
theorem resolved_stands {requirement : Requirement} {judge : Provider → Option ProviderResult}
    (known : ∀ provider ∈ requirement.providers, (judge provider).isSome = true)
    (stands : ∀ provider ∈ requirement.providers, ∀ output, judge provider = some output →
      output.verdict ≠ .indeterminate →
        Stands facts history subcategoryGuids arch provider output.verdict) :
    FindingStands facts history subcategoryGuids arch requirement
      (resolveProviderDisjunction requirement (requirement.providers.filterMap judge)) := by
  refine ⟨rfl, ?_, ?_⟩
  · intro passed
    have provided : requirement.providers.filterMap judge ≠ [] := by
      intro nothing
      rw [nothing] at passed
      rcases passed with impossible | impossible <;> cases impossible
    obtain ⟨output, member, verdict⟩ :=
      List.mem_map.mp (resolve_greatest requirement provided).1
    obtain ⟨provider, listed, made⟩ := List.mem_filterMap.mp member
    rw [← verdict] at passed ⊢
    refine ⟨provider, listed, stands provider listed output made ?_⟩
    rcases passed with same | same <;> rw [same] <;> decide
  · intro gap provider listed
    obtain ⟨output, made⟩ := Option.isSome_iff_exists.mp (known provider listed)
    have member : output ∈ requirement.providers.filterMap judge :=
      List.mem_filterMap.mpr ⟨provider, listed, made⟩
    have verdict := (resolve_not_covered_iff requirement (List.ne_nil_of_mem member)).mp gap
      output member
    have definite : output.verdict ≠ .indeterminate := by
      rw [verdict]
      decide
    exact verdict ▸ stands provider listed output made definite

theorem linux_finding_stands {collection : AuditdCollection}
    (read : AuditdRead facts history collection) {requirement : Requirement}
    (member : requirement ∈ linuxMappings) :
    FindingStands facts history subcategoryGuids arch requirement
      (linuxFinding collection arch requirement) := by
  apply resolved_stands
  · intro provider listed
    simp only [linuxMappings, List.mem_cons, List.not_mem_nil, or_false] at member
    rcases member with rfl | rfl <;> cases List.mem_singleton.mp listed <;> rfl
  · intro provider listed output made definite
    cases provider with
    | auditd auditd =>
        cases made
        exact auditd_stands read definite rfl
    | windowsAudit audit => cases made
    | sysmon sysmon => cases made
    | unknownKind => cases made

theorem judged_finding_stands {inputs : WindowsInputs} {look : String → ChannelConfig}
    (read : WindowsRead facts history subcategoryGuids inputs look) {requirement : Requirement}
    (member : requirement ∈ windowsMappings) :
    FindingStands facts history subcategoryGuids arch requirement
      (judgedFinding (inputs.collection look) inputs.parsed look requirement) := by
  apply resolved_stands
  · intro provider listed
    cases provider with
    | windowsAudit audit => rfl
    | sysmon sysmon =>
        unfold judgedOutput
        dsimp only
        cases sysmonReady (inputs.collection look).sysmon inputs.parsed <;> rfl
    | auditd auditd =>
        simp only [windowsMappings, List.mem_cons, List.not_mem_nil, or_false] at member
        rcases member with rfl | rfl | rfl <;>
          simp [windowsProcessCreation, windowsNetworkConnection, windowsFileEvent] at listed
    | unknownKind =>
        simp only [windowsMappings, List.mem_cons, List.not_mem_nil, or_false] at member
        rcases member with rfl | rfl | rfl <;>
          simp [windowsProcessCreation, windowsNetworkConnection, windowsFileEvent] at listed
  · intro provider listed output made definite
    cases provider with
    | windowsAudit audit =>
        cases made
        exact windows_audit_stands read definite rfl
    | sysmon sysmon =>
        exact sysmon_stands read definite made rfl
    | auditd auditd => cases made
    | unknownKind => cases made

end Findings

section Runs

/-- A run for the system and the machine of its host has one finding for each requirement of the
catalogue, in its order, and each of them stands on a history. -/
def RunStands (facts : HostFacts) (history : History) (identity : HostIdentity)
    (findings : List Finding) : Prop :=
  List.Forall₂
    (FindingStands facts history (policyGuids (mappingsByOs identity.os)) identity.arch)
    (mappingsByOs identity.os) findings

theorem map_stands {subcategoryGuids : List String} {arch : String}
    {requirements : List Requirement} {judge : Requirement → Finding}
    (stands : ∀ requirement ∈ requirements,
      FindingStands facts history subcategoryGuids arch requirement (judge requirement)) :
    List.Forall₂ (FindingStands facts history subcategoryGuids arch) requirements
      (requirements.map judge) :=
  List.forall₂_map_right_iff.mpr (List.forall₂_same.mpr stands)

/-- Every finding is about a requirement of the catalogue. -/
theorem RunStands.requirement {identity : HostIdentity} {findings : List Finding}
    (stands : RunStands facts history identity findings) {finding : Finding}
    (member : finding ∈ findings) :
    ∃ requirement ∈ mappingsByOs identity.os,
      FindingStands facts history (policyGuids (mappingsByOs identity.os)) identity.arch
        requirement finding := by
  obtain ⟨index, bound, rfl⟩ := List.mem_iff_getElem.mp member
  have inside : index < (mappingsByOs identity.os).length := stands.length_eq ▸ bound
  exact ⟨_, List.getElem_mem inside, stands.get inside bound⟩

/-- Every requirement of the catalogue has a finding. -/
theorem RunStands.finding {identity : HostIdentity} {findings : List Finding}
    (stands : RunStands facts history identity findings) {requirement : Requirement}
    (member : requirement ∈ mappingsByOs identity.os) :
    ∃ finding ∈ findings,
      FindingStands facts history (policyGuids (mappingsByOs identity.os)) identity.arch
        requirement finding := by
  obtain ⟨index, bound, rfl⟩ := List.mem_iff_getElem.mp member
  have inside : index < findings.length := stands.length_eq ▸ bound
  exact ⟨_, List.getElem_mem inside, stands.get bound inside⟩

theorem run_system_stands {events : History} (inside : events <:+: history)
    {identity : HostIdentity} {result : RunResult}
    (traces : (runSystem facts identity).Traces events (.ok result)) :
    RunStands facts history identity result.findings := by
  unfold RunStands
  unfold runSystem at traces
  split at traces
  · rename_i linux
    obtain ⟨collection, front, back, rfl, collected, _, same⟩ := Program.traces_bind_ok.mp traces
    cases same
    have read := (collect_auditd_reads collected).mono ((front_inside front back).trans inside)
    apply map_stands
    intro requirement mapped
    have listed : requirement ∈ linuxMappings := by
      rwa [linux, mappingsByOs, if_neg (by decide), if_pos rfl] at mapped
    exact linux_finding_stands read listed
  · rename_i notLinux
    split at traces
    · rename_i windows
      obtain ⟨inputs, look, read, findings⟩ := run_windows_reads traces
      rw [findings]
      apply map_stands
      intro requirement mapped
      have listed : requirement ∈ windowsMappings := by
        rwa [windows, mappingsByOs, if_pos rfl] at mapped
      exact judged_finding_stands (read.mono inside) listed
    · rename_i notWindows
      obtain ⟨_, same⟩ := traces
      cases same
      rw [mappingsByOs, if_neg notWindows, if_neg notLinux]
      exact List.Forall₂.nil

theorem run_traces_stand {report : Report}
    (traces : (run facts false).Traces history (.ok report)) :
    RunStands facts history report.host report.findings := by
  obtain ⟨identity, front, rest, rfl, _, further⟩ := Program.traces_bind_ok.mp traces
  obtain ⟨result, middle, back, rfl, collected, further⟩ := Program.traces_bind_ok.mp further
  obtain ⟨now, last, rfl, _, same⟩ := traces_ask.mp further
  cases same
  exact run_system_stands ((front_inside middle _).trans (back_inside front _)) collected

variable (facts)

/-- Whatever the host answers and however its answers change, every verdict of a run but
INDETERMINATE stands on the replies to calls of the same run. -/
theorem run_verdicts_stand (environment : Program.Environment hostInterface) {report : Report}
    (finished : (Program.run environment [] (run facts false)).1 = .ok report) :
    RunStands facts (Program.run environment [] (run facts false)).2 report.host
      report.findings := by
  obtain ⟨events, history, traces⟩ := Program.run_traces environment [] (run facts false)
  rw [finished] at traces
  rw [history, List.nil_append]
  exact run_traces_stand traces

theorem run_verdicts_stand_bare :
    RunStands bareFacts (Program.run bareHost [] (run bareFacts false)).2 bareReport.host
      bareReport.findings :=
  run_verdicts_stand bareFacts bareHost rfl

end Runs

end Sigmascope.Host
