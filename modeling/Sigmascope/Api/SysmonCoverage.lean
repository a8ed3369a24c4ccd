import Sigmascope.Api.HostCoverage
import Sigmascope.Evaluate.SysmonConfigs

/-!
From the filters of Sysmon to the report and back. Sysmon logs events by its configuration,
`sysmon -c` prints it, the run reads the text and judges it; when the report is definite about
an event type, so is every configuration with the printed text.
-/

namespace Sigmascope.Host

set_option autoImplicit false

open Sigmascope.Library Sigmascope.Library.PyText

section Meaning

/-- A service of Sysmon runs, its channel is enabled, and what it printed is the text only of
configurations with the given property. -/
structure SysmonPrints (facts : HostFacts) (history : History) (provider : SysmonProvider)
    (property : SysmonConfig → Prop) : Prop where
  running : SysmonRuns history
  opened : ChannelSays history provider.channel true
  printed : ∃ bytes, Printed facts history bytes ∧
    ∀ (config : SysmonConfig) (ending : LineEnd), config.Printable →
      facts.decodeOem bytes = config.text ending → property config

/-- Replies from which the provider delivers every event of its kind. -/
inductive Delivers (facts : HostFacts) (history : History) (subcategoryGuids : List String) :
    Provider → Prop where
  | audited {provider : WindowsAuditProvider} {state : String}
      (opened : ChannelSays history provider.channel true)
      (said : PolicySays facts history subcategoryGuids provider.subcategoryGuid state)
      (required : state ∈ provider.requiredStates)
      (field : provider.fieldGate ≠ none → CommandLineSays history true)
      (unreserved : provider.necessaryButInsufficient.filter (· != "") = none) :
      Delivers facts history subcategoryGuids (.windowsAudit provider)
  | logged {provider : SysmonProvider} (prints : SysmonPrints facts history provider fun config =>
      ∀ found, config.Logs provider.eventType found) :
      Delivers facts history subcategoryGuids (.sysmon provider)

/-- Replies from which the provider delivers no event of its kind, or none of a required state. -/
inductive Withholds (facts : HostFacts) (history : History) (subcategoryGuids : List String) :
    Provider → Prop where
  | channelOff {provider : WindowsAuditProvider}
      (closed : ChannelSays history provider.channel false) :
      Withholds facts history subcategoryGuids (.windowsAudit provider)
  | unaudited {provider : WindowsAuditProvider} {state : String}
      (opened : ChannelSays history provider.channel true)
      (said : PolicySays facts history subcategoryGuids provider.subcategoryGuid state)
      (missing : state ∉ provider.requiredStates) :
      Withholds facts history subcategoryGuids (.windowsAudit provider)
  | noSysmon {provider : SysmonProvider} (absent : ∀ name ∈ serviceNames, NoService history name) :
      Withholds facts history subcategoryGuids (.sysmon provider)
  | stopped {provider : SysmonProvider} {name : String} {state : Nat}
      (member : name ∈ serviceNames) (inside : ServiceIn history name state)
      (other : state ≠ serviceRunning) : Withholds facts history subcategoryGuids (.sysmon provider)
  | operationalOff {provider : SysmonProvider} (running : SysmonRuns history)
      (closed : ChannelSays history provider.channel false) :
      Withholds facts history subcategoryGuids (.sysmon provider)
  | filtered {provider : SysmonProvider}
      (prints : SysmonPrints facts history provider fun config =>
        ∀ found, ¬config.Logs provider.eventType found) :
      Withholds facts history subcategoryGuids (.sysmon provider)

/-- A definite verdict of a finding says what the providers of its requirement do. -/
def FindingMeans (facts : HostFacts) (history : History) (subcategoryGuids : List String)
    (requirement : Requirement) (finding : Finding) : Prop :=
  finding.logsource = requirement.logsource ∧
    (finding.verdict = .covered → ∃ provider ∈ requirement.providers,
      Delivers facts history subcategoryGuids provider) ∧
    (finding.verdict = .notCovered → ∀ provider ∈ requirement.providers,
      Withholds facts history subcategoryGuids provider)

end Meaning

section Providers

variable {facts : HostFacts} {history : History} {subcategoryGuids : List String} {arch : String}

/-- A configuration with the printed text got the verdict of the text. -/
theorem config_said {eventType : String} {verdict : Verdict}
    (said : ConfigSays facts history eventType verdict) :
    ∃ bytes, Printed facts history bytes ∧
      ∀ (config : SysmonConfig) (ending : LineEnd), config.Printable →
        facts.decodeOem bytes = config.text ending →
        (evaluateEventType (config.result "sysmon -c") eventType).1 = verdict := by
  obtain ⟨bytes, parsed, printed, read, given⟩ := said
  refine ⟨bytes, printed, ?_⟩
  intro config ending printable same
  rw [same, parse_config_text "sysmon -c" printable] at read
  cases read
  exact given

theorem sysmon_prints {provider : SysmonProvider} {verdict : Verdict}
    {property : SysmonConfig → Prop} (running : SysmonRuns history)
    (opened : ChannelSays history provider.channel true)
    (said : ConfigSays facts history provider.eventType verdict)
    (means : ∀ config : SysmonConfig, config.Printable →
      (evaluateEventType (config.result "sysmon -c") provider.eventType).1 = verdict →
        property config) : SysmonPrints facts history provider property := by
  obtain ⟨bytes, printed, each⟩ := config_said said
  exact ⟨running, opened, bytes, printed,
    fun config ending printable same => means config printable (each config ending printable same)⟩

/-- Full coverage that stands on a provider of Windows is delivered by it. -/
theorem covered_delivers {provider : Provider} (windows : ∀ auditd, provider ≠ .auditd auditd)
    (stands : Stands facts history subcategoryGuids arch provider .covered) :
    Delivers facts history subcategoryGuids provider := by
  cases stands with
  | rules located listed shown running said => exact absurd rfl (windows _)
  | audited opened said required field unreserved =>
      exact .audited opened said required field unreserved
  | configured running opened said =>
      exact .logged (sysmon_prints running opened said fun config printable =>
        (config_covered_iff "sysmon -c" printable).mp)

theorem gap_withholds {provider : Provider} (windows : ∀ auditd, provider ≠ .auditd auditd)
    (stands : Stands facts history subcategoryGuids arch provider .notCovered) :
    Withholds facts history subcategoryGuids provider := by
  cases stands with
  | unlocated nowhere => exact absurd rfl (windows _)
  | idle located shown zero => exact absurd rfl (windows _)
  | rules located listed shown running said => exact absurd rfl (windows _)
  | channelOff closed => exact .channelOff closed
  | unaudited opened said missing => exact .unaudited opened said missing
  | noSysmon absent => exact .noSysmon absent
  | stopped member inside other => exact .stopped member inside other
  | operationalOff running closed => exact .operationalOff running closed
  | configured running opened said =>
      exact .filtered (sysmon_prints running opened said fun config _ =>
        config_not_covered "sysmon -c")

end Providers

section Runs

theorem windows_mappings_kinds : ∀ requirement ∈ windowsMappings,
    ∀ provider ∈ requirement.providers, ∀ auditd, provider ≠ .auditd auditd := by
  intro requirement member provider listed auditd same
  subst same
  simp only [windowsMappings, List.mem_cons, List.not_mem_nil, or_false] at member
  rcases member with rfl | rfl | rfl
  · simp [windowsProcessCreation] at listed
  · simp [windowsNetworkConnection] at listed
  · simp [windowsFileEvent] at listed

variable (facts : HostFacts)

/-- A definite verdict of a run on Windows means what it says, for every configuration of Sysmon
with the printed text: full coverage that no filter withholds an event, a gap that no event passes
the filters. -/
theorem definite_run_means (environment : Program.Environment hostInterface) {report : Report}
    (finished : (Program.run environment [] (run facts false)).1 = .ok report)
    (windows : report.host.os = "windows") :
    List.Forall₂
      (FindingMeans facts (Program.run environment [] (run facts false)).2
        (policyGuids windowsMappings))
      windowsMappings report.findings := by
  obtain ⟨events, history, traces⟩ := Program.run_traces environment [] (run facts false)
  rw [finished] at traces
  rw [history, List.nil_append]
  have stand := run_traces_stand traces
  rw [RunStands, windows, mappingsByOs, if_pos rfl] at stand
  refine ((List.forall₂_and_left _ _).mpr ⟨windows_mappings_kinds, stand⟩).imp ?_
  intro requirement finding given
  obtain ⟨kinds, source, passed, gap⟩ := given
  refine ⟨source, ?_, ?_⟩
  · intro covered
    obtain ⟨provider, listed, stands⟩ := passed (Or.inl covered)
    rw [covered] at stands
    exact ⟨provider, listed, covered_delivers (kinds provider listed) stands⟩
  · intro uncovered provider listed
    exact gap_withholds (kinds provider listed) (gap uncovered provider listed)

/-- A configuration without rules that watches the network. -/
def plainConfig : SysmonConfig where
  banner := []
  before := []
  networkConnection := true
  behind := []
  version := "4.90".toList
  blocks := []

/-- A host whose only source of events is Sysmon. -/
def sysmonHost : Program.Environment hostInterface := fun past query =>
  match query with
  | .loadLibrary _ => .ok ()
  | .openSCManager _ => .ok 1
  | .openService _ _ _ => .ok 2
  | .queryServiceStatusEx _ => .ok serviceRunning
  | .which _ => some "C:\\Sysmon64.exe"
  | .isFile _ => .ok true
  | .run [_, "-c"] => .completed 0 (asciiBytes (plainConfig.text .returnFeed)) []
  | .evtOpenChannelConfig _ => .ok 1
  | .evtGetChannelConfigProperty _ _ => .ok 1
  | other => bareHost past other

def sysmonLook : String → ChannelConfig := fun _ => ⟨some true, none⟩

def sysmonInputs : WindowsInputs where
  auditPolicy := { determinacy := .unknown }
  registry := registryGates (.error .missing)
  sysmon := ⟨some true, some true, some (asciiBytes (plainConfig.text .returnFeed)), []⟩
  parsed := some (plainConfig.result "sysmon -c")

def sysmonReport : Report where
  generatedUtc := bareReport.generatedUtc
  host := ⟨"bare", "windows", "6.8", "AMD64"⟩
  findings := windowsMappings.map
    (judgedFinding (sysmonInputs.collection sysmonLook) sysmonInputs.parsed sysmonLook)
  diagnostics := []
  collectionErrors :=
    [⟨"windows.audit_policy", "[WinError 5] OpenProcessToken failed", "AuditQuerySystemPolicy"⟩,
      ⟨"windows.audit_policy", "No such file or directory", "auditpol /get /category:* /r"⟩]

theorem definite_run_means_sysmon :
    List.Forall₂
      (FindingMeans windowsFacts (Program.run sysmonHost [] (run windowsFacts false)).2
        (policyGuids windowsMappings))
      windowsMappings sysmonReport.findings := by
  have finished : (Program.run sysmonHost [] (run windowsFacts false)).1 = .ok sysmonReport := rfl
  exact definite_run_means windowsFacts sysmonHost finished rfl

end Runs

end Sigmascope.Host
