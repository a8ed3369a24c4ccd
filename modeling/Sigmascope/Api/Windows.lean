import Sigmascope.Api.Report
import Sigmascope.Evaluate.Sysmon
import Sigmascope.Evaluate.WindowsGates
import Sigmascope.Library.Memo

/-!
The Windows half of a run. The audit policy, the registry gates and the Sysmon
state are collected before the first requirement; channels are asked for when a
provider first needs them, and their answers are kept for the rest of the run.
-/

namespace Sigmascope

set_option autoImplicit false

open Sigmascope.Library

/-- The subcategories that the requirements name, sorted and without repetition. -/
def policyGuids (requirements : List Requirement) : List String :=
  sortedSet (requirements.flatMap fun requirement =>
    requirement.providers.filterMap fun provider =>
      match provider with
      | .windowsAudit audit => some audit.subcategoryGuid
      | _ => none)

def nativeGates (states : List (String × String)) : List Gate :=
  states.map fun item =>
    ⟨auditKey (upperText item.1), .str item.2, ⟨"AuditQuerySystemPolicy", item.1⟩⟩

/-- `_native_policy_result` for what the two collectors return. -/
def nativePolicyResult (collectNativePolicy : List String → NativeAuditPolicy)
    (collectCliPolicy : AuditpolCliCollection) (requirements : List Requirement) :
    ParseResult × List CollectionError :=
  let native := collectNativePolicy (policyGuids requirements)
  match native.error with
  | none => ({ determinacy := .effective, gates := nativeGates native.states }, [])
  | some error =>
      match collectCliPolicy.parsed with
      | some parsed => (parsed, [error])
      | none => ({ determinacy := .unknown }, error :: collectCliPolicy.error.toList)

/-- What a Windows run collects, and how `get_channel_config` behaves during it: its
answer may depend on how many calls went before. -/
structure WindowsCollection where
  auditPolicy : ParseResult
  auditErrors : List CollectionError
  registry : ParseResult
  sysmon : SysmonCollection
  getChannelConfig : Nat → String → ChannelConfig

/-- The collection that `_run_windows` works on, from the results of its collectors. -/
def collectWindows (collectNativePolicy : List String → NativeAuditPolicy)
    (collectCliPolicy : AuditpolCliCollection) (registry : ParseResult)
    (sysmon : SysmonCollection) (getChannelConfig : Nat → String → ChannelConfig)
    (requirements : List Requirement) : WindowsCollection :=
  let (auditPolicy, auditErrors) :=
    nativePolicyResult collectNativePolicy collectCliPolicy requirements
  ⟨auditPolicy, auditErrors, registry, sysmon, getChannelConfig⟩

structure WindowsState where
  channels : Memo String ChannelConfig
  errors : List CollectionError

/-- The configuration of a channel; an error is reported on the first use only. -/
def channel (collection : WindowsCollection) (state : WindowsState) (name : String) :
    ChannelConfig × WindowsState :=
  let (config, channels) := state.channels.fetch collection.getChannelConfig name
  if state.channels.table.contains name then (config, ⟨channels, state.errors⟩)
  else (config, ⟨channels, state.errors ++ config.error.toList⟩)

/-- The questions about Sysmon that come before its channel: a verdict, or the parsed
configuration to go on with. -/
def sysmonReady (sysmon : SysmonCollection) (parsed : Option ParseResult) :
    (Verdict × String) ⊕ ParseResult :=
  match sysmon.installed with
  | some false => .inl (.notCovered, "Sysmon is not installed.")
  | none => .inl (.indeterminate, "Sysmon installation state could not be determined.")
  | some true =>
      match sysmon.running with
      | some false =>
          .inl (.notCovered, "Sysmon is installed, but its service is not running.")
      | none =>
          .inl (.indeterminate,
            "Sysmon is installed, but its service state could not be determined.")
      | some true =>
          match parsed with
          | none =>
              .inl (.indeterminate,
                "Sysmon is installed and running, but its effective configuration " ++
                  "could not be read.")
          | some result => .inr result

def evaluateSysmon (parsed : ParseResult) (config : ChannelConfig) (eventType : String) :
    Verdict × String :=
  if config.enabled = some false then
    (.notCovered,
      "Sysmon is installed and running, but its Operational channel is disabled.")
  else if config.error ≠ none ∨ config.enabled = none then
    (.indeterminate,
      "Sysmon is installed and running, but its Operational channel state " ++
        "could not be determined.")
  else evaluateEventType parsed eventType

def windowsAuditOutput (collection : WindowsCollection) (provider : WindowsAuditProvider)
    (config : ChannelConfig) : ProviderResult :=
  let (verdict, explanation, gates) :=
    evaluateWindowsAudit provider collection.auditPolicy collection.registry config
  ⟨provider.sourceId, verdict, explanation, evidenceFromGates gates⟩

def sysmonOutput (provider : SysmonProvider) (parsed : ParseResult) (config : ChannelConfig) :
    ProviderResult :=
  let (verdict, explanation) := evaluateSysmon parsed config provider.eventType
  ⟨provider.sourceId, verdict, explanation,
    evidenceFromRules parsed ++ evidenceFromGates parsed.gates⟩

/-- One round of the provider loop of `_run_windows`. -/
def windowsOutput (collection : WindowsCollection) (parsed : Option ParseResult)
    (state : WindowsState) (provider : Provider) : Option ProviderResult × WindowsState :=
  match provider with
  | .windowsAudit audit =>
      let (config, next) := channel collection state audit.channel
      (some (windowsAuditOutput collection audit config), next)
  | .sysmon sysmon =>
      match sysmonReady collection.sysmon parsed with
      | .inl (verdict, explanation) => (some ⟨sysmon.sourceId, verdict, explanation, []⟩, state)
      | .inr result =>
          let (config, next) := channel collection state sysmon.channel
          (some (sysmonOutput sysmon result config), next)
  | _ => (none, state)

/-- The provider loop of one requirement. -/
def windowsOutputs (collection : WindowsCollection) (parsed : Option ParseResult) :
    WindowsState → List Provider → List ProviderResult × WindowsState
  | state, [] => ([], state)
  | state, provider :: providers =>
      let (output, next) := windowsOutput collection parsed state provider
      let (outputs, last) := windowsOutputs collection parsed next providers
      (output.toList ++ outputs, last)

/-- The requirement loop of `_run_windows`. -/
def windowsFindings (collection : WindowsCollection) (parsed : Option ParseResult) :
    WindowsState → List Requirement → List Finding × WindowsState
  | state, [] => ([], state)
  | state, requirement :: requirements =>
      let (outputs, next) := windowsOutputs collection parsed state requirement.providers
      let (findings, last) := windowsFindings collection parsed next requirements
      (resolveProviderDisjunction requirement outputs :: findings, last)

def windowsStart (collection : WindowsCollection) : WindowsState :=
  ⟨Memo.empty, collection.auditErrors ++ collection.sysmon.errors⟩

/-- The Sysmon configuration as the run parses it. The bytes are decoded by the codec of
the host's console. -/
def parsedConfig (decodeOem : List UInt8 → String) (sysmon : SysmonCollection) :
    Except ValueError (Option ParseResult) :=
  match sysmon.currentConfig with
  | none => .ok none
  | some bytes => (parseSysmonCurrent "sysmon -c" (decodeOem bytes)).map some

/-- `_run_windows` after its collectors. -/
def runWindows (decodeOem : List UInt8 → String) (collection : WindowsCollection)
    (requirements : List Requirement) : Except ValueError RunResult := do
  let parsed ← parsedConfig decodeOem collection.sysmon
  let (findings, last) :=
    windowsFindings collection parsed (windowsStart collection) requirements
  pure
    { findings := findings
      diagnostics := collection.auditPolicy.diagnostics ++ collection.registry.diagnostics ++
        parsed.toList.flatMap ParseResult.diagnostics
      errors := last.errors }

section Snapshot

variable (collection : WindowsCollection) (parsed : Option ParseResult)
  (look : String → ChannelConfig)

/-- The result of a provider judged against a fixed view of the channels. -/
def judgedOutput : Provider → Option ProviderResult
  | .windowsAudit audit => some (windowsAuditOutput collection audit (look audit.channel))
  | .sysmon sysmon =>
      match sysmonReady collection.sysmon parsed with
      | .inl (verdict, explanation) => some ⟨sysmon.sourceId, verdict, explanation, []⟩
      | .inr result => some (sysmonOutput sysmon result (look sysmon.channel))
  | _ => none

def judgedFinding (requirement : Requirement) : Finding :=
  resolveProviderDisjunction requirement
    (requirement.providers.filterMap (judgedOutput collection parsed look))

@[simp] theorem channel_config (state : WindowsState) (name : String) :
    (channel collection state name).1 =
      (state.channels.fetch collection.getChannelConfig name).1 := by
  simp only [channel]
  split <;> rfl

@[simp] theorem channel_channels (state : WindowsState) (name : String) :
    (channel collection state name).2.channels =
      (state.channels.fetch collection.getChannelConfig name).2 := by
  simp only [channel]
  split <;> rfl

variable {collection parsed look}

/-- A round agrees with every snapshot of the channels known after it. -/
theorem windows_output_judged {state : WindowsState} {provider : Provider}
    (snapshot : (windowsOutput collection parsed state provider).2.channels.Snapshot look) :
    state.channels.Snapshot look ∧
      (windowsOutput collection parsed state provider).1 =
        judgedOutput collection parsed look provider := by
  cases provider with
  | windowsAudit audit =>
      simp only [windowsOutput, channel_channels] at snapshot
      obtain ⟨earlier, answer⟩ := Memo.snapshot_before_fetch snapshot
      refine ⟨earlier, ?_⟩
      simp only [windowsOutput, channel_config, answer, judgedOutput]
  | sysmon sysmon =>
      simp only [windowsOutput, judgedOutput] at snapshot ⊢
      cases ready : sysmonReady collection.sysmon parsed with
      | inl outcome =>
          simp only [ready] at snapshot ⊢
          exact ⟨snapshot, trivial⟩
      | inr result =>
          simp only [ready, channel_channels] at snapshot
          obtain ⟨earlier, answer⟩ := Memo.snapshot_before_fetch snapshot
          refine ⟨earlier, ?_⟩
          simp only [channel_config, answer]
  | auditd auditd => exact ⟨snapshot, rfl⟩
  | unknownKind => exact ⟨snapshot, rfl⟩

theorem windows_outputs_judged {providers : List Provider} {state : WindowsState}
    (snapshot : (windowsOutputs collection parsed state providers).2.channels.Snapshot look) :
    state.channels.Snapshot look ∧
      (windowsOutputs collection parsed state providers).1 =
        providers.filterMap (judgedOutput collection parsed look) := by
  induction providers generalizing state with
  | nil => exact ⟨snapshot, rfl⟩
  | cons provider providers induction =>
      have tail := @induction (windowsOutput collection parsed state provider).2 snapshot
      have head := windows_output_judged tail.1
      constructor
      · exact head.1
      · simp only [windowsOutputs, tail.2, head.2, List.filterMap_cons]
        cases judgedOutput collection parsed look provider with
        | none => rfl
        | some output => rfl

/-- All findings of a run are judged against one snapshot of the channels. -/
theorem windows_findings_judged {requirements : List Requirement} {state : WindowsState}
    (snapshot : (windowsFindings collection parsed state requirements).2.channels.Snapshot look) :
    state.channels.Snapshot look ∧
      (windowsFindings collection parsed state requirements).1 =
        requirements.map (judgedFinding collection parsed look) := by
  induction requirements generalizing state with
  | nil => exact ⟨snapshot, rfl⟩
  | cons requirement requirements induction =>
      have tail :=
        @induction (windowsOutputs collection parsed state requirement.providers).2 snapshot
      have head := windows_outputs_judged tail.1
      constructor
      · exact head.1
      · simp only [windowsFindings, tail.2, head.2, List.map_cons, judgedFinding]

section Steady

variable (steady : collection.getChannelConfig = fun _ => look)
include steady

/-- Channels that always answer alike stay a snapshot of the table. -/
theorem windows_output_steady {state : WindowsState} (provider : Provider)
    (snapshot : state.channels.Snapshot look) :
    (windowsOutput collection parsed state provider).2.channels.Snapshot look := by
  cases provider with
  | windowsAudit audit =>
      simp only [windowsOutput, channel_channels, steady]
      exact Memo.fetch_constant _ snapshot
  | sysmon sysmon =>
      simp only [windowsOutput]
      cases sysmonReady collection.sysmon parsed with
      | inl outcome => exact snapshot
      | inr result =>
          simp only [channel_channels, steady]
          exact Memo.fetch_constant _ snapshot
  | auditd auditd => exact snapshot
  | unknownKind => exact snapshot

theorem windows_outputs_steady {state : WindowsState} (providers : List Provider)
    (snapshot : state.channels.Snapshot look) :
    (windowsOutputs collection parsed state providers).2.channels.Snapshot look := by
  induction providers generalizing state with
  | nil => exact snapshot
  | cons provider providers induction =>
      exact induction (windows_output_steady steady provider snapshot)

theorem windows_findings_steady {state : WindowsState} (requirements : List Requirement)
    (snapshot : state.channels.Snapshot look) :
    (windowsFindings collection parsed state requirements).2.channels.Snapshot look := by
  induction requirements generalizing state with
  | nil => exact snapshot
  | cons requirement requirements induction =>
      exact induction (windows_outputs_steady steady requirement.providers snapshot)

end Steady

end Snapshot

end Sigmascope
