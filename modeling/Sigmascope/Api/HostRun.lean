import Sigmascope.Api.Linux
import Sigmascope.Api.Windows
import Sigmascope.Collect.HostPrograms

/-!
A whole run as one program: the facts about the host, the collectors of its system, the
evaluation, and the report. The Windows run goes on asking while it evaluates, because a
channel is queried when a provider first needs it.
-/

namespace Sigmascope

set_option autoImplicit false

open Sigmascope.Library Sigmascope.Library.PyText

/-- The values of `_host` -/
structure HostIdentity where
  hostname : String
  os : String
  osVersion : String
  arch : String
deriving DecidableEq, Repr

/-- What `run` returns. The version numbers and the layer are the same in every report. -/
structure Report where
  generatedUtc : String
  host : HostIdentity
  findings : List Finding
  diagnostics : List Diagnostic
  collectionErrors : List CollectionError
deriving DecidableEq

/-- `MAPPINGS_BY_OS.get(product, ())` -/
def mappingsByOs (product : String) : List Requirement :=
  if product = "windows" then windowsMappings
  else if product = "linux" then linuxMappings
  else []

namespace Host

variable (facts : HostFacts)

section Windows

/-- `_native_policy_result` -/
def nativePolicyResult (requirements : List Requirement) :
    HostProgram (ParseResult × List CollectionError) := do
  let native ← collectNativePolicy facts (policyGuids requirements)
  match native.error with
  | none => pure ({ determinacy := .effective, gates := nativeGates native.states }, [])
  | some error => do
      let cli ← collectCliPolicy facts
      match cli.parsed with
      | some parsed => pure (parsed, [error])
      | none => pure ({ determinacy := .unknown }, error :: cli.error.toList)

/-- The dictionary of the channels, and the errors so far. -/
structure ChannelTable where
  channels : Dict String ChannelConfig
  errors : List CollectionError

def channel (table : ChannelTable) (name : String) : HostProgram (ChannelConfig × ChannelTable) :=
  match table.channels.get? name with
  | some config => pure (config, table)
  | none => do
      let config ← getChannelConfig facts name
      pure (config, ⟨table.channels.set name config, table.errors ++ config.error.toList⟩)

/-- What the provider loop of `_run_windows` works on. -/
structure WindowsInputs where
  auditPolicy : ParseResult
  registry : ParseResult
  sysmon : SysmonCollection
  parsed : Option ParseResult

def windowsAuditOutput (inputs : WindowsInputs) (provider : WindowsAuditProvider)
    (config : ChannelConfig) : ProviderResult :=
  let (verdict, explanation, gates) :=
    evaluateWindowsAudit provider inputs.auditPolicy inputs.registry config
  ⟨provider.sourceId, verdict, explanation, evidenceFromGates gates⟩

/-- One round of the provider loop. -/
def windowsOutput (inputs : WindowsInputs) (table : ChannelTable) :
    Provider → HostProgram (Option ProviderResult × ChannelTable)
  | .windowsAudit audit => do
      let (config, next) ← channel facts table audit.channel
      pure (some (windowsAuditOutput inputs audit config), next)
  | .sysmon sysmon =>
      match sysmonReady inputs.sysmon inputs.parsed with
      | .inl (verdict, explanation) =>
          pure (some ⟨sysmon.sourceId, verdict, explanation, []⟩, table)
      | .inr result => do
          let (config, next) ← channel facts table sysmon.channel
          pure (some (sysmonOutput sysmon result config), next)
  | _ => pure (none, table)

/-- The provider loop of one requirement. -/
def windowsOutputs (inputs : WindowsInputs) :
    ChannelTable → List Provider → HostProgram (List ProviderResult × ChannelTable)
  | table, [] => pure ([], table)
  | table, provider :: providers => do
      let (output, next) ← windowsOutput facts inputs table provider
      let (outputs, last) ← windowsOutputs inputs next providers
      pure (output.toList ++ outputs, last)

/-- The requirement loop of `_run_windows`. -/
def windowsFindings (inputs : WindowsInputs) :
    ChannelTable → List Requirement → HostProgram (List Finding × ChannelTable)
  | table, [] => pure ([], table)
  | table, requirement :: requirements => do
      let (outputs, next) ← windowsOutputs facts inputs table requirement.providers
      let (findings, last) ← windowsFindings inputs next requirements
      pure (resolveProviderDisjunction requirement outputs :: findings, last)

/-- `_run_windows` -/
def runWindows (requirements : List Requirement) : HostProgram RunResult := do
  let (auditPolicy, auditErrors) ← nativePolicyResult facts requirements
  let registry ← collectRegistryGates facts
  let sysmon ← collectSysmon facts
  let parsed ← Program.ofExcept ((parsedConfig facts.decodeOem sysmon).mapError .valueError)
  let (findings, last) ← windowsFindings facts ⟨auditPolicy, registry, sysmon, parsed⟩
    ⟨Dict.empty, auditErrors ++ sysmon.errors⟩ requirements
  pure
    { findings := findings
      diagnostics := auditPolicy.diagnostics ++ registry.diagnostics ++
        parsed.toList.flatMap ParseResult.diagnostics
      errors := last.errors }

end Windows

/-- `_run_linux` -/
def runLinux (requirements : List Requirement) (arch : String) : HostProgram RunResult := do
  let collection ← collectAuditd facts
  pure (Sigmascope.runLinux collection requirements arch)

/-- `_host` -/
def host : HostProgram HostIdentity := do
  let hostname ← raiseOsError (← ask .gethostname)
  pure ⟨hostname, String.ofList (lower facts.system.toList), facts.release, facts.machine⟩

/-- `datetime.now(timezone.utc).isoformat().replace("+00:00", "Z")` -/
def generatedUtc (now : DateTime) : String :=
  String.ofList (replace ['+', '0', '0', ':', '0', '0'] ['Z'] now.isoformat)

def demoFinding : Finding where
  logsource := [("category", "process_creation"), ("product", "linux"), ("service", "auditd")]
  verdict := .degraded
  satisfied := false
  explanation := "Demo finding: generation coverage is intentionally partial."
  providers := []
  references := ["https://github.com/zbalkan/sigmascope"]

/-- `_demo_report` -/
def demoReport : HostProgram Report := do
  let now ← ask .now
  let identity ← host facts
  pure ⟨generatedUtc now, identity, [demoFinding], [], []⟩

/-- The result on a system without a mapping. -/
def unsupported (product : String) : RunResult where
  findings := []
  diagnostics := []
  errors := [⟨"host", "unsupported operating system " ++ pyRepr product.toList, facts.platform⟩]

/-- The runner of a system. -/
def runSystem (identity : HostIdentity) : HostProgram RunResult :=
  if identity.os = "linux" then runLinux facts (mappingsByOs identity.os) identity.arch
  else if identity.os = "windows" then runWindows facts (mappingsByOs identity.os)
  else pure (unsupported facts identity.os)

def run (demo : Bool) : HostProgram Report :=
  if demo then demoReport facts
  else do
    let identity ← host facts
    let result ← runSystem facts identity
    let now ← ask .now
    pure ⟨generatedUtc now, identity, result.findings, result.diagnostics, result.errors⟩

end Host

end Sigmascope
