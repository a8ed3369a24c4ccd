import Sigmascope.Collect.Auditd
import Sigmascope.Collect.HostCalls
import Sigmascope.Parse.AuditpolText

/-!
The collectors as programs, call by call, with their exceptions and their `finally`
clauses. A collector asks the host in the order of the source and stops asking where the
source does.
-/

namespace Sigmascope.Host

set_option autoImplicit false

open Sigmascope.Library Sigmascope.Library.PyText

variable (facts : HostFacts)

section Auditpol

/-- `_libraries` -/
def libraries : HostProgram Unit :=
  if facts.sysPlatform ≠ "win32" then
    .raised (.osError ⟨none, "Windows audit policy APIs are only available on Windows"⟩)
  else do
    raiseOsError (← ask (.loadLibrary "advapi32"))
    raiseOsError (← ask (.loadLibrary "kernel32"))

/-- The body of `_enable_security_privilege` between the opening and the closing of the token. -/
def adjustToken (token : Nat) : HostProgram Unit := do
  match ← ask (.lookupPrivilegeValue seSecurityName) with
  | .error code => raiseLastError "LookupPrivilegeValueW" code
  | .ok luid =>
      match ← ask (.adjustTokenPrivileges token luid sePrivilegeEnabled) with
      | .error code => raiseLastError "AdjustTokenPrivileges" code
      | .ok lastError =>
          if lastError = errorNotAllAssigned then
            .raised (.osError ⟨some errorNotAllAssigned,
              "[Errno 1300] process token does not hold SeSecurityPrivilege"⟩)
          else pure ()

/-- `_enable_security_privilege` -/
def enableSecurityPrivilege : HostProgram Unit := do
  match ← ask (.openProcessToken (tokenQuery ||| tokenAdjustPrivileges)) with
  | .error code => raiseLastError "OpenProcessToken" code
  | .ok token => (adjustToken token).ensuring (release (.closeHandle token))

/-- The entries of the buffer, one after the other. -/
def readEntries (address : Nat) : List Nat → HostProgram (List AuditPolicyInformation)
  | [] => pure []
  | index :: indices => do
      let entry ← ask (.readAuditEntry address index)
      let entries ← readEntries address indices
      pure (entry :: entries)

/-- The dictionary comprehension of `_query_once`. Nothing can be read behind a null pointer. -/
def readBuffer (address count : Nat) : HostProgram (Dict String String) :=
  if address = 0 ∧ count ≠ 0 then .raised (.valueError ⟨"NULL pointer access"⟩)
  else do
    let entries ← readEntries address (List.range count)
    pure (policyStates entries)

/-- `_query_once` -/
def queryOnce (guids : List Guid) : HostProgram (Dict String String) := do
  match ← ask (.auditQuerySystemPolicy guids) with
  | .error code => raiseLastError "AuditQuerySystemPolicy" code
  | .ok address =>
      if address = 0 then readBuffer address guids.length
      else (readBuffer address guids.length).ensuring (release (.auditFree address))

/-- `(GUID * n)(*(GUID.from_string(value) for value in subcategory_guids))` -/
def guidArray (subcategoryGuids : List String) : Except ValueError (List Guid) :=
  subcategoryGuids.mapM fun value => Guid.fromString value.toList

/-- The first query of `query_system_policy`; nothing comes back when access is denied. -/
def firstQuery (guids : List Guid) : HostProgram (Option (Dict String String)) :=
  catchingOsError (some <$> queryOnce guids) fun error =>
    if error.code ≠ some errorAccessDenied then .raised (.osError error) else pure none

def querySystemPolicy (subcategoryGuids : List String) : HostProgram (Dict String String) :=
  if subcategoryGuids = [] then pure Dict.empty
  else do
    libraries facts
    let guids ← Program.ofExcept ((guidArray subcategoryGuids).mapError .valueError)
    match ← firstQuery guids with
    | some states => pure states
    | none => do
        enableSecurityPrivilege
        queryOnce guids

def collectNativePolicy (subcategoryGuids : List String) : HostProgram NativeAuditPolicy :=
  catchingOsError
    (do
      let states ← querySystemPolicy facts subcategoryGuids
      pure ⟨states.items, none⟩)
    fun error =>
      pure ⟨[], some ⟨"windows.audit_policy", error.text, "AuditQuerySystemPolicy"⟩⟩

def auditpolResource : String := "auditpol /get /category:* /r"

/-- `collect_cli_policy` behind the run of the command. -/
def cliPolicy (outcome : RunOutcome) : Except HostError AuditpolCliCollection :=
  match outcome with
  | .raised text => .ok ⟨none, some ⟨"windows.audit_policy", text, auditpolResource⟩⟩
  | .completed returnCode stdout stderr =>
      if returnCode ≠ 0 then
        let message := String.ofList (strip (facts.decodeOem stderr).toList)
        let report := if message = "" then "auditpol exited " ++ toString returnCode else message
        .ok ⟨none, some ⟨"windows.audit_policy", report, auditpolResource⟩⟩
      else
        ((parseAuditpolText facts.acceptsNul "auditpol /r" (facts.decodeOem stdout)).mapError
          .csvError).map fun parsed => ⟨some parsed, none⟩

def collectCliPolicy : HostProgram AuditpolCliCollection :=
  if facts.sysPlatform ≠ "win32" then
    pure ⟨none,
      some ⟨"windows.audit_policy", "auditpol is only available on Windows", auditpolResource⟩⟩
  else do
    let outcome ← ask (.run auditpolCommand)
    Program.ofExcept (cliPolicy facts outcome)

end Auditpol

section Registry

/-- A value of the registry; the key is closed behind the `with` block. -/
def readValue (path name : String) : HostProgram (Except KeyFailure RegistryValue) := do
  match ← ask (.openKey path keyRead) with
  | .error failure => pure (.error failure)
  | .ok key => (ask (.queryValueEx key name)).ensuring (release (.closeKey key))

def commandLinePath : String :=
  "SOFTWARE\\Microsoft\\Windows\\CurrentVersion\\Policies\\System\\Audit"

def commandLineValue : String := "ProcessCreationIncludeCmdLine_Enabled"

/-- `collect_registry_gates` behind the query of the value. -/
def registryGates (outcome : Except KeyFailure RegistryValue) : ParseResult :=
  let origin : Origin :=
    ⟨"windows.registry", "HKLM\\" ++ commandLinePath ++ "\\" ++ commandLineValue⟩
  let gate := fun value : Bool =>
    ({ determinacy := .effective
       gates := [⟨"windows.process_creation.include_command_line", .bool value, origin⟩] } :
      ParseResult)
  match outcome with
  | .ok value => gate value.truth
  | .error .missing => gate false
  | .error (.failed text) =>
      { determinacy := .unknown, diagnostics := [⟨.warn, text, origin, ""⟩] }

def collectRegistryGates : HostProgram ParseResult :=
  if facts.sysPlatform ≠ "win32" then pure { determinacy := .unknown }
  else do
    let outcome ← readValue commandLinePath commandLineValue
    pure (registryGates outcome)

end Registry

section Channels

def channelError (operation channel : String) (code : Int) : ChannelConfig :=
  ⟨none,
    some ⟨"windows.channel", operation ++ " failed: WinError " ++ toString code, channel⟩⟩

/-- The body of `get_channel_config` between the opening and the closing of the channel. -/
def channelProperty (channel : String) (handle : Nat) : HostProgram ChannelConfig := do
  match ← ask (.evtGetChannelConfigProperty handle evtChannelConfigEnabled) with
  | .error code => pure (channelError "EvtGetChannelConfigProperty" channel code)
  | .ok booleanVal => pure ⟨some (booleanVal != 0), none⟩

def getChannelConfig (channel : String) : HostProgram ChannelConfig :=
  if facts.sysPlatform ≠ "win32" then
    pure ⟨none,
      some ⟨"windows.channel", "Windows Event Log APIs are unavailable on this platform",
        channel⟩⟩
  else do
    raiseOsError (← ask (.loadLibrary "wevtapi"))
    match ← ask (.evtOpenChannelConfig channel) with
    | .error code => pure (channelError "EvtOpenChannelConfig" channel code)
    | .ok handle => (channelProperty channel handle).ensuring (release (.evtClose handle))

end Channels

section Sysmon

/-- `_service_state` with the service open. -/
def queryService (service : Nat) : HostProgram ServiceState := do
  match ← ask (.queryServiceStatusEx service) with
  | .error code =>
      pure ⟨none, true, some ("QueryServiceStatusEx failed: WinError " ++ toString code)⟩
  | .ok currentState => pure ⟨some (currentState == serviceRunning), true, none⟩

/-- `_service_state` with the service manager open. -/
def openService (manager : Nat) (name : String) : HostProgram ServiceState := do
  match ← ask (.openService manager name serviceQueryStatus) with
  | .error code =>
      if code = errorServiceDoesNotExist then pure ⟨some false, false, none⟩
      else pure ⟨none, false, some ("OpenServiceW failed: WinError " ++ toString code)⟩
  | .ok service => (queryService service).ensuring (release (.closeServiceHandle service))

/-- `_service_state` -/
def serviceState (name : String) : HostProgram ServiceState :=
  if facts.sysPlatform ≠ "win32" then
    pure ⟨none, false, some "Windows service APIs are unavailable"⟩
  else do
    raiseOsError (← ask (.loadLibrary "advapi32"))
    match ← ask (.openSCManager scManagerConnect) with
    | .error code => pure ⟨none, false, some ("OpenSCManagerW failed: WinError " ++ toString code)⟩
    | .ok manager => (openService manager name).ensuring (release (.closeServiceHandle manager))

/-- `_service_image_path` behind the query of the value. -/
def imagePath (outcome : Except KeyFailure RegistryValue) : Except HostError (Option String) :=
  match outcome with
  | .error _ => .ok none
  | .ok (.other _) => .ok none
  | .ok (.text raw) =>
      match commandExecutable (expandVars facts.environ (strip raw.toList)) with
      | none => .error .indexError
      | some executable =>
          if systemRootPrefix.isPrefixOf (lower executable) then
            .ok (some (String.ofList (facts.joinPath
              ((facts.environ "SYSTEMROOT".toList).getD "C:\\Windows".toList)
              (executable.drop systemRootPrefix.length))))
          else .ok (some (String.ofList executable))

/-- `_service_image_path` -/
def serviceImagePath (name : String) : HostProgram (Option String) :=
  if facts.sysPlatform ≠ "win32" then pure none
  else do
    let outcome ← readValue (serviceKey name) "ImagePath"
    Program.ofExcept (imagePath facts outcome)

/-- The loop over the service names. -/
def findService : List String → HostProgram (List CollectionError × Option (String × Option Bool))
  | [] => pure ([], none)
  | name :: names => do
      let state ← serviceState facts name
      let errors := state.error.toList.map fun message => ⟨"sysmon", message, name⟩
      if state.present then pure (errors, some (name, state.running))
      else
        let (more, found) ← findService names
        pure (errors ++ more, found)

/-- The loop over the executable names. -/
def addFound (paths : List String) : List String → HostProgram (List String)
  | [] => pure paths
  | name :: names => do
      match ← ask (.which name) with
      | some found =>
          if found = "" ∨ found ∈ paths then addFound paths names
          else addFound (paths ++ [found]) names
      | none => addFound paths names

def executablePaths (name : String) : HostProgram (List String) := do
  let image ← serviceImagePath facts name
  addFound (image.toList.filter (· != "")) executableNames

/-- The first path with a file. -/
def firstFile : List String → HostProgram (Option String)
  | [] => pure none
  | path :: paths => do
      let found ← raiseOsError (← ask (.isFile path))
      if found then pure (some path) else firstFile paths

/-- `collect_sysmon` behind the run of the executable. -/
def sysmonOutcome (errors : List CollectionError) (executable : String) (outcome : RunOutcome) :
    SysmonCollection :=
  match outcome with
  | .raised text =>
      ⟨some true, some true, none, errors ++ [⟨"sysmon", text, executable ++ " -c"⟩]⟩
  | .completed returnCode stdout stderr =>
      if returnCode ≠ 0 then
        let message := String.ofList (strip (facts.decodeOem stderr).toList)
        let report := if message = "" then "sysmon -c exited " ++ toString returnCode else message
        ⟨some true, some true, none, errors ++ [⟨"sysmon", report, executable ++ " -c"⟩]⟩
      else ⟨some true, some true, some (if stdout = [] then stderr else stdout), errors⟩

/-- `collect_sysmon` with a running service. -/
def collectRunning (errors : List CollectionError) (name : String) :
    HostProgram SysmonCollection := do
  let paths ← executablePaths facts name
  match ← firstFile paths with
  | none =>
      pure ⟨some true, some true, none, errors ++
        [⟨"sysmon", "Sysmon service is running but its executable could not be located", name⟩]⟩
  | some executable => do
      let outcome ← ask (.run [executable, "-c"])
      pure (sysmonOutcome facts errors executable outcome)

def collectSysmon : HostProgram SysmonCollection :=
  if facts.sysPlatform ≠ "win32" then
    pure ⟨none, none, none,
      [⟨"sysmon", "Sysmon collection is only available on Windows", "Windows SCM"⟩]⟩
  else do
    match ← findService facts serviceNames with
    | (errors, none) =>
        if errors = [] then pure ⟨some false, some false, none, errors⟩
        else pure ⟨none, none, none, errors⟩
    | (errors, some (name, running)) =>
        if running ≠ some true then pure ⟨some true, running, none, errors⟩
        else collectRunning facts errors name

end Sysmon

section Auditd

/-- The first candidate that is there. -/
def firstCandidate : List String → HostProgram (Option String)
  | [] => pure none
  | candidate :: candidates => do
      if ← ask (.pathExists candidate) then pure (some candidate) else firstCandidate candidates

/-- A directory that is there and cannot be searched. -/
def unsearchable : List String → HostProgram Bool
  | [] => pure false
  | directory :: directories => do
      if ← ask (.isDirectory directory) then
        if ← ask (.searchable directory) then unsearchable directories else pure true
      else unsearchable directories

/-- `_locate_auditctl` -/
def locateAuditctl : HostProgram (Option String × Bool) := do
  match ← ask (.which "auditctl") with
  | some executable => pure (some executable, true)
  | none =>
      match ← firstCandidate sbinCandidates with
      | some candidate => pure (some candidate, true)
      | none => do
          let blocked ← unsearchable sbinDirectories
          pure (none, !blocked)

/-- The outcome of a command as text. -/
def decodeOutcome : RunOutcome → ProcessOutcome
  | .raised text => .raised text
  | .completed returnCode stdout stderr =>
      .exited returnCode (facts.decodeUtf8 stdout) (facts.decodeUtf8 stderr)

/-- `_auditctl` -/
def auditctl (executable argument : String) :
    HostProgram (Option String × Option CollectionError) := do
  let outcome ← ask (.run [executable, argument])
  pure (Sigmascope.auditctl (decodeOutcome facts outcome) executable argument)

def collectAuditd : HostProgram AuditdCollection := do
  match ← locateAuditctl with
  | (none, true) => pure ⟨some false, none, none, []⟩
  | (none, false) =>
      pure ⟨none, none, none,
        [⟨"auditd",
          "auditctl is absent from PATH and the standard sbin " ++
            "directories could not be searched",
          "auditctl"⟩]⟩
  | (some executable, _) => do
      let (rules, rulesError) ← auditctl facts executable "-l"
      let (status, statusError) ← auditctl facts executable "-s"
      pure ⟨some true, rules, status, rulesError.toList ++ statusError.toList⟩

end Auditd

end Sigmascope.Host
