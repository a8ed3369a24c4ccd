import Sigmascope.Collect.GuidText
import Sigmascope.Collect.Sysmon
import Sigmascope.Library.Csv
import Sigmascope.Library.DateTime
import Sigmascope.Library.Resources

/-!
What the collectors call. A call carries the arguments that the program chooses, the
access rights among them; the reply is up to the host. The facts of a host are the values
that the program reads without a call and that do not change while it runs.
-/

namespace Sigmascope

set_option autoImplicit false

open Sigmascope.Library Sigmascope.Library.PyText

structure HostFacts where
  /-- `sys.platform` -/
  sysPlatform : String
  /-- `platform.system()` -/
  system : String
  /-- `platform.release()` -/
  release : String
  /-- `platform.machine()` -/
  machine : String
  /-- `platform.platform()` -/
  platform : String
  environ : Text → Option Text
  joinPath : Text → Text → Text
  decodeUtf8 : List UInt8 → String
  decodeOem : List UInt8 → String
  /-- From Python 3.11 on, the null character is one of the characters of a CSV file. -/
  acceptsNul : Bool

/-- `FileNotFoundError`, or the text of another `OSError`. -/
inductive KeyFailure where
  | missing
  | failed (text : String)

/-- A value of the registry: a string, or something else with its truth value. -/
inductive RegistryValue where
  | text (raw : String)
  | other (truth : Bool)

/-- `bool(value)` -/
def RegistryValue.truth : RegistryValue → Bool
  | .text raw => raw != ""
  | .other truth => truth

inductive HostCall where
  | gethostname
  | now
  | which (name : String)
  | pathExists (path : String)
  | isDirectory (path : String)
  | searchable (path : String)
  | isFile (path : String)
  | run (command : List String)
  | loadLibrary (name : String)
  | openProcessToken (access : Nat)
  | lookupPrivilegeValue (name : String)
  | adjustTokenPrivileges (token luid attributes : Nat)
  | closeHandle (handle : Nat)
  | auditQuerySystemPolicy (guids : List Guid)
  | readAuditEntry (address index : Nat)
  | auditFree (address : Nat)
  | openSCManager (access : Nat)
  | openService (manager : Nat) (name : String) (access : Nat)
  | queryServiceStatusEx (service : Nat)
  | closeServiceHandle (handle : Nat)
  | openKey (path : String) (access : Nat)
  | queryValueEx (key : Nat) (name : String)
  | closeKey (key : Nat)
  | evtOpenChannelConfig (channel : String)
  | evtGetChannelConfigProperty (config property : Nat)
  | evtClose (config : Nat)

/-- A call of the Windows interfaces that fails leaves its code with `get_last_error`. The query
of the policy gives the address of a buffer, and each of its entries is read for itself. -/
@[reducible] def HostReply : HostCall → Type
  | .gethostname => Except OsError String
  | .now => DateTime
  | .which _ => Option String
  | .pathExists _ => Bool
  | .isDirectory _ => Bool
  | .searchable _ => Bool
  | .isFile _ => Except OsError Bool
  | .run _ => RunOutcome
  | .loadLibrary _ => Except OsError Unit
  | .openProcessToken _ => Except Int Nat
  | .lookupPrivilegeValue _ => Except Int Nat
  | .adjustTokenPrivileges _ _ _ => Except Int Int
  | .closeHandle _ => Unit
  | .auditQuerySystemPolicy _ => Except Int Nat
  | .readAuditEntry _ _ => AuditPolicyInformation
  | .auditFree _ => Unit
  | .openSCManager _ => Except Int Nat
  | .openService _ _ _ => Except Int Nat
  | .queryServiceStatusEx _ => Except Int Nat
  | .closeServiceHandle _ => Unit
  | .openKey _ _ => Except KeyFailure Nat
  | .queryValueEx _ _ => Except KeyFailure RegistryValue
  | .closeKey _ => Unit
  | .evtOpenChannelConfig _ => Except Int Nat
  | .evtGetChannelConfigProperty _ _ => Except Int Int
  | .evtClose _ => Unit

@[reducible] def hostInterface : Interface := ⟨HostCall, HostReply⟩

/-- The exceptions that the program can raise. -/
inductive HostError where
  | osError (error : OsError)
  | valueError (error : ValueError)
  | indexError
  | csvError (error : Csv.CsvError)

abbrev HostProgram (Value : Type) : Type := Program hostInterface HostError Value

namespace Host

def ask (query : HostCall) : HostProgram (HostReply query) :=
  Program.call (I := hostInterface) query

/-- A call that gives something back and has nothing to tell. -/
def release (query : HostCall) : HostProgram Unit := do
  let _ ← ask query
  pure ()

/-- `_raise_last_error` -/
def raiseLastError {Value : Type} (operation : String) (code : Int) : HostProgram Value :=
  .raised (.osError ⟨some code, "[WinError " ++ toString code ++ "] " ++ operation ++ " failed"⟩)

def raiseOsError {Value : Type} (result : Except OsError Value) : HostProgram Value :=
  Program.ofExcept (result.mapError .osError)

/-- `except OSError` -/
def catchingOsError {Value : Type} (program : HostProgram Value)
    (handler : OsError → HostProgram Value) : HostProgram Value :=
  program.catching fun error =>
    match error with
    | .osError error => handler error
    | other => .raised other

end Host

section Rights

def tokenQuery : Nat := 0x0008

def tokenAdjustPrivileges : Nat := 0x0020

def sePrivilegeEnabled : Nat := 0x00000002

def errorNotAllAssigned : Int := 1300

def seSecurityName : String := "SeSecurityPrivilege"

def scManagerConnect : Nat := 0x0001

def serviceQueryStatus : Nat := 0x0004

/-- `winreg.KEY_READ` -/
def keyRead : Nat := 0x20019

def evtChannelConfigEnabled : Nat := 0

def auditpolCommand : List String := ["auditpol", "/get", "/category:*", "/r"]

/-- A call starts no command and asks for no right but to read. -/
def readsOnly : HostCall → Bool
  | .run _ => false
  | .openProcessToken _ => false
  | .adjustTokenPrivileges _ _ _ => false
  | .lookupPrivilegeValue name => name == seSecurityName
  | .openSCManager access => access == scManagerConnect
  | .openService _ _ access => access == serviceQueryStatus
  | .openKey _ access => access == keyRead
  | .evtGetChannelConfigProperty _ property => property == evtChannelConfigEnabled
  | _ => true

/-- The one right beyond reading: the process adjusts its own token, and enables a privilege
that it holds already. -/
def enablesPrivilege : HostCall → Bool
  | .openProcessToken access => access == tokenQuery ||| tokenAdjustPrivileges
  | .adjustTokenPrivileges _ _ attributes => attributes == sePrivilegeEnabled
  | _ => false

def startsCommand : HostCall → Bool
  | .run _ => true
  | _ => false

/-- What a run may call. Which commands it may start depends on what it has found. -/
def permittedCall (call : HostCall) : Bool :=
  readsOnly call || enablesPrivilege call || startsCommand call

/-- The calls of the native query of the audit policy. -/
def policyCall : HostCall → Bool
  | .openProcessToken _ => true
  | .lookupPrivilegeValue _ => true
  | .adjustTokenPrivileges _ _ _ => true
  | .closeHandle _ => true
  | .auditQuerySystemPolicy _ => true
  | .readAuditEntry _ _ => true
  | .auditFree _ => true
  | _ => false

end Rights

section Handles

/-- What the host hands out and wants back. -/
inductive HandleKind where
  | token
  | auditBuffer
  | service
  | registryKey
  | channelConfig
deriving DecidableEq, Repr

structure Handle where
  kind : HandleKind
  value : Nat
deriving DecidableEq, Repr

/-- A null pointer is not a buffer. -/
def acquiredHandle : Event hostInterface → Option Handle
  | ⟨.openProcessToken _, .ok token⟩ => some ⟨.token, token⟩
  | ⟨.auditQuerySystemPolicy _, .ok address⟩ =>
      if address = 0 then none else some ⟨.auditBuffer, address⟩
  | ⟨.openSCManager _, .ok manager⟩ => some ⟨.service, manager⟩
  | ⟨.openService _ _ _, .ok service⟩ => some ⟨.service, service⟩
  | ⟨.openKey _ _, .ok key⟩ => some ⟨.registryKey, key⟩
  | ⟨.evtOpenChannelConfig _, .ok config⟩ => some ⟨.channelConfig, config⟩
  | _ => none

def releasedHandle : Event hostInterface → Option Handle
  | ⟨.closeHandle handle, _⟩ => some ⟨.token, handle⟩
  | ⟨.auditFree address, _⟩ => some ⟨.auditBuffer, address⟩
  | ⟨.closeServiceHandle handle, _⟩ => some ⟨.service, handle⟩
  | ⟨.closeKey key, _⟩ => some ⟨.registryKey, key⟩
  | ⟨.evtClose config, _⟩ => some ⟨.channelConfig, config⟩
  | _ => none

def usedHandles : Event hostInterface → List Handle
  | ⟨.adjustTokenPrivileges token _ _, _⟩ => [⟨.token, token⟩]
  | ⟨.readAuditEntry address _, _⟩ => [⟨.auditBuffer, address⟩]
  | ⟨.openService manager _ _, _⟩ => [⟨.service, manager⟩]
  | ⟨.queryServiceStatusEx service, _⟩ => [⟨.service, service⟩]
  | ⟨.queryValueEx key _, _⟩ => [⟨.registryKey, key⟩]
  | ⟨.evtGetChannelConfigProperty config _, _⟩ => [⟨.channelConfig, config⟩]
  | _ => []

theorem released_not_acquired (event : Event hostInterface) (handle : Handle)
    (released : releasedHandle event = some handle) : acquiredHandle event = none := by
  obtain ⟨call, reply⟩ := event
  cases call <;> first | rfl | cases released

/-- Handles are closed in the opposite order of opening and used while they are open. -/
def handleDiscipline (permitted : HostCall → Bool) : Discipline hostInterface Handle :=
  ⟨permitted, acquiredHandle, releasedHandle, usedHandles, released_not_acquired⟩

end Handles

end Sigmascope
