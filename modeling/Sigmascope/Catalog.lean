import Sigmascope.Model

/-!
Requirements and the providers that can meet them. A provider of a kind that no
runner knows is kept in the catalogue and skipped at evaluation.
-/

namespace Sigmascope

set_option autoImplicit false

structure FieldGate where
  key : String
  explanation : String

structure WindowsAuditProvider where
  sourceId : String
  subcategoryGuid : String
  requiredStates : List String := []
  channel : String
  fieldGate : Option FieldGate := none
  necessaryButInsufficient : Option String := none

structure SysmonProvider where
  sourceId : String
  eventType : String
  channel : String

structure AuditdProvider where
  sourceId : String
  requirement : Option String

inductive Provider where
  | windowsAudit (provider : WindowsAuditProvider)
  | sysmon (provider : SysmonProvider)
  | auditd (provider : AuditdProvider)
  | unknownKind

structure Requirement where
  logsource : List (String × String)
  providers : List Provider
  references : List String

def auditctlReference : String := "https://man7.org/linux/man-pages/man8/auditctl.8.html"

def auditKernelReference : String :=
  "https://github.com/torvalds/linux/blob/v5.14/kernel/auditsc.c"

def auditRulesReference : String := "https://man7.org/linux/man-pages/man7/audit.rules.7.html"

def linuxProcessCreation : Requirement where
  logsource := [("category", "process_creation"), ("product", "linux"), ("service", "auditd")]
  providers := [.auditd ⟨"auditd", some "process_creation"⟩]
  references := [auditctlReference, auditKernelReference]

def linuxFileEvent : Requirement where
  logsource := [("category", "file_event"), ("product", "linux"), ("service", "auditd")]
  providers := [.auditd ⟨"auditd", some "file_watch"⟩]
  references := [auditRulesReference, auditctlReference, auditKernelReference]

def linuxMappings : List Requirement := [linuxProcessCreation, linuxFileEvent]

def eventlogMapping : String :=
  "https://github.com/nasbench/Eventlog_Compendium/blob/" ++
    "0157a6bef8764781830d64a8f5170eedb65dfe3c/" ++
    "data/audit_policy_category_to_event_mapping.json"

def sysmonReference : String := "https://learn.microsoft.com/en-us/sysinternals/downloads/sysmon"

def processCreationGuide : String :=
  "https://github.com/SigmaHQ/sigma/blob/" ++
    "2e8fd89f82d9104c1b30321a307254ddeea17de2/" ++
    "documentation/logsource-guides/windows/category/process_creation.md"

def windowsProcessCreation : Requirement where
  logsource := [("category", "process_creation"), ("product", "windows")]
  providers :=
    [.windowsAudit
        { sourceId := "windows_security"
          subcategoryGuid := "\x7b0CCE922B-69AE-11D9-BED3-505054503030\x7d"
          requiredStates := ["success", "both"]
          channel := "Security"
          fieldGate := some
            ⟨"windows.process_creation.include_command_line",
              "Security 4688 is generated, but command-line inclusion " ++ "is disabled."⟩ },
      .sysmon ⟨"sysmon", "ProcessCreate", "Microsoft-Windows-Sysmon/Operational"⟩]
  references := [processCreationGuide, eventlogMapping, sysmonReference]

def windowsNetworkConnection : Requirement where
  logsource := [("category", "network_connection"), ("product", "windows")]
  providers :=
    [.windowsAudit
        { sourceId := "windows_security"
          subcategoryGuid := "\x7b0CCE9226-69AE-11D9-BED3-505054503030\x7d"
          requiredStates := ["success", "both"]
          channel := "Security" },
      .sysmon ⟨"sysmon", "NetworkConnect", "Microsoft-Windows-Sysmon/Operational"⟩]
  references := [eventlogMapping, sysmonReference]

def windowsFileEvent : Requirement where
  logsource := [("category", "file_event"), ("product", "windows")]
  providers :=
    [.windowsAudit
        { sourceId := "windows_security"
          subcategoryGuid := "\x7b0CCE921D-69AE-11D9-BED3-505054503030\x7d"
          requiredStates := ["success", "both"]
          channel := "Security"
          necessaryButInsufficient := some
            ("Object Access File System auditing also requires an applicable " ++
              "SACL on each target object. The POC does not evaluate SACLs.") }]
  references := [eventlogMapping]

def windowsMappings : List Requirement :=
  [windowsProcessCreation, windowsNetworkConnection, windowsFileEvent]

end Sigmascope
