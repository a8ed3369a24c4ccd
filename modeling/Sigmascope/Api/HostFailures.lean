import Sigmascope.Api.HostReadings
import Sigmascope.Collect.HostFailures

/-!
Why a run ends with an exception. On Linux only a host without a name does it. On Windows there
are six more causes, and each is a reply that the run got.
-/

namespace Sigmascope.Host

set_option autoImplicit false

open Sigmascope.Library Sigmascope.Library.PyText

variable {facts : HostFacts} {history : History} {error : HostError}

section Windows

theorem native_policy_result_raises {requirements : List Requirement} {guids : List Guid}
    (shaped : guidArray (policyGuids requirements) = .ok guids)
    (traces : (nativePolicyResult facts requirements).Traces history (.error error)) :
    Failure facts history error := by
  rcases Program.traces_bind_error.mp traces with asked | ⟨native, front, back, rfl, _, further⟩
  · exact collect_native_policy_raises shaped asked
  · rcases native with ⟨states, _ | refused⟩
    · cases further.2
    · rcases Program.traces_bind_error.mp further with collected | ⟨cli, _, _, _, _, last⟩
      · exact (collect_cli_policy_raises collected).mono (back_inside front back)
      · cases parsed : cli.parsed with
        | none =>
            rw [parsed] at last
            cases last.2
        | some report =>
            rw [parsed] at last
            cases last.2

theorem channel_raises {table : ChannelTable} {name : String}
    (traces : (channel facts table name).Traces history (.error error)) :
    Failure facts history error := by
  unfold channel at traces
  cases found : table.channels.get? name with
  | some known =>
      rw [found] at traces
      cases traces.2
  | none =>
      rw [found] at traces
      rcases Program.traces_bind_error.mp traces with asked | ⟨_, _, _, _, _, same⟩
      · exact get_channel_config_raises asked
      · cases same.2

theorem windows_output_raises {inputs : WindowsInputs} {table : ChannelTable}
    {provider : Provider}
    (traces : (windowsOutput facts inputs table provider).Traces history (.error error)) :
    Failure facts history error := by
  cases provider with
  | windowsAudit audit =>
      rcases Program.traces_bind_error.mp traces with asked | ⟨_, _, _, _, _, same⟩
      · exact channel_raises asked
      · cases same.2
  | sysmon sysmon =>
      unfold windowsOutput at traces
      dsimp only at traces
      cases ready : sysmonReady inputs.sysmon inputs.parsed with
      | inl outcome =>
          rw [ready] at traces
          cases traces.2
      | inr result =>
          rw [ready] at traces
          rcases Program.traces_bind_error.mp traces with asked | ⟨_, _, _, _, _, same⟩
          · exact channel_raises asked
          · cases same.2
  | auditd auditd => cases traces.2
  | unknownKind => cases traces.2

theorem windows_outputs_raises {inputs : WindowsInputs} {table : ChannelTable}
    {providers : List Provider}
    (traces : (windowsOutputs facts inputs table providers).Traces history (.error error)) :
    Failure facts history error := by
  induction providers generalizing table history with
  | nil => cases traces.2
  | cons provider providers induction =>
      rcases Program.traces_bind_error.mp traces with first | ⟨_, front, back, rfl, _, further⟩
      · exact windows_output_raises first
      · rcases Program.traces_bind_error.mp further with rest | ⟨_, _, _, _, _, same⟩
        · exact (induction rest).mono (back_inside front back)
        · cases same.2

theorem windows_findings_raises {inputs : WindowsInputs} {table : ChannelTable}
    {requirements : List Requirement}
    (traces : (windowsFindings facts inputs table requirements).Traces history (.error error)) :
    Failure facts history error := by
  induction requirements generalizing table history with
  | nil => cases traces.2
  | cons requirement requirements induction =>
      rcases Program.traces_bind_error.mp traces with first | ⟨_, front, back, rfl, _, further⟩
      · exact windows_outputs_raises first
      · rcases Program.traces_bind_error.mp further with rest | ⟨_, _, _, _, _, same⟩
        · exact (induction rest).mono (back_inside front back)
        · cases same.2

/-- A configuration that cannot be parsed was printed before. -/
theorem parsed_config_raises {sysmon : SysmonCollection} (read : SysmonRead facts history sysmon)
    {raised : ValueError} (refused : parsedConfig facts.decodeOem sysmon = .error raised) :
    Failure facts history (.valueError raised) := by
  unfold parsedConfig at refused
  cases config : sysmon.currentConfig with
  | none =>
      rw [config] at refused
      cases refused
  | some bytes =>
      rw [config] at refused
      cases text : parseSysmonCurrent "sysmon -c" (facts.decodeOem bytes) with
      | ok parsed =>
          simp only [text] at refused
          cases refused
      | error cause =>
          simp only [text] at refused
          cases refused
          exact .misspelled (read.config bytes config) text

theorem run_windows_raises {requirements : List Requirement} {guids : List Guid}
    (shaped : guidArray (policyGuids requirements) = .ok guids)
    (traces : (runWindows facts requirements).Traces history (.error error)) :
    Failure facts history error := by
  rcases Program.traces_bind_error.mp traces with asked | ⟨_, first, _, rfl, _, further⟩
  · exact native_policy_result_raises shaped asked
  · refine Failure.mono (back_inside first _) ?_
    rcases Program.traces_bind_error.mp further with valued | ⟨_, second, _, rfl, _, further⟩
    · exact (collect_registry_gates_never_raises valued).elim
    · refine Failure.mono (back_inside second _) ?_
      rcases Program.traces_bind_error.mp further with
        looked | ⟨sysmon, third, last, rfl, collected, further⟩
      · exact collect_sysmon_raises looked
      · rcases Program.traces_bind_error.mp further with converted | ⟨parsed, _, _, rfl, _, further⟩
        · obtain ⟨_, same⟩ := Program.traces_of_except.mp converted
          cases config : parsedConfig facts.decodeOem sysmon with
          | ok parsed =>
              rw [config] at same
              cases same
          | error raised =>
              rw [config] at same
              cases same
              exact parsed_config_raises
                ((collect_sysmon_reads collected).mono (front_inside third last)) config
        · rcases Program.traces_bind_error.mp further with judged | ⟨_, _, _, _, _, same⟩
          · exact (windows_findings_raises judged).mono
              ((back_inside _ _).trans (back_inside third _))
          · cases same.2

end Windows

section Runs

theorem run_linux_never_raises {requirements : List Requirement} {arch : String}
    (traces : (runLinux facts requirements arch).Traces history (.error error)) : False := by
  rcases Program.traces_bind_error.mp traces with collected | ⟨_, _, _, _, _, same⟩
  · exact collect_auditd_never_raises collected
  · cases same.2

theorem host_raises (traces : (host facts).Traces history (.error error)) :
    ∃ raised, error = .osError raised ∧ Replied history .gethostname (.error raised) := by
  obtain ⟨reply, rest, rfl, named⟩ := traces_ask.mp traces
  rcases Program.traces_bind_error.mp named with refused | ⟨_, _, _, _, _, same⟩
  · obtain ⟨_, raised, same, rfl⟩ := raise_os_error_raises refused
    subst same
    exact ⟨raised, rfl, replied_first⟩
  · cases same.2

theorem host_traces {identity : HostIdentity}
    (traces : (host facts).Traces history (.ok identity)) :
    identity.os = String.ofList (lower facts.system.toList) ∧ identity.arch = facts.machine := by
  obtain ⟨reply, rest, rfl, named⟩ := traces_ask.mp traces
  obtain ⟨_, _, _, _, _, _, same⟩ := Program.traces_bind_ok.mp named
  cases same
  exact ⟨rfl, rfl⟩

/-- The subcategories of the catalogue are well-formed. -/
theorem mapped_guids_shaped : ∃ guids, guidArray (policyGuids windowsMappings) = .ok guids := by
  have shaped : (guidArray (policyGuids windowsMappings)).isOk = true := by decide +kernel
  cases found : guidArray (policyGuids windowsMappings) with
  | ok guids => exact ⟨guids, rfl⟩
  | error raised =>
      rw [found] at shaped
      cases shaped

theorem run_system_raises {identity : HostIdentity}
    (traces : (runSystem facts identity).Traces history (.error error)) :
    Failure facts history error ∧ identity.os = "windows" := by
  unfold runSystem at traces
  split at traces
  · exact (run_linux_never_raises traces).elim
  · split at traces
    · rename_i windows
      obtain ⟨guids, shaped⟩ := mapped_guids_shaped
      have catalogue : mappingsByOs identity.os = windowsMappings := by
        rw [windows, mappingsByOs, if_pos rfl]
      rw [← catalogue] at shaped
      exact ⟨run_windows_raises shaped traces, windows⟩
    · cases traces.2

theorem demo_report_raises
    (traces : (demoReport facts).Traces history (.error error)) :
    ∃ raised, error = .osError raised ∧ Replied history .gethostname (.error raised) := by
  obtain ⟨now, rest, rfl, further⟩ := traces_ask.mp traces
  rcases Program.traces_bind_error.mp further with named | ⟨_, _, _, _, _, same⟩
  · obtain ⟨raised, same, reply⟩ := host_raises named
    exact ⟨raised, same, replied_later reply⟩
  · cases same.2

/-- The cause of an exception; the host without a name is the only one that is not about a
Windows run. -/
def Explained (facts : HostFacts) (history : History) (demo : Bool) (error : HostError) : Prop :=
  Failure facts history error ∧
    (demo = true ∨ String.ofList (lower facts.system.toList) ≠ "windows" →
      ∃ raised, error = .osError raised ∧ Replied history .gethostname (.error raised))

/-- The report is about the system and the machine of its host. -/
theorem run_host_traces {report : Report} (traces : (run facts false).Traces history (.ok report)) :
    report.host.os = String.ofList (lower facts.system.toList) ∧
      report.host.arch = facts.machine := by
  obtain ⟨identity, _, _, rfl, known, further⟩ := Program.traces_bind_ok.mp traces
  obtain ⟨_, _, _, rfl, _, last⟩ := Program.traces_bind_ok.mp further
  obtain ⟨_, _, _, _, same⟩ := traces_ask.mp last
  cases same
  exact host_traces known

theorem run_traces_raises {demo : Bool}
    (traces : (run facts demo).Traces history (.error error)) :
    Explained facts history demo error := by
  cases demo with
  | true =>
      obtain ⟨raised, rfl, reply⟩ := demo_report_raises traces
      exact ⟨.noName reply, fun _ => ⟨raised, rfl, reply⟩⟩
  | false =>
      rcases Program.traces_bind_error.mp traces with
        named | ⟨identity, front, back, rfl, known, further⟩
      · obtain ⟨raised, rfl, reply⟩ := host_raises named
        exact ⟨.noName reply, fun _ => ⟨raised, rfl, reply⟩⟩
      · rcases Program.traces_bind_error.mp further with collected | ⟨_, _, _, _, _, last⟩
        · obtain ⟨failure, windows⟩ := run_system_raises collected
          refine ⟨failure.mono (back_inside front back), ?_⟩
          intro other
          rcases other with impossible | other
          · cases impossible
          · rw [← (host_traces known).1] at other
            exact absurd windows other
        · obtain ⟨now, rest, _, _, same⟩ := traces_ask.mp last
          cases same

variable (facts)

/-- Every run that ends with an exception got a reply that explains it. -/
theorem run_failure_explained (demo : Bool) (environment : Program.Environment hostInterface)
    (failed : (Program.run environment [] (run facts demo)).1 = .error error) :
    Explained facts (Program.run environment [] (run facts demo)).2 demo error := by
  obtain ⟨events, history, traces⟩ := Program.run_traces environment [] (run facts demo)
  rw [failed] at traces
  rw [history, List.nil_append]
  exact run_traces_raises traces

/-- A host that cannot tell its name. -/
def namelessHost : Program.Environment hostInterface := fun past query =>
  match query with
  | .gethostname => .error ⟨some 1, "[Errno 1] Operation not permitted"⟩
  | other => bareHost past other

theorem run_failure_explained_nameless :
    Explained bareFacts (Program.run namelessHost [] (run bareFacts false)).2 false
      (.osError ⟨some 1, "[Errno 1] Operation not permitted"⟩) :=
  run_failure_explained bareFacts false namelessHost rfl

end Runs

end Sigmascope.Host
