import Sigmascope.Api.DefiniteVerdicts
import Sigmascope.Api.HostRefinement
import Sigmascope.Collect.HostReadings

/-!
Where a report comes from. The evaluation works on state that the run itself read, channel by
channel as the provider loop goes on, and each definite verdict stands on replies of the host
that are in the history of the same run.
-/

namespace Sigmascope.Host

set_option autoImplicit false

open Sigmascope.Library Sigmascope.Library.PyText

variable {facts : HostFacts} {history : History}

section Policy

/-- What the replies of a history say about the audit policy, from either source. -/
inductive PolicyRead (facts : HostFacts) (history : History) (subcategoryGuids : List String) :
    ParseResult → Prop where
  | native {states : List (String × String)}
      (read : NativeRead history subcategoryGuids ⟨states, none⟩) :
      PolicyRead facts history subcategoryGuids
        { determinacy := .effective, gates := nativeGates states }
  | report {parsed : ParseResult} (read : ReportRead facts history parsed) :
      PolicyRead facts history subcategoryGuids parsed
  | unread : PolicyRead facts history subcategoryGuids { determinacy := .unknown }

theorem native_policy_result_reads {requirements : List Requirement} {policy : ParseResult}
    {errors : List CollectionError}
    (traces : (nativePolicyResult facts requirements).Traces history (.ok (policy, errors))) :
    PolicyRead facts history (policyGuids requirements) policy := by
  obtain ⟨⟨states, error⟩, front, back, rfl, asked, further⟩ := Program.traces_bind_ok.mp traces
  have read := (collect_native_policy_reads asked).mono (front_inside front back)
  cases error with
  | none =>
      obtain ⟨_, same⟩ := further
      cases same
      exact .native read
  | some error =>
      obtain ⟨cli, middle, last, rfl, collected, further⟩ := Program.traces_bind_ok.mp further
      cases given : cli.parsed with
      | none =>
          rw [given] at further
          obtain ⟨_, same⟩ := further
          cases same
          exact .unread
      | some parsed =>
          rw [given] at further
          obtain ⟨_, same⟩ := further
          cases same
          have printed := (collect_cli_policy_reads collected given).mono (front_inside _ last)
          exact .report (printed.mono (back_inside front _))

end Policy

section Loops

/-- The dictionary holds what the channels answered. -/
def TableRead (history : History) (table : ChannelTable) : Prop :=
  ∀ name config, table.channels.get? name = some config → ChannelRead history name config

variable {events : History} (inside : events <:+: history)
include inside

theorem channel_reads {table next : ChannelTable} {name : String} {config : ChannelConfig}
    (traces : (channel facts table name).Traces events (.ok (config, next)))
    (read : TableRead history table) : TableRead history next := by
  unfold channel at traces
  cases found : table.channels.get? name with
  | some known =>
      rw [found] at traces
      obtain ⟨_, same⟩ := traces
      cases same
      exact read
  | none =>
      rw [found] at traces
      obtain ⟨answer, front, back, rfl, asked, _, same⟩ := Program.traces_bind_ok.mp traces
      cases same
      intro other known present
      rw [Dict.get_set] at present
      split at present
      · rename_i equal
        cases present
        rw [equal]
        exact (get_channel_config_reads asked).mono ((front_inside front back).trans inside)
      · exact read other known present

theorem windows_output_reads {inputs : WindowsInputs} {table next : ChannelTable}
    {provider : Provider} {output : Option ProviderResult}
    (traces : (windowsOutput facts inputs table provider).Traces events (.ok (output, next)))
    (read : TableRead history table) : TableRead history next := by
  cases provider with
  | windowsAudit audit =>
      obtain ⟨⟨config, after⟩, front, back, rfl, asked, _, same⟩ :=
        Program.traces_bind_ok.mp traces
      cases same
      exact channel_reads ((front_inside front back).trans inside) asked read
  | sysmon sysmon =>
      unfold windowsOutput at traces
      dsimp only at traces
      cases ready : sysmonReady inputs.sysmon inputs.parsed with
      | inl outcome =>
          rw [ready] at traces
          obtain ⟨_, same⟩ := traces
          cases same
          exact read
      | inr result =>
          rw [ready] at traces
          obtain ⟨⟨config, after⟩, front, back, rfl, asked, _, same⟩ :=
            Program.traces_bind_ok.mp traces
          cases same
          exact channel_reads ((front_inside front back).trans inside) asked read
  | auditd auditd =>
      obtain ⟨_, same⟩ := traces
      cases same
      exact read
  | unknownKind =>
      obtain ⟨_, same⟩ := traces
      cases same
      exact read

theorem windows_outputs_reads {inputs : WindowsInputs} {providers : List Provider}
    {table next : ChannelTable} {outputs : List ProviderResult}
    (traces : (windowsOutputs facts inputs table providers).Traces events (.ok (outputs, next)))
    (read : TableRead history table) : TableRead history next := by
  induction providers generalizing table outputs events with
  | nil =>
      obtain ⟨_, same⟩ := traces
      cases same
      exact read
  | cons provider providers induction =>
      obtain ⟨⟨output, between⟩, front, back, rfl, first, further⟩ :=
        Program.traces_bind_ok.mp traces
      obtain ⟨⟨rest, last⟩, middle, tail, rfl, remaining, _, same⟩ :=
        Program.traces_bind_ok.mp further
      cases same
      have after := windows_output_reads
        ((front_inside front _).trans inside) first read
      exact induction
        ((front_inside middle tail).trans ((back_inside front _).trans inside))
        remaining after

theorem windows_findings_reads {inputs : WindowsInputs} {requirements : List Requirement}
    {table next : ChannelTable} {findings : List Finding}
    (traces : (windowsFindings facts inputs table requirements).Traces events
      (.ok (findings, next)))
    (read : TableRead history table) : TableRead history next := by
  induction requirements generalizing table findings events with
  | nil =>
      obtain ⟨_, same⟩ := traces
      cases same
      exact read
  | cons requirement requirements induction =>
      obtain ⟨⟨outputs, between⟩, front, back, rfl, first, further⟩ :=
        Program.traces_bind_ok.mp traces
      obtain ⟨⟨rest, last⟩, middle, tail, rfl, remaining, _, same⟩ :=
        Program.traces_bind_ok.mp further
      cases same
      have after := windows_outputs_reads
        ((front_inside front _).trans inside) first read
      exact induction
        ((front_inside middle tail).trans ((back_inside front _).trans inside))
        remaining after

end Loops

section Windows

/-- The state that the provider loop works on, with one view of the channels. -/
def WindowsInputs.collection (inputs : WindowsInputs) (look : String → ChannelConfig) :
    WindowsCollection :=
  ⟨inputs.auditPolicy, [], inputs.registry, inputs.sysmon, fun _ => look⟩

/-- Every part of the state was read from the replies. -/
structure WindowsRead (facts : HostFacts) (history : History) (subcategoryGuids : List String)
    (inputs : WindowsInputs) (look : String → ChannelConfig) : Prop where
  auditPolicy : PolicyRead facts history subcategoryGuids inputs.auditPolicy
  registry : RegistryRead facts history inputs.registry
  sysmon : SysmonRead facts history inputs.sysmon
  parsed : parsedConfig facts.decodeOem inputs.sysmon = .ok inputs.parsed
  channels : ∀ name, ChannelRead history name (look name)

/-- The view of the channels that the loop asked for; nothing is known about the others. -/
def askedLook (table : ChannelTable) (name : String) : ChannelConfig :=
  (table.channels.get? name).getD ⟨none, some ⟨"windows.channel", "", name⟩⟩

theorem PolicyRead.mono {later : History} (inside : history <:+: later)
    {subcategoryGuids : List String} {policy : ParseResult}
    (read : PolicyRead facts history subcategoryGuids policy) :
    PolicyRead facts later subcategoryGuids policy := by
  cases read with
  | native read => exact .native (read.mono inside)
  | report read => exact .report (read.mono inside)
  | unread => exact .unread

theorem WindowsRead.mono {later : History} (inside : history <:+: later)
    {subcategoryGuids : List String} {inputs : WindowsInputs} {look : String → ChannelConfig}
    (read : WindowsRead facts history subcategoryGuids inputs look) :
    WindowsRead facts later subcategoryGuids inputs look where
  auditPolicy := read.auditPolicy.mono inside
  registry := read.registry.mono inside
  sysmon := read.sysmon.mono inside
  parsed := read.parsed
  channels name := (read.channels name).mono inside

/-- The findings of a run are judged on state that this run read. -/
theorem run_windows_reads {requirements : List Requirement} {result : RunResult}
    (traces : (runWindows facts requirements).Traces history (.ok result)) :
    ∃ inputs look, WindowsRead facts history (policyGuids requirements) inputs look ∧
      result.findings =
        requirements.map (judgedFinding (inputs.collection look) inputs.parsed look) := by
  obtain ⟨⟨auditPolicy, auditErrors⟩, first, rest, rfl, asked, further⟩ :=
    Program.traces_bind_ok.mp traces
  obtain ⟨registry, second, rest, rfl, valued, further⟩ := Program.traces_bind_ok.mp further
  obtain ⟨sysmon, third, rest, rfl, looked, further⟩ := Program.traces_bind_ok.mp further
  obtain ⟨parsed, nothing, rest, rfl, converted, further⟩ := Program.traces_bind_ok.mp further
  obtain ⟨⟨findings, last⟩, fourth, tail, rfl, judged, _, same⟩ :=
    Program.traces_bind_ok.mp further
  cases same
  let inputs : WindowsInputs := ⟨auditPolicy, registry, sysmon, parsed⟩
  let history := first ++ (second ++ (third ++ (nothing ++ (fourth ++ tail))))
  have behind : third ++ (nothing ++ (fourth ++ tail)) <:+: history :=
    (back_inside second _).trans (back_inside first _)
  have fourthInside : fourth <:+: history :=
    (front_inside fourth tail).trans ((back_inside nothing _).trans
      ((back_inside third _).trans behind))
  have table : TableRead history last := by
    apply windows_findings_reads fourthInside judged
    intro name config present
    cases present
  have sees : Sees (askedLook last) last := by
    intro name config present
    rw [askedLook, present, Option.getD_some]
  have shares : Shares inputs (inputs.collection (askedLook last)) (askedLook last) :=
    ⟨rfl, rfl, rfl, rfl⟩
  obtain ⟨_, _, refined⟩ := (windows_findings_refines shares judged sees).asked
  obtain ⟨sameFindings, _⟩ := refined ⟨Memo.empty, auditErrors ++ sysmon.errors⟩ ⟨rfl, rfl⟩
  refine ⟨inputs, askedLook last, ⟨?_, ?_, ?_, ?_, ?_⟩, ?_⟩
  · exact (native_policy_result_reads asked).mono (front_inside first _)
  · exact (collect_registry_gates_reads valued).mono
      ((front_inside second _).trans (back_inside first _))
  · exact (collect_sysmon_reads looked).mono ((front_inside third _).trans behind)
  · cases config : parsedConfig facts.decodeOem sysmon with
    | error error =>
        rw [config] at converted
        cases converted.2
    | ok other =>
        rw [config] at converted
        cases converted.2
        rfl
  · intro name
    unfold askedLook
    cases found : last.channels.get? name with
    | none => exact .failed _
    | some config => exact table name config found
  · have snapshot := @windows_findings_steady (inputs.collection (askedLook last)) parsed
      (askedLook last) rfl ⟨Memo.empty, auditErrors ++ sysmon.errors⟩ requirements
      (Memo.snapshot_empty _)
    exact sameFindings.symm.trans (windows_findings_judged snapshot).2

end Windows

end Sigmascope.Host
