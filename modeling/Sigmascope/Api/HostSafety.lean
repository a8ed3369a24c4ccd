import Sigmascope.Api.HostRun
import Sigmascope.Collect.HostDiscipline
import Sigmascope.Collect.HostReadings

/-!
What a run does to the host, whatever the host answers: no handle stays open, no command is
started but those of the collectors, nothing is asked for but to read, and the security
privilege is enabled only after the policy query was denied without it.
-/

namespace Sigmascope.Host

set_option autoImplicit false

open Sigmascope.Library Sigmascope.Library.Discipline

variable (facts : HostFacts)

section Handles

theorem quiet_permitted (call : HostCall) (quiet : quietCall call = true) :
    permittedCall call = true := by
  rw [permittedCall, ← quietCall, quiet, Bool.true_or]

theorem command_permitted (command : List String) : permittedCall (.run command) = true := rfl

theorem native_policy_result_tidy (requirements : List Requirement) :
    Tidy permittedCall [] (nativePolicyResult facts requirements) := by
  apply balanced_bind (collect_native_policy_tidy quiet_permitted facts _)
  intro native
  obtain ⟨states, _ | error⟩ := native
  · exact balanced_pure _
  · apply balanced_bind (collect_cli_policy_tidy command_permitted facts)
    intro cli
    obtain ⟨_ | parsed, error⟩ := cli <;> exact balanced_pure _

section Channels

variable {facts} {permitted : HostCall → Bool} (granted : Grants permitted)
  (started : ∀ command, permitted (.run command) = true) (inputs : WindowsInputs)
include granted

theorem channel_tidy (table : ChannelTable) (name : String) :
    Tidy permitted [] (channel facts table name) := by
  unfold channel
  cases table.channels.get? name with
  | some config => exact balanced_pure _
  | none =>
      exact balanced_bind (get_channel_config_tidy granted facts name) fun _ => balanced_pure _

theorem windows_output_tidy (table : ChannelTable) (provider : Provider) :
    Tidy permitted [] (windowsOutput facts inputs table provider) := by
  cases provider with
  | windowsAudit audit =>
      exact balanced_bind (channel_tidy granted table audit.channel) fun _ => balanced_pure _
  | sysmon sysmon =>
      unfold windowsOutput
      cases sysmonReady inputs.sysmon inputs.parsed with
      | inl outcome => exact balanced_pure _
      | inr result =>
          exact balanced_bind (channel_tidy granted table sysmon.channel) fun _ => balanced_pure _
  | auditd auditd => exact balanced_pure _
  | unknownKind => exact balanced_pure _

theorem windows_outputs_tidy (providers : List Provider) (table : ChannelTable) :
    Tidy permitted [] (windowsOutputs facts inputs table providers) := by
  induction providers generalizing table with
  | nil => exact balanced_pure _
  | cons provider providers induction =>
      apply balanced_bind (windows_output_tidy granted inputs table provider)
      intro output
      exact balanced_bind (induction output.2) fun _ => balanced_pure _

theorem windows_findings_tidy (requirements : List Requirement) (table : ChannelTable) :
    Tidy permitted [] (windowsFindings facts inputs table requirements) := by
  induction requirements generalizing table with
  | nil => exact balanced_pure _
  | cons requirement requirements induction =>
      apply balanced_bind (windows_outputs_tidy granted inputs requirement.providers table)
      intro outputs
      exact balanced_bind (induction outputs.2) fun _ => balanced_pure _

theorem registry_gates_tidy : Tidy permitted [] (collectRegistryGates facts) := by
  unfold collectRegistryGates
  split
  · exact balanced_pure _
  · exact balanced_bind (read_value_tidy granted _ _) fun _ => balanced_pure _

theorem host_tidy : Tidy permitted [] (host facts) := by
  apply tidy_ask (granted _ rfl rfl) (fun _ => rfl) (fun _ => rfl) (fun _ => rfl)
  intro reply
  exact balanced_bind (balanced_of_except _) fun _ => balanced_pure _

include started

/-- The part of a Windows run behind the audit policy. -/
theorem windows_rest_tidy (requirements : List Requirement)
    (policy : ParseResult × List CollectionError) :
    Tidy permitted [] (do
      let registry ← collectRegistryGates facts
      let sysmon ← collectSysmon facts
      let parsed ← Program.ofExcept ((parsedConfig facts.decodeOem sysmon).mapError .valueError)
      let (findings, last) ← windowsFindings facts ⟨policy.1, registry, sysmon, parsed⟩
        ⟨Dict.empty, policy.2 ++ sysmon.errors⟩ requirements
      pure
        ({ findings := findings
           diagnostics := policy.1.diagnostics ++ registry.diagnostics ++
             parsed.toList.flatMap ParseResult.diagnostics
           errors := last.errors } : RunResult)) := by
  apply balanced_bind (registry_gates_tidy granted)
  intro registry
  apply balanced_bind (collect_sysmon_tidy granted started facts)
  intro sysmon
  apply balanced_bind (balanced_of_except _)
  intro parsed
  apply balanced_bind (windows_findings_tidy granted _ requirements _)
  exact fun _ => balanced_pure _

theorem run_linux_tidy (requirements : List Requirement) (arch : String) :
    Tidy permitted [] (runLinux facts requirements arch) :=
  balanced_bind (collect_auditd_tidy granted started facts) fun _ => balanced_pure _

end Channels

theorem run_windows_tidy (requirements : List Requirement) :
    Tidy permittedCall [] (runWindows facts requirements) :=
  balanced_bind (native_policy_result_tidy facts requirements)
    (windows_rest_tidy grants_permitted command_permitted requirements)

theorem run_tidy (demo : Bool) : Tidy permittedCall [] (run facts demo) := by
  cases demo with
  | true =>
      apply tidy_ask rfl (fun _ => rfl) (fun _ => rfl) (fun _ => rfl)
      intro now
      exact balanced_bind (host_tidy grants_permitted) fun _ => balanced_pure _
  | false =>
      apply balanced_bind (host_tidy grants_permitted)
      intro identity
      have system : Tidy permittedCall [] (runSystem facts identity) := by
        unfold runSystem
        split
        · exact run_linux_tidy grants_permitted command_permitted _ _
        · split
          · exact run_windows_tidy facts _
          · exact balanced_pure _
      apply balanced_bind system
      intro result
      apply tidy_ask rfl (fun _ => rfl) (fun _ => rfl) (fun _ => rfl)
      exact fun _ => balanced_pure _

end Handles

section Commands

/-- The commands that a run may start, by what it has found before. -/
inductive Startable (facts : HostFacts) (past : History) : List String → Prop where
  | auditpol : Startable facts past auditpolCommand
  | auditctl {executable argument : String} (located : Located past executable)
      (shows : argument = "-l" ∨ argument = "-s") : Startable facts past [executable, argument]
  | sysmon {executable : String} (found : SysmonFound facts past executable) :
      Startable facts past [executable, "-c"]

/-- A command is started only when it may be. -/
def StartsKnown (facts : HostFacts) (past : History) (event : Event hostInterface) : Prop :=
  ∀ command, event.call = .run command → Startable facts past command

variable {facts} {past events : History}

theorem grants_quiet : Grants quietCall := by
  intro call reads _
  rw [quietCall, reads, Bool.true_or]

/-- A program without commands. -/
theorem quiet_guarded {Value : Type} {program : HostProgram Value}
    (tidy : Tidy quietCall [] program) {result : Except HostError Value}
    (traces : program.Traces events result) :
    Program.Guarded (StartsKnown facts) past events := by
  apply Program.guarded_free
  intro event member before command same
  have quiet : quietCall event.call = true := balanced_traces tidy traces event member
  rw [same] at quiet
  cases quiet

theorem command_guarded {command : List String} {outcome : RunOutcome}
    (startable : Startable facts past command) :
    Program.Guarded (StartsKnown facts) past [⟨.run command, outcome⟩] := by
  apply Program.guarded_singleton
  intro other same
  cases same
  exact startable

theorem collect_cli_policy_guarded {result : Except HostError AuditpolCliCollection}
    (traces : (collectCliPolicy facts).Traces events result) :
    Program.Guarded (StartsKnown facts) past events := by
  unfold collectCliPolicy at traces
  split at traces
  · rw [traces.1]
    exact Program.guarded_nil
  · obtain ⟨outcome, rest, rfl, converted⟩ := traces_ask.mp traces
    rw [(Program.traces_of_except.mp converted).1]
    exact command_guarded .auditpol

theorem auditctl_guarded {executable argument : String} (located : Located past executable)
    (shows : argument = "-l" ∨ argument = "-s")
    {result : Except HostError (Option String × Option CollectionError)}
    (traces : (auditctl facts executable argument).Traces events result) :
    Program.Guarded (StartsKnown facts) past events := by
  obtain ⟨outcome, rest, rfl, rfl, _⟩ := traces_ask.mp traces
  exact command_guarded (.auditctl located shows)

/-- Both commands run what was located before them. -/
theorem collect_auditd_guarded {result : Except HostError AuditdCollection}
    (traces : (collectAuditd facts).Traces events result) :
    Program.Guarded (StartsKnown facts) past events := by
  refine Program.guarded_bind
    (fun _ _ => quiet_guarded (locate_auditctl_tidy grants_quiet)) ?_ traces
  intro located front back outcome looked further
  have found := (locate_auditctl_reads looked).1
  obtain ⟨_ | executable, conclusive⟩ := located
  · cases conclusive <;> rw [further.1] <;> exact Program.guarded_nil
  · have known := (found executable rfl).mono (back_inside past front)
    refine Program.guarded_bind (fun _ _ => auditctl_guarded known (Or.inl rfl)) ?_ further
    intro rules listing rest outcome _ remaining
    have still := known.mono (front_inside _ listing)
    refine Program.guarded_bind (fun _ _ => auditctl_guarded still (Or.inr rfl)) ?_ remaining
    intro status showing last outcome _ returned
    rw [returned.1]
    exact Program.guarded_nil

/-- The executable was found and looked at before it is run. -/
theorem collect_running_guarded {errors : List CollectionError} {name : String}
    (member : name ∈ serviceNames) {result : Except HostError SysmonCollection}
    (traces : (collectRunning facts errors name).Traces events result) :
    Program.Guarded (StartsKnown facts) past events := by
  refine Program.guarded_bind
    (fun _ _ => quiet_guarded (executable_paths_tidy grants_quiet facts name)) ?_ traces
  intro paths front back outcome listing further
  refine Program.guarded_bind
    (fun _ _ => quiet_guarded (first_file_tidy grants_quiet paths)) ?_ further
  intro found looking rest outcome probed remaining
  cases found with
  | none =>
      rw [remaining.1]
      exact Program.guarded_nil
  | some executable =>
      obtain ⟨_, last, rfl, rfl, _⟩ := traces_ask.mp remaining
      obtain ⟨listed, there⟩ := first_file_reads probed executable rfl
      have path := executable_paths_reads member listing executable listed
      apply command_guarded
      exact .sysmon ⟨(path.mono (back_inside past front)).mono (front_inside _ looking),
        there.mono (back_inside _ looking)⟩

theorem collect_sysmon_guarded {result : Except HostError SysmonCollection}
    (traces : (collectSysmon facts).Traces events result) :
    Program.Guarded (StartsKnown facts) past events := by
  unfold collectSysmon at traces
  split at traces
  · rw [traces.1]
    exact Program.guarded_nil
  · rename_i windows
    refine Program.guarded_bind
      (fun _ _ => quiet_guarded (find_service_tidy grants_quiet facts _)) ?_ traces
    intro found front back outcome searched further
    obtain ⟨errors, _ | ⟨name, running⟩⟩ := found
    · dsimp only at further
      split at further <;> rw [further.1] <;> exact Program.guarded_nil
    · dsimp only at further
      split at further
      · rw [further.1]
        exact Program.guarded_nil
      · rename_i active
        rw [not_not] at active
        obtain ⟨_, somewhere⟩ := find_service_reads (not_not.mp windows) searched
        exact collect_running_guarded (somewhere name true (by rw [active])).1 further

theorem native_policy_result_guarded {requirements : List Requirement}
    {result : Except HostError (ParseResult × List CollectionError)}
    (traces : (nativePolicyResult facts requirements).Traces events result) :
    Program.Guarded (StartsKnown facts) past events := by
  refine Program.guarded_bind
    (fun _ _ => quiet_guarded (collect_native_policy_tidy (fun _ quiet => quiet) facts _)) ?_ traces
  intro native front back outcome _ further
  obtain ⟨states, _ | error⟩ := native
  · rw [further.1]
    exact Program.guarded_nil
  · refine Program.guarded_bind (fun _ _ => collect_cli_policy_guarded) ?_ further
    intro cli _ last outcome _ returned
    obtain ⟨_ | parsed, error⟩ := cli <;> rw [returned.1] <;> exact Program.guarded_nil

theorem run_windows_guarded {requirements : List Requirement} {result : Except HostError RunResult}
    (traces : (runWindows facts requirements).Traces events result) :
    Program.Guarded (StartsKnown facts) past events := by
  refine Program.guarded_bind (fun _ _ => native_policy_result_guarded) ?_ traces
  intro policy _ _ outcome _ further
  refine Program.guarded_bind
    (fun _ _ => quiet_guarded (registry_gates_tidy grants_quiet)) ?_ further
  intro registry _ _ outcome _ further
  refine Program.guarded_bind (fun _ _ => collect_sysmon_guarded) ?_ further
  intro sysmon _ _ outcome _ further
  refine quiet_guarded ?_ further
  apply balanced_bind (balanced_of_except _)
  intro parsed
  exact balanced_bind (windows_findings_tidy grants_quiet _ _ _) fun _ => balanced_pure _

theorem run_guarded {demo : Bool} {result : Except HostError Report}
    (traces : (run facts demo).Traces events result) :
    Program.Guarded (StartsKnown facts) past events := by
  cases demo with
  | true =>
      refine quiet_guarded ?_ traces
      apply tidy_ask rfl (fun _ => rfl) (fun _ => rfl) (fun _ => rfl)
      intro now
      exact balanced_bind (host_tidy grants_quiet) fun _ => balanced_pure _
  | false =>
      refine Program.guarded_bind
        (fun _ _ => quiet_guarded (host_tidy grants_quiet)) ?_ traces
      intro identity _ _ outcome _ further
      refine Program.guarded_bind ?_ ?_ further
      · intro front collected system
        unfold runSystem at system
        split at system
        · refine Program.guarded_bind (fun _ _ => collect_auditd_guarded) ?_ system
          intro collection _ last outcome _ returned
          rw [returned.1]
          exact Program.guarded_nil
        · split at system
          · exact run_windows_guarded system
          · rw [system.1]
            exact Program.guarded_nil
      · intro collected _ back outcome _ last
        refine quiet_guarded ?_ last
        apply tidy_ask rfl (fun _ => rfl) (fun _ => rfl) (fun _ => rfl)
        exact fun _ => balanced_pure _

end Commands

section Privilege

/-- How far the query of the audit policy got. -/
inductive PolicyPhase where
  | untried
  | denied (guids : List Guid)
  | opened (guids : List Guid) (token : Nat) (luid : Option Nat)
  | adjusted (guids : List Guid) (token : Nat)
  | failed (token : Nat)
  | granted (guids : List Guid)
  | settled
deriving DecidableEq

/-- The calls of the policy query in the order that is allowed. Behind a query that was denied
the token is opened, the privilege is looked up and enabled on this token, and the token is
closed; then the query is made once more, for the same subcategories. -/
def policyStep (phase : PolicyPhase) : Event hostInterface → Option PolicyPhase
  | ⟨.auditQuerySystemPolicy guids, reply⟩ =>
      match phase, reply with
      | .untried, .error code =>
          if code = errorAccessDenied then some (.denied guids) else some .settled
      | .untried, .ok _ => some .settled
      | .granted asked, _ => if guids = asked then some .settled else none
      | _, _ => none
  | ⟨.openProcessToken access, reply⟩ =>
      if access = tokenQuery ||| tokenAdjustPrivileges then
        match phase, reply with
        | .denied guids, .ok token => some (.opened guids token none)
        | .denied _, .error _ => some .settled
        | _, _ => none
      else none
  | ⟨.lookupPrivilegeValue name, reply⟩ =>
      if name = seSecurityName then
        match phase, reply with
        | .opened guids token none, .ok luid => some (.opened guids token (some luid))
        | .opened _ token none, .error _ => some (.failed token)
        | _, _ => none
      else none
  | ⟨.adjustTokenPrivileges token luid attributes, reply⟩ =>
      match phase with
      | .opened guids opened (some found) =>
          if token = opened ∧ luid = found ∧ attributes = sePrivilegeEnabled then
            match reply with
            | .ok lastError =>
                if lastError = errorNotAllAssigned then some (.failed token)
                else some (.adjusted guids token)
            | .error _ => some (.failed token)
          else none
      | _ => none
  | ⟨.closeHandle handle, _⟩ =>
      match phase with
      | .adjusted guids token => if handle = token then some (.granted guids) else none
      | .failed token => if handle = token then some .settled else none
      | _ => none
  | _ => some phase

/-- The policy is asked for at the start, and again behind the privilege. -/
theorem policy_step_query {phase after : PolicyPhase} {guids : List Guid}
    {reply : Except Int Nat}
    (step : policyStep phase ⟨.auditQuerySystemPolicy guids, reply⟩ = some after) :
    phase = .untried ∧ (after = .denied guids ∨ after = .settled) ∨
      phase = .granted guids ∧ after = .settled := by
  unfold policyStep at step
  dsimp only at step
  split at step
  · split at step <;> cases step
    · exact Or.inl ⟨rfl, Or.inl rfl⟩
    · exact Or.inl ⟨rfl, Or.inr rfl⟩
  · cases step
    exact Or.inl ⟨rfl, Or.inr rfl⟩
  · split at step <;> cases step
    rename_i same
    exact Or.inr ⟨by rw [same], rfl⟩
  · cases step

/-- The token is opened behind a denied query. -/
theorem policy_step_opening {phase after : PolicyPhase} {access : Nat} {reply : Except Int Nat}
    (step : policyStep phase ⟨.openProcessToken access, reply⟩ = some after) :
    access = tokenQuery ||| tokenAdjustPrivileges ∧ ∃ guids, phase = .denied guids ∧
      (after = .settled ∨ ∃ token, reply = .ok token ∧ after = .opened guids token none) := by
  unfold policyStep at step
  dsimp only at step
  split at step
  · rename_i asked
    refine ⟨asked, ?_⟩
    split at step <;> cases step
    · exact ⟨_, rfl, Or.inr ⟨_, rfl, rfl⟩⟩
    · exact ⟨_, rfl, Or.inl rfl⟩
  · cases step

/-- The privilege is looked up by its name, for the open token. -/
theorem policy_step_lookup {phase after : PolicyPhase} {name : String} {reply : Except Int Nat}
    (step : policyStep phase ⟨.lookupPrivilegeValue name, reply⟩ = some after) :
    name = seSecurityName ∧ ∃ guids token, phase = .opened guids token none ∧
      (after = .failed token ∨
        ∃ luid, reply = .ok luid ∧ after = .opened guids token (some luid)) := by
  unfold policyStep at step
  dsimp only at step
  split at step
  · rename_i named
    refine ⟨named, ?_⟩
    split at step <;> cases step
    · exact ⟨_, _, rfl, Or.inr ⟨_, rfl, rfl⟩⟩
    · exact ⟨_, _, rfl, Or.inl rfl⟩
  · cases step

/-- The privilege that is enabled is the one that was looked up. -/
theorem policy_step_adjustment {phase after : PolicyPhase} {token luid attributes : Nat}
    {reply : Except Int Int}
    (step : policyStep phase ⟨.adjustTokenPrivileges token luid attributes, reply⟩ = some after) :
    attributes = sePrivilegeEnabled ∧ ∃ guids, phase = .opened guids token (some luid) ∧
      (after = .failed token ∨ after = .adjusted guids token) := by
  unfold policyStep at step
  dsimp only at step
  split at step
  · split at step
    · rename_i same
      obtain ⟨rfl, rfl, enabled⟩ := same
      refine ⟨enabled, _, rfl, ?_⟩
      split at step
      · split at step <;> cases step
        · exact Or.inl rfl
        · exact Or.inr rfl
      · cases step
        exact Or.inl rfl
    · cases step
  · cases step

/-- The token is closed behind the adjustment, or behind what has failed before it. -/
theorem policy_step_close {phase after : PolicyPhase} {handle : Nat} {reply : Unit}
    (step : policyStep phase ⟨.closeHandle handle, reply⟩ = some after) :
    (∃ guids, phase = .adjusted guids handle ∧ after = .granted guids) ∨
      phase = .failed handle ∧ after = .settled := by
  unfold policyStep at step
  dsimp only at step
  split at step
  · split at step <;> cases step
    rename_i same
    exact Or.inl ⟨_, by rw [same], rfl⟩
  · split at step <;> cases step
    rename_i same
    exact Or.inr ⟨by rw [same], rfl⟩
  · cases step

/-- The query is over, or was never made. -/
def PolicyPhase.Ended (phase : PolicyPhase) : Prop := phase = .untried ∨ phase = .settled

/-- The calls that do not belong to the policy query. -/
def unprivileged (call : HostCall) : Bool := permittedCall call && !policyCall call

theorem grants_unprivileged : Grants unprivileged := by
  intro call reads other
  rw [unprivileged, grants_permitted call reads other, other]
  rfl

theorem command_unprivileged (command : List String) : unprivileged (.run command) = true := rfl

theorem policy_step_unprivileged (phase : PolicyPhase) (event : Event hostInterface)
    (other : unprivileged event.call = true) : policyStep phase event = some phase := by
  obtain ⟨call, reply⟩ := event
  rw [unprivileged, Bool.and_eq_true, Bool.not_eq_true'] at other
  cases call <;> first | rfl | cases other.2

theorem unseen {Value : Type} {program : HostProgram Value}
    (tidy : Tidy unprivileged [] program) (phase : PolicyPhase) :
    program.Meets policyStep phase fun _ after => after = phase :=
  meets_unseen policy_step_unprivileged (tidy [] (List.Subset.refl _)) phase

/-- A program that keeps to the order, and leaves nothing of the policy query undone. -/
abbrev KeepsOrder {Value : Type} (program : HostProgram Value) (phase : PolicyPhase) : Prop :=
  program.Meets policyStep phase fun _ after => after.Ended

theorem keeps_order_bind {Value Result : Type} {program : HostProgram Value}
    {next : Value → HostProgram Result} {phase : PolicyPhase} (first : KeepsOrder program phase)
    (rest : ∀ value after, after.Ended → KeepsOrder (next value) after) :
    KeepsOrder (program >>= next) phase := by
  rw [KeepsOrder, Program.meets_bind]
  apply first.mono
  rintro (error | value) after ended
  · exact ended
  · exact rest value after ended

theorem unseen_keeps_order {Value : Type} {program : HostProgram Value}
    (tidy : Tidy unprivileged [] program) {phase : PolicyPhase} (ended : phase.Ended) :
    KeepsOrder program phase :=
  (unseen tidy phase).mono fun _ _ same => same ▸ ended

/-- The entries of the buffer are no step of the query. -/
theorem read_entries_meets {address : Nat} (indices : List Nat) {phase : PolicyPhase}
    {post : Except HostError (List AuditPolicyInformation) → PolicyPhase → Prop}
    (read : ∀ entries, post (.ok entries) phase) :
    (readEntries address indices).Meets policyStep phase post := by
  induction indices generalizing post with
  | nil => exact read []
  | cons index indices induction =>
      intro entry
      refine ⟨phase, rfl, ?_⟩
      change (readEntries address indices >>= _).Meets policyStep phase post
      rw [Program.meets_bind]
      exact induction fun entries => read (entry :: entries)

/-- The reply of the policy query decides the phase; what follows it is the buffer only. -/
theorem query_once_meets {guids : List Guid} {phase : PolicyPhase}
    {post : Except HostError (Dict String String) → PolicyPhase → Prop}
    (failed : ∀ code, ∃ after,
      policyStep phase ⟨.auditQuerySystemPolicy guids, .error code⟩ = some after ∧
        ∀ error, error.code = some code → post (.error (.osError error)) after)
    (answered : ∀ address, ∃ after,
      policyStep phase ⟨.auditQuerySystemPolicy guids, .ok address⟩ = some after ∧
        (∀ states, post (.ok states) after) ∧
        ∀ error, post (.error (.valueError error)) after) :
    (queryOnce guids).Meets policyStep phase post := by
  intro reply
  cases reply with
  | error code =>
      obtain ⟨after, step, reached⟩ := failed code
      exact ⟨after, step, reached _ rfl⟩
  | ok address =>
      obtain ⟨after, step, read, refused⟩ := answered address
      refine ⟨after, step, ?_⟩
      have buffered : ∀ after post, (∀ states, post (.ok states) after) →
          (∀ error, post (.error (.valueError error)) after) →
          (readBuffer address guids.length).Meets policyStep after post := by
        intro after post read refused
        unfold readBuffer
        split
        · exact refused _
        · rw [Program.meets_bind]
          exact read_entries_meets _ fun entries => read _
      change (if address = 0 then _ else _ : HostProgram (Dict String String)).Meets
        policyStep after post
      split
      · exact buffered after post read refused
      · apply Program.meets_ensuring
        apply buffered
        · exact fun states reply => ⟨after, rfl, read states⟩
        · exact fun error reply => ⟨after, rfl, refused error⟩

def behindFirst (guids : List Guid) :
    Except HostError (Option (Dict String String)) → PolicyPhase
  | .ok none => .denied guids
  | _ => .settled

def behindEnabling (guids : List Guid) : Except HostError Unit → PolicyPhase
  | .ok _ => .granted guids
  | .error _ => .settled

/-- Behind the first query nothing more is allowed, but to ask for the privilege when it was
denied. -/
theorem first_query_phase (guids : List Guid) :
    (firstQuery guids).Meets policyStep .untried fun result after =>
      after = behindFirst guids result := by
  apply Program.meets_catching
  change (queryOnce guids >>= fun states => pure (some states)).Meets policyStep .untried _
  rw [Program.meets_bind]
  apply query_once_meets
  · intro code
    by_cases denied : code = errorAccessDenied
    · refine ⟨.denied guids, if_pos denied, ?_⟩
      intro error coded
      have same : ¬error.code ≠ some errorAccessDenied := by rw [coded, denied, not_not]
      change (if error.code ≠ some errorAccessDenied then _ else _ :
        HostProgram (Option (Dict String String))).Meets policyStep (.denied guids) _
      rw [if_neg same]
      exact rfl
    · refine ⟨.settled, if_neg denied, ?_⟩
      intro error coded
      have other : error.code ≠ some errorAccessDenied := by
        rw [coded]
        exact fun given => denied (Option.some.inj given)
      change (if error.code ≠ some errorAccessDenied then _ else _ :
        HostProgram (Option (Dict String String))).Meets policyStep .settled _
      rw [if_pos other]
      exact rfl
  · exact fun address => ⟨.settled, rfl, fun states => rfl,
      fun error => rfl⟩

/-- The second query is free only behind an adjustment that has worked, and behind the closing of
the token. -/
theorem enable_privilege_phase (guids : List Guid) :
    enableSecurityPrivilege.Meets policyStep (.denied guids) fun result after =>
      after = behindEnabling guids result := by
  have closing : ∀ (token : Nat) (phase after : PolicyPhase) (result : Except HostError Unit)
      {post : Except HostError Unit → PolicyPhase → Prop},
      policyStep phase ⟨.closeHandle token, ()⟩ = some after → post result after →
      (release (.closeHandle token) >>= fun _ => Program.ofExcept result).Meets policyStep phase
        post := by
    intro token phase after result post step reached reply
    refine ⟨after, step, ?_⟩
    cases result <;> exact reached
  intro opened
  cases opened with
  | error code => exact ⟨.settled, rfl, rfl⟩
  | ok token =>
      refine ⟨.opened guids token none, rfl, ?_⟩
      have refused : policyStep (.failed token) ⟨.closeHandle token, ()⟩ = some .settled :=
        if_pos rfl
      apply Program.meets_ensuring
      intro found
      cases found with
      | error code =>
          exact ⟨.failed token, rfl,
            closing token _ .settled (.error _) refused (rfl)⟩
      | ok luid =>
          refine ⟨.opened guids token (some luid), rfl, ?_⟩
          intro adjusted
          cases adjusted with
          | error code =>
              exact ⟨.failed token, if_pos ⟨rfl, rfl, rfl⟩,
                closing token _ .settled (.error _) refused (rfl)⟩
          | ok lastError =>
              by_cases missing : lastError = errorNotAllAssigned
              · refine ⟨.failed token, (if_pos ⟨rfl, rfl, rfl⟩).trans (if_pos missing), ?_⟩
                change (if lastError = errorNotAllAssigned then _ else _ :
                  HostProgram Unit).Meets policyStep (.failed token) _
                rw [if_pos missing]
                exact closing token _ .settled (.error _) refused (rfl)
              · refine ⟨.adjusted guids token, (if_pos ⟨rfl, rfl, rfl⟩).trans (if_neg missing), ?_⟩
                change (if lastError = errorNotAllAssigned then _ else _ :
                  HostProgram Unit).Meets policyStep (.adjusted guids token) _
                rw [if_neg missing]
                exact closing token _ (.granted guids) (.ok ()) (if_pos rfl) (rfl)

theorem second_query_phase (guids : List Guid) :
    KeepsOrder (queryOnce guids) (.granted guids) := by
  apply query_once_meets
  · exact fun code => ⟨.settled, if_pos rfl, fun _ _ => Or.inr rfl⟩
  · exact fun address => ⟨.settled, if_pos rfl, fun _ => Or.inr rfl, fun _ => Or.inr rfl⟩

theorem query_system_policy_order (subcategoryGuids : List String) :
    KeepsOrder (querySystemPolicy facts subcategoryGuids) .untried := by
  unfold querySystemPolicy
  split
  · exact Or.inl rfl
  · rw [KeepsOrder, Program.meets_bind]
    apply (unseen (libraries_tidy grants_unprivileged facts) .untried).mono
    rintro (error | _) after same
    · exact Or.inl same
    · cases same
      cases guidArray subcategoryGuids with
      | error error => exact Or.inl rfl
      | ok guids =>
          change (firstQuery guids >>= _).Meets policyStep .untried _
          rw [Program.meets_bind]
          apply (first_query_phase guids).mono
          rintro (error | _ | states) after reached
          · exact Or.inr reached
          · cases reached
            change (enableSecurityPrivilege >>= fun _ => queryOnce guids).Meets policyStep _ _
            rw [Program.meets_bind]
            apply (enable_privilege_phase guids).mono
            rintro (error | _) after enabled
            · exact Or.inr enabled
            · cases enabled
              exact second_query_phase guids
          · exact Or.inr reached

theorem collect_native_policy_order (subcategoryGuids : List String) :
    KeepsOrder (collectNativePolicy facts subcategoryGuids) .untried := by
  apply Program.meets_catching
  apply (keeps_order_bind (query_system_policy_order facts subcategoryGuids) _).mono
  · rintro (error | policy) after ended
    · cases error <;> exact ended
    · exact ended
  · exact fun _ _ ended => ended

theorem run_windows_order (requirements : List Requirement) :
    KeepsOrder (runWindows facts requirements) .untried := by
  apply keeps_order_bind
  · apply keeps_order_bind (collect_native_policy_order facts _)
    intro native phase ended
    obtain ⟨states, _ | error⟩ := native
    · exact ended
    · apply keeps_order_bind (unseen_keeps_order
        (collect_cli_policy_tidy command_unprivileged facts) ended)
      intro cli phase ended
      obtain ⟨_ | parsed, error⟩ := cli <;> exact ended
  · intro policy phase ended
    exact unseen_keeps_order
      (windows_rest_tidy grants_unprivileged command_unprivileged requirements policy) ended

theorem run_order (demo : Bool) : KeepsOrder (run facts demo) .untried := by
  cases demo with
  | true =>
      intro now
      refine ⟨.untried, rfl, ?_⟩
      apply keeps_order_bind (unseen_keeps_order (host_tidy grants_unprivileged) (Or.inl rfl))
      exact fun _ _ ended => ended
  | false =>
      change (host facts >>= _).Meets policyStep .untried _
      rw [Program.meets_bind]
      apply (unseen (host_tidy grants_unprivileged) .untried).mono
      rintro (error | identity) after same
      · exact Or.inl same
      · cases same
        apply keeps_order_bind
        · unfold runSystem
          split
          · exact unseen_keeps_order
              (run_linux_tidy grants_unprivileged command_unprivileged _ _) (Or.inl rfl)
          · split
            · exact run_windows_order facts _
            · exact Or.inl rfl
        · exact fun result phase ended now => ⟨phase, rfl, ended⟩

def isPolicyQuery (event : Event hostInterface) : Bool :=
  match event.call with
  | .auditQuerySystemPolicy _ => true
  | _ => false

def isOpening (event : Event hostInterface) : Bool :=
  match event.call with
  | .openProcessToken _ => true
  | _ => false

def isAdjustment (event : Event hostInterface) : Bool :=
  match event.call with
  | .adjustTokenPrivileges _ _ _ => true
  | _ => false

/-- How many queries, openings of the token and adjustments lie behind a phase. -/
def PhaseCounts : PolicyPhase → Nat → Nat → Nat → Prop
  | .untried, queries, openings, adjustments => queries = 0 ∧ openings = 0 ∧ adjustments = 0
  | .denied _, queries, openings, adjustments => queries = 1 ∧ openings = 0 ∧ adjustments = 0
  | .opened _ _ _, queries, openings, adjustments => queries = 1 ∧ openings = 1 ∧ adjustments = 0
  | .adjusted _ _, queries, openings, adjustments => queries = 1 ∧ openings = 1 ∧ adjustments = 1
  | .failed _, queries, openings, adjustments => queries = 1 ∧ openings = 1 ∧ adjustments ≤ 1
  | .granted _, queries, openings, adjustments => queries = 1 ∧ openings = 1 ∧ adjustments = 1
  | .settled, queries, openings, adjustments => queries ≤ 2 ∧ openings ≤ 1 ∧ adjustments ≤ 1

theorem phase_counts_bound {phase : PolicyPhase} {queries openings adjustments : Nat}
    (counts : PhaseCounts phase queries openings adjustments) :
    queries ≤ 2 ∧ openings ≤ 1 ∧ adjustments ≤ 1 := by
  cases phase <;> simp only [PhaseCounts] at counts <;> omega

theorem policy_step_counts {phase after : PolicyPhase} {event : Event hostInterface}
    {queries openings adjustments : Nat} (step : policyStep phase event = some after)
    (counts : PhaseCounts phase queries openings adjustments) :
    PhaseCounts after (queries + (isPolicyQuery event).toNat)
      (openings + (isOpening event).toNat) (adjustments + (isAdjustment event).toNat) := by
  obtain ⟨call, reply⟩ := event
  cases call with
  | auditQuerySystemPolicy guids =>
      obtain ⟨rfl, rfl | rfl⟩ | ⟨rfl, rfl⟩ := policy_step_query step <;>
        obtain ⟨rfl, rfl, rfl⟩ := counts
      · exact ⟨rfl, rfl, rfl⟩
      · exact ⟨Nat.le_succ 1, Nat.zero_le 1, Nat.zero_le 1⟩
      · exact ⟨Nat.le_refl 2, Nat.le_refl 1, Nat.le_refl 1⟩
  | openProcessToken access =>
      obtain ⟨_, asked, rfl, rfl | ⟨token, _, rfl⟩⟩ := policy_step_opening step <;>
        obtain ⟨rfl, rfl, rfl⟩ := counts
      · exact ⟨Nat.le_succ 1, Nat.le_refl 1, Nat.zero_le 1⟩
      · exact ⟨rfl, rfl, rfl⟩
  | lookupPrivilegeValue name =>
      obtain ⟨_, asked, token, rfl, rfl | ⟨luid, _, rfl⟩⟩ := policy_step_lookup step <;>
        obtain ⟨rfl, rfl, rfl⟩ := counts
      · exact ⟨rfl, rfl, Nat.zero_le 1⟩
      · exact ⟨rfl, rfl, rfl⟩
  | adjustTokenPrivileges token luid attributes =>
      obtain ⟨_, asked, rfl, rfl | rfl⟩ := policy_step_adjustment step <;>
        obtain ⟨rfl, rfl, rfl⟩ := counts
      · exact ⟨rfl, rfl, Nat.le_refl 1⟩
      · exact ⟨rfl, rfl, rfl⟩
  | closeHandle handle =>
      obtain ⟨asked, rfl, rfl⟩ | ⟨rfl, rfl⟩ := policy_step_close step
      · exact counts
      · obtain ⟨rfl, rfl, fewer⟩ := counts
        exact ⟨Nat.le_succ 1, Nat.le_refl 1, fewer⟩
  | _ =>
      cases step
      exact counts

theorem follow_counts {history : List (Event hostInterface)} {phase : PolicyPhase}
    (followed : Program.follow policyStep .untried history = some phase) :
    PhaseCounts phase (history.countP isPolicyQuery) (history.countP isOpening)
      (history.countP isAdjustment) := by
  refine Program.follow_invariant
    (fun past phase => PhaseCounts phase (past.countP isPolicyQuery) (past.countP isOpening)
      (past.countP isAdjustment)) ?_ ?_ followed
  · exact ⟨rfl, rfl, rfl⟩
  intro past event before after counts step
  have single : ∀ check : Event hostInterface → Bool,
      (past ++ [event]).countP check = past.countP check + (check event).toNat := by
    intro check
    rw [List.countP_append, List.countP_singleton]
    cases check event <;> rfl
  rw [single, single, single]
  exact policy_step_counts step counts

/-- The LUID is the one that the host has given for the security privilege. -/
def IsSecurityLuid (past : History) (luid : Nat) : Prop :=
  ⟨.lookupPrivilegeValue seSecurityName, .ok luid⟩ ∈ past

/-- The LUID of a phase is that of the security privilege. -/
def LookedUp (past : History) : PolicyPhase → Prop
  | .opened _ _ (some luid) => IsSecurityLuid past luid
  | _ => True

theorem LookedUp.snoc {past : History} {phase : PolicyPhase} (found : LookedUp past phase)
    (event : Event hostInterface) : LookedUp (past ++ [event]) phase := by
  cases phase with
  | opened guids token luid =>
      cases luid with
      | none => trivial
      | some luid => exact List.mem_append_left _ found
  | _ => trivial

theorem policy_step_looked_up {past : History} {phase after : PolicyPhase}
    {event : Event hostInterface} (found : LookedUp past phase)
    (step : policyStep phase event = some after) : LookedUp (past ++ [event]) after := by
  obtain ⟨call, reply⟩ := event
  cases call with
  | auditQuerySystemPolicy guids =>
      obtain ⟨_, rfl | rfl⟩ | ⟨_, rfl⟩ := policy_step_query step <;> trivial
  | openProcessToken access =>
      obtain ⟨_, guids, _, rfl | ⟨token, _, rfl⟩⟩ := policy_step_opening step <;> trivial
  | lookupPrivilegeValue name =>
      obtain ⟨rfl, guids, token, _, rfl | ⟨luid, rfl, rfl⟩⟩ := policy_step_lookup step
      · trivial
      · exact List.mem_append_right _ List.mem_cons_self
  | adjustTokenPrivileges token luid attributes =>
      obtain ⟨_, guids, _, rfl | rfl⟩ := policy_step_adjustment step <;> trivial
  | closeHandle handle =>
      obtain ⟨guids, _, rfl⟩ | ⟨_, rfl⟩ := policy_step_close step <;> trivial
  | _ =>
      cases step
      exact found.snoc _

/-- Only the security privilege is enabled. -/
def EnablesSecurity (past : History) (event : Event hostInterface) : Prop :=
  ∀ token luid attributes, event.call = .adjustTokenPrivileges token luid attributes →
    IsSecurityLuid past luid

theorem follow_looked_up {history : History} {phase : PolicyPhase}
    (followed : Program.follow policyStep .untried history = some phase) :
    LookedUp history phase ∧ Program.Guarded EnablesSecurity [] history := by
  refine Program.follow_invariant
    (fun past phase => LookedUp past phase ∧ Program.Guarded EnablesSecurity [] past)
    ?_ ?_ followed
  · exact ⟨trivial, Program.guarded_nil⟩
  rintro past ⟨call, reply⟩ before after ⟨found, guarded⟩ step
  refine ⟨policy_step_looked_up found step, Program.guarded_append guarded ?_⟩
  apply Program.guarded_singleton
  rintro token luid attributes rfl
  obtain ⟨_, guids, rfl, _⟩ := policy_step_adjustment step
  exact found

/-- In every run the audit policy is queried at most twice, for the same subcategories. Between
the two queries, and only when the first one was denied, the token is opened, the security
privilege is enabled on it, and the token is closed again; each of these happens at most once,
and nothing of it is left undone. -/
theorem run_privilege_order (demo : Bool) (environment : Program.Environment hostInterface) :
    let history := ((run facts demo).run environment []).2
    (∃ phase, Program.follow policyStep .untried history = some phase ∧ phase.Ended) ∧
      history.countP isPolicyQuery ≤ 2 ∧ history.countP isOpening ≤ 1 ∧
      history.countP isAdjustment ≤ 1 := by
  intro history
  obtain ⟨phase, followed, ended⟩ :=
    Program.run_meets environment PolicyPhase.untried [] rfl (run_order facts demo)
  exact ⟨⟨phase, followed, ended⟩, phase_counts_bound (follow_counts followed)⟩

end Privilege

/-- Whatever the host answers, a run that has ended, with a report or with an exception, has
closed every handle that it opened, the last opened first, and has used none that was not open.
It has asked for nothing but to read, with the one exception of the security privilege of its own
token, and has started no command but `auditpol` and those that it had found to be `auditctl` and
Sysmon. -/
theorem run_leaves_host (demo : Bool) (environment : Program.Environment hostInterface) :
    let history := ((run facts demo).run environment []).2
    Program.follow (handleDiscipline permittedCall).monitor [] history = some [] ∧
      (history.filterMap acquiredHandle).Perm (history.filterMap releasedHandle) ∧
      (∀ event ∈ history, readsOnly event.call = true ∨ enablesPrivilege event.call = true ∨
        ∃ command, event.call = .run command) ∧
      (∀ before token luid attributes reply after,
        history = before ++ ⟨.adjustTokenPrivileges token luid attributes, reply⟩ :: after →
          IsSecurityLuid before luid) ∧
      ∀ before command outcome after, history = before ++ ⟨.run command, outcome⟩ :: after →
        Startable facts before command := by
  intro history
  have closed := run_balanced _ (run_tidy facts demo) environment
  refine ⟨closed, ?_, ?_, ?_, ?_⟩
  · have account := follow_account closed
    rwa [List.append_nil] at account
  · intro event member
    have allowed : permittedCall event.call = true := follow_permitted closed event member
    rw [permittedCall, Bool.or_eq_true, Bool.or_eq_true, or_assoc] at allowed
    apply allowed.imp_right (Or.imp_right _)
    intro starts
    cases called : event.call with
    | run command => exact ⟨command, rfl⟩
    | _ =>
        rw [called] at starts
        cases starts
  · obtain ⟨phase, followed, _⟩ :=
      Program.run_meets environment PolicyPhase.untried [] rfl (run_order facts demo)
    intro before token luid attributes reply after split
    exact (follow_looked_up followed).2 before _ after split token luid attributes rfl
  · obtain ⟨events, traced, traces⟩ := Program.run_traces environment [] (run facts demo)
    have guarded : Program.Guarded (StartsKnown facts) [] events := run_guarded traces
    intro before command outcome after split
    have same : events = before ++ ⟨.run command, outcome⟩ :: after :=
      ((List.nil_append events).symm.trans traced.symm).trans split
    exact guarded before _ after same command rfl

end Sigmascope.Host
