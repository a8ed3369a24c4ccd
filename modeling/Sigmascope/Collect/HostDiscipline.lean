import Sigmascope.Collect.HostPrograms

/-!
What the collectors do to the host: every handle they open is closed, on every way out, and
no call asks for more than it is permitted to. One walk through the programs shows both.
-/

namespace Sigmascope.Host

set_option autoImplicit false

open Sigmascope.Library Sigmascope.Library.Discipline

section Handles

/-- The program closes what it opens and makes permitted calls only. -/
abbrev Tidy {Value : Type} (permitted : HostCall → Bool) (borrowed : List Handle)
    (program : HostProgram Value) : Prop :=
  (handleDiscipline permitted).Balanced borrowed program

variable {Value : Type} {permitted : HostCall → Bool} {borrowed : List Handle}

/-- A call that has nothing to do with handles. -/
theorem tidy_ask {query : HostCall} {next : HostReply query → HostProgram Value}
    (allowed : permitted query = true)
    (unused : ∀ reply, usedHandles ⟨query, reply⟩ = [])
    (kept : ∀ reply, releasedHandle ⟨query, reply⟩ = none)
    (untaken : ∀ reply, acquiredHandle ⟨query, reply⟩ = none)
    (rest : ∀ reply, Tidy permitted borrowed (next reply)) :
    Tidy permitted borrowed (ask query >>= next) := by
  apply balanced_ask allowed
  · intro reply
    change usedHandles ⟨query, reply⟩ ⊆ borrowed
    rw [unused reply]
    exact List.nil_subset _
  · exact kept
  · exact untaken
  · exact rest

/-- A call that reads through an open handle. -/
theorem tidy_use {query : HostCall} {handle : Handle} {next : HostReply query → HostProgram Value}
    (allowed : permitted query = true)
    (opened : handle ∈ borrowed) (used : ∀ reply, usedHandles ⟨query, reply⟩ = [handle])
    (kept : ∀ reply, releasedHandle ⟨query, reply⟩ = none)
    (untaken : ∀ reply, acquiredHandle ⟨query, reply⟩ = none)
    (rest : ∀ reply, Tidy permitted borrowed (next reply)) :
    Tidy permitted borrowed (ask query >>= next) := by
  apply balanced_ask allowed
  · intro reply
    change usedHandles ⟨query, reply⟩ ⊆ borrowed
    rw [used reply]
    exact List.cons_subset.mpr ⟨opened, List.nil_subset _⟩
  · exact kept
  · exact untaken
  · exact rest

/-- A call that opens a handle, and a `finally` clause that closes it. -/
theorem tidy_open {closing : HostCall} {handle : Handle} {borrowed : List Handle}
    {program : HostProgram Value} (allowed : permitted closing = true)
    (balanced : Tidy permitted (handle :: borrowed) program)
    (unused : ∀ reply, usedHandles ⟨closing, reply⟩ = [])
    (returned : ∀ reply, releasedHandle ⟨closing, reply⟩ = some handle) :
    (handleDiscipline permitted).Closing borrowed handle (program.ensuring (release closing)) := by
  apply closing_ensuring allowed balanced
  · intro reply
    change usedHandles ⟨closing, reply⟩ ⊆ [handle]
    rw [unused reply]
    exact List.nil_subset _
  · exact returned

theorem tidy_catching {program : HostProgram Value} {handler : OsError → HostProgram Value}
    (first : Tidy permitted borrowed program)
    (rest : ∀ error, Tidy permitted borrowed (handler error)) :
    Tidy permitted borrowed (catchingOsError program handler) := by
  apply balanced_catching first
  intro error
  cases error with
  | osError error => exact rest error
  | valueError error => exact balanced_raised _
  | indexError => exact balanced_raised _
  | csvError error => exact balanced_raised _

theorem tidy_load (allowed : ∀ name, permitted (.loadLibrary name) = true) (name : String)
    (rest : HostProgram Value) (tidy : Tidy permitted borrowed rest) :
    Tidy permitted borrowed (do
      let loaded ← ask (.loadLibrary name)
      (raiseOsError loaded : HostProgram Unit)
      rest) := by
  apply tidy_ask (allowed name) (fun _ => rfl) (fun _ => rfl) (fun _ => rfl)
  intro loaded
  exact balanced_bind (balanced_of_except _) fun _ => tidy

end Handles

section Others

/-- Everything but the calls of the native query. -/
def Grants (permitted : HostCall → Bool) : Prop :=
  ∀ call, readsOnly call = true → policyCall call = false → permitted call = true

theorem grants_permitted : Grants permittedCall := by
  intro call reads _
  rw [permittedCall, reads, Bool.true_or, Bool.true_or]

variable {permitted : HostCall → Bool} (granted : Grants permitted)
  (started : ∀ command, permitted (.run command) = true)
include granted

theorem libraries_tidy (facts : HostFacts) : Tidy permitted [] (libraries facts) := by
  unfold libraries
  split
  · exact balanced_raised _
  · apply tidy_load fun _ => granted _ rfl rfl
    apply tidy_ask (granted _ rfl rfl) (fun _ => rfl) (fun _ => rfl) (fun _ => rfl)
    exact fun _ => balanced_of_except _

omit granted in
include started in
theorem collect_cli_policy_tidy (facts : HostFacts) :
    Tidy permitted [] (collectCliPolicy facts) := by
  unfold collectCliPolicy
  split
  · exact balanced_pure _
  · apply tidy_ask (started _) (fun _ => rfl) (fun _ => rfl) (fun _ => rfl)
    exact fun _ => balanced_of_except _

section Registry

theorem read_value_tidy (path name : String) : Tidy permitted [] (readValue path name) := by
  apply balanced_acquire (granted _ rfl rfl) (fun _ => List.nil_subset _) (fun _ => rfl)
  · intro reply untaken
    cases reply with
    | error failure => exact balanced_pure _
    | ok key => cases untaken
  · intro reply handle taken
    cases reply with
    | error failure => cases taken
    | ok key =>
        cases taken
        apply tidy_open (granted _ rfl rfl) _ (fun _ => rfl) (fun _ => rfl)
        change Tidy permitted _ (ask (.queryValueEx key name) >>= pure)
        apply tidy_use (granted _ rfl rfl) List.mem_cons_self (fun _ => rfl) (fun _ => rfl)
          (fun _ => rfl)
        exact fun _ => balanced_pure _

end Registry

section Channels

variable (facts : HostFacts)

theorem channel_property_tidy (channel : String) (handle : Nat) :
    Tidy permitted [⟨.channelConfig, handle⟩] (channelProperty channel handle) := by
  apply tidy_use (granted _ rfl rfl) List.mem_cons_self (fun _ => rfl) (fun _ => rfl)
    (fun _ => rfl)
  intro reply
  cases reply <;> exact balanced_pure _

theorem get_channel_config_tidy (channel : String) :
    Tidy permitted [] (getChannelConfig facts channel) := by
  unfold getChannelConfig
  split
  · exact balanced_pure _
  · apply tidy_load fun _ => granted _ rfl rfl
    apply balanced_acquire (granted _ rfl rfl) (fun _ => List.nil_subset _) (fun _ => rfl)
    · intro reply untaken
      cases reply with
      | error code => exact balanced_pure _
      | ok handle => cases untaken
    · intro reply handle taken
      cases reply with
      | error code => cases taken
      | ok config =>
          cases taken
          exact tidy_open (granted _ rfl rfl) (channel_property_tidy granted channel config)
            (fun _ => rfl) (fun _ => rfl)

end Channels

section Sysmon

variable (facts : HostFacts)

theorem query_service_tidy {borrowed : List Handle} (service : Nat) :
    Tidy permitted (⟨.service, service⟩ :: borrowed) (queryService service) := by
  apply tidy_use (granted _ rfl rfl) List.mem_cons_self (fun _ => rfl) (fun _ => rfl)
    (fun _ => rfl)
  intro reply
  cases reply <;> exact balanced_pure _

theorem open_service_tidy (manager : Nat) (name : String) :
    Tidy permitted [⟨.service, manager⟩] (openService manager name) := by
  apply balanced_acquire (granted _ rfl rfl) (fun _ => List.Subset.refl _) (fun _ => rfl)
  · intro reply untaken
    cases reply with
    | error code =>
        dsimp only
        split <;> exact balanced_pure _
    | ok service => cases untaken
  · intro reply handle taken
    cases reply with
    | error code => cases taken
    | ok service =>
        cases taken
        exact tidy_open (granted _ rfl rfl) (query_service_tidy granted service) (fun _ => rfl)
          (fun _ => rfl)

theorem service_state_tidy (name : String) : Tidy permitted [] (serviceState facts name) := by
  unfold serviceState
  split
  · exact balanced_pure _
  · apply tidy_load fun _ => granted _ rfl rfl
    apply balanced_acquire (granted _ rfl rfl) (fun _ => List.nil_subset _) (fun _ => rfl)
    · intro reply untaken
      cases reply with
      | error code => exact balanced_pure _
      | ok manager => cases untaken
    · intro reply handle taken
      cases reply with
      | error code => cases taken
      | ok manager =>
          cases taken
          exact tidy_open (granted _ rfl rfl) (open_service_tidy granted manager name)
            (fun _ => rfl) (fun _ => rfl)

theorem find_service_tidy (names : List String) :
    Tidy permitted [] (findService facts names) := by
  induction names with
  | nil => exact balanced_pure _
  | cons name names induction =>
      apply balanced_bind (service_state_tidy granted facts name)
      intro state
      dsimp only
      split
      · exact balanced_pure _
      · exact balanced_bind induction fun _ => balanced_pure _

theorem add_found_tidy (names paths : List String) : Tidy permitted [] (addFound paths names) := by
  induction names generalizing paths with
  | nil => exact balanced_pure _
  | cons name names induction =>
      apply tidy_ask (granted _ rfl rfl) (fun _ => rfl) (fun _ => rfl) (fun _ => rfl)
      intro reply
      cases reply with
      | none => exact induction paths
      | some found =>
          dsimp only
          split
          · exact induction paths
          · exact induction _

theorem executable_paths_tidy (name : String) :
    Tidy permitted [] (executablePaths facts name) := by
  have located : Tidy permitted [] (serviceImagePath facts name) := by
    unfold serviceImagePath
    split
    · exact balanced_pure _
    · exact balanced_bind (read_value_tidy granted _ _) fun _ => balanced_of_except _
  exact balanced_bind located fun _ => add_found_tidy granted _ _

theorem first_file_tidy (paths : List String) : Tidy permitted [] (firstFile paths) := by
  induction paths with
  | nil => exact balanced_pure _
  | cons path paths induction =>
      apply tidy_ask (granted _ rfl rfl) (fun _ => rfl) (fun _ => rfl) (fun _ => rfl)
      intro reply
      apply balanced_bind (balanced_of_except _)
      intro found
      split
      · exact balanced_pure _
      · exact induction

include started

theorem collect_running_tidy (errors : List CollectionError) (name : String) :
    Tidy permitted [] (collectRunning facts errors name) := by
  apply balanced_bind (executable_paths_tidy granted facts name)
  intro paths
  apply balanced_bind (first_file_tidy granted paths)
  intro found
  cases found with
  | none => exact balanced_pure _
  | some executable =>
      apply tidy_ask (started _) (fun _ => rfl) (fun _ => rfl) (fun _ => rfl)
      exact fun _ => balanced_pure _

theorem collect_sysmon_tidy : Tidy permitted [] (collectSysmon facts) := by
  unfold collectSysmon
  split
  · exact balanced_pure _
  · apply balanced_bind (find_service_tidy granted facts _)
    intro found
    obtain ⟨errors, _ | ⟨name, running⟩⟩ := found
    · dsimp only
      split <;> exact balanced_pure _
    · dsimp only
      split
      · exact balanced_pure _
      · exact collect_running_tidy granted started facts errors name

end Sysmon

section Auditd

variable (facts : HostFacts)

theorem first_candidate_tidy (candidates : List String) :
    Tidy permitted [] (firstCandidate candidates) := by
  induction candidates with
  | nil => exact balanced_pure _
  | cons candidate candidates induction =>
      apply tidy_ask (granted _ rfl rfl) (fun _ => rfl) (fun _ => rfl) (fun _ => rfl)
      intro reply
      split
      · exact balanced_pure _
      · exact induction

theorem unsearchable_tidy (directories : List String) :
    Tidy permitted [] (unsearchable directories) := by
  induction directories with
  | nil => exact balanced_pure _
  | cons directory directories induction =>
      apply tidy_ask (granted _ rfl rfl) (fun _ => rfl) (fun _ => rfl) (fun _ => rfl)
      intro reply
      split
      · apply tidy_ask (granted _ rfl rfl) (fun _ => rfl) (fun _ => rfl) (fun _ => rfl)
        intro reply
        split
        · exact induction
        · exact balanced_pure _
      · exact induction

theorem locate_auditctl_tidy : Tidy permitted [] locateAuditctl := by
  apply tidy_ask (granted _ rfl rfl) (fun _ => rfl) (fun _ => rfl) (fun _ => rfl)
  intro reply
  cases reply with
  | some executable => exact balanced_pure _
  | none =>
      apply balanced_bind (first_candidate_tidy granted _)
      intro found
      cases found with
      | some candidate => exact balanced_pure _
      | none => exact balanced_bind (unsearchable_tidy granted _) fun _ => balanced_pure _

include started

theorem collect_auditd_tidy : Tidy permitted [] (collectAuditd facts) := by
  have asked : ∀ executable argument,
      Tidy permitted [] (auditctl facts executable argument) := by
    intro executable argument
    apply tidy_ask (started _) (fun _ => rfl) (fun _ => rfl) (fun _ => rfl)
    exact fun _ => balanced_pure _
  apply balanced_bind (locate_auditctl_tidy granted)
  intro located
  obtain ⟨_ | executable, _ | _⟩ := located
  · exact balanced_pure _
  · exact balanced_pure _
  all_goals
    apply balanced_bind (asked executable "-l")
    intro rules
    exact balanced_bind (asked executable "-s") fun _ => balanced_pure _

end Auditd

end Others

section Auditpol

/-- A call of a collector that starts no command. -/
def quietCall (call : HostCall) : Bool := readsOnly call || enablesPrivilege call

variable {permitted : HostCall → Bool} (granted : ∀ call, quietCall call = true →
  permitted call = true)
include granted

theorem adjust_token_tidy (token : Nat) :
    Tidy permitted [⟨.token, token⟩] (adjustToken token) := by
  apply tidy_ask (granted _ rfl) (fun _ => rfl) (fun _ => rfl) (fun _ => rfl)
  intro reply
  cases reply with
  | error code => exact balanced_raised _
  | ok luid =>
      apply tidy_use (granted _ rfl) List.mem_cons_self (fun _ => rfl) (fun _ => rfl)
        (fun _ => rfl)
      intro reply
      cases reply with
      | error code => exact balanced_raised _
      | ok lastError =>
          dsimp only
          split
          · exact balanced_raised _
          · exact balanced_pure _

theorem enable_security_privilege_tidy : Tidy permitted [] enableSecurityPrivilege := by
  apply balanced_acquire (granted _ rfl) (fun _ => List.nil_subset _) (fun _ => rfl)
  · intro reply untaken
    cases reply with
    | error code => exact balanced_raised _
    | ok token => cases untaken
  · intro reply handle taken
    cases reply with
    | error code => cases taken
    | ok token =>
        cases taken
        exact tidy_open (granted _ rfl) (adjust_token_tidy granted token) (fun _ => rfl)
          (fun _ => rfl)

/-- The entries are read while the buffer is out. -/
theorem read_entries_tidy {borrowed : List Handle} {address : Nat}
    (opened : ⟨.auditBuffer, address⟩ ∈ borrowed) (indices : List Nat) :
    Tidy permitted borrowed (readEntries address indices) := by
  induction indices with
  | nil => exact balanced_pure _
  | cons index indices induction =>
      apply tidy_use (granted _ rfl) opened (fun _ => rfl) (fun _ => rfl) (fun _ => rfl)
      exact fun _ => balanced_bind induction fun _ => balanced_pure _

theorem read_buffer_tidy {borrowed : List Handle} {address : Nat} (count : Nat)
    (opened : address ≠ 0 → ⟨.auditBuffer, address⟩ ∈ borrowed) :
    Tidy permitted borrowed (readBuffer address count) := by
  unfold readBuffer
  split
  · exact balanced_raised _
  · rename_i readable
    apply balanced_bind _ fun _ => balanced_pure _
    by_cases null : address = 0
    · have nothing : count = 0 := by
        by_contra more
        exact readable ⟨null, more⟩
      rw [nothing]
      exact balanced_pure _
    · exact read_entries_tidy granted (opened null) _

theorem query_once_tidy (guids : List Guid) : Tidy permitted [] (queryOnce guids) := by
  apply balanced_acquire (granted _ rfl) (fun _ => List.nil_subset _) (fun _ => rfl)
  · intro reply untaken
    cases reply with
    | error code => exact balanced_raised _
    | ok address =>
        have null : address = 0 := by
          by_contra given
          change (if address = 0 then none else some _) = none at untaken
          rw [if_neg given] at untaken
          cases untaken
        dsimp only
        rw [if_pos null]
        exact read_buffer_tidy granted _ fun given => absurd null given
  · intro reply handle taken
    cases reply with
    | error code => cases taken
    | ok address =>
        change (if address = 0 then none else some _) = some handle at taken
        by_cases null : address = 0
        · rw [if_pos null] at taken
          cases taken
        · rw [if_neg null] at taken
          cases taken
          dsimp only
          rw [if_neg null]
          exact tidy_open (granted _ rfl)
            (read_buffer_tidy granted _ fun _ => List.mem_cons_self) (fun _ => rfl) (fun _ => rfl)

theorem first_query_tidy (guids : List Guid) : Tidy permitted [] (firstQuery guids) := by
  apply tidy_catching
  · exact balanced_bind (query_once_tidy granted guids) fun _ => balanced_pure _
  · intro error
    split
    · exact balanced_raised _
    · exact balanced_pure _

variable (facts : HostFacts)

theorem query_system_policy_tidy (subcategoryGuids : List String) :
    Tidy permitted [] (querySystemPolicy facts subcategoryGuids) := by
  have granting : Grants permitted := by
    intro call reads _
    apply granted
    rw [quietCall, reads, Bool.true_or]
  unfold querySystemPolicy
  split
  · exact balanced_pure _
  · apply balanced_bind (libraries_tidy granting facts)
    intro _
    apply balanced_bind (balanced_of_except _)
    intro guids
    apply balanced_bind (first_query_tidy granted guids)
    intro first
    cases first with
    | some states => exact balanced_pure _
    | none =>
        exact balanced_bind (enable_security_privilege_tidy granted)
          fun _ => query_once_tidy granted guids

theorem collect_native_policy_tidy (subcategoryGuids : List String) :
    Tidy permitted [] (collectNativePolicy facts subcategoryGuids) := by
  apply tidy_catching
  · exact balanced_bind (query_system_policy_tidy granted facts _) fun _ => balanced_pure _
  · exact fun _ => balanced_pure _

end Auditpol

end Sigmascope.Host
