import Sigmascope.Collect.HostReadings

/-!
Why a collector raises. Most failures of the host are caught and become errors of the report.
What is left has one of a few causes, and each of them is a reply in the history.
-/

namespace Sigmascope.Host

set_option autoImplicit false

open Sigmascope.Library Sigmascope.Library.PyText

/-- The causes of an exception. -/
inductive Failure (facts : HostFacts) (history : History) : HostError → Prop where
  | noName {error : OsError} (reply : Replied history .gethostname (.error error)) :
      Failure facts history (.osError error)
  | library {name : String} {error : OsError}
      (reply : Replied history (.loadLibrary name) (.error error)) :
      Failure facts history (.osError error)
  | probe {path : String} {error : OsError}
      (reply : Replied history (.isFile path) (.error error)) :
      Failure facts history (.osError error)
  | nullBuffer {guids : List Guid}
      (reply : Replied history (.auditQuerySystemPolicy guids) (.ok 0)) :
      Failure facts history (.valueError ⟨"NULL pointer access"⟩)
  | report {stdout stderr : List UInt8} {error : Csv.CsvError}
      (reply : Replied history (.run auditpolCommand) (.completed 0 stdout stderr))
      (refused : csvRows facts.acceptsNul (facts.decodeOem stdout) = .error error) :
      Failure facts history (.csvError error)
  | blankPath {name raw : String}
      (read : ValueRead history (serviceKey name) "ImagePath" (.ok (.text raw)))
      (blank : commandExecutable (expandVars facts.environ (strip raw.toList)) = none) :
      Failure facts history .indexError
  | misspelled {bytes : List UInt8} {error : ValueError} (printed : Printed facts history bytes)
      (refused : parseSysmonCurrent "sysmon -c" (facts.decodeOem bytes) = .error error) :
      Failure facts history (.valueError error)

variable {facts : HostFacts} {history : History}

section Rules

variable {Value : Type}

theorem ask_never_raises {query : HostCall} {error : HostError}
    (traces : (ask query).Traces history (.error error)) : False := by
  obtain ⟨reply, rest, _, _, same⟩ := traces
  cases same

theorem release_never_raises {query : HostCall} {error : HostError}
    (traces : (release query).Traces history (.error error)) : False := by
  obtain ⟨reply, rest, _, _, same⟩ := traces
  cases same

/-- An exception that comes out of a `finally` clause that closes a handle was there before. -/
theorem traces_releasing_error {program : HostProgram Value} {query : HostCall}
    {error : HostError}
    (traces : (program.ensuring (release query)).Traces history (.error error)) :
    ∃ front back, history = front ++ back ∧ program.Traces front (.error error) := by
  obtain ⟨outcome, front, back, rfl, first, second⟩ := Program.traces_ensuring.mp traces
  rcases Program.traces_bind_error.mp second with raised | ⟨_, _, last, rfl, _, handed⟩
  · exact (release_never_raises raised).elim
  · obtain ⟨_, rfl⟩ := Program.traces_of_except.mp handed
    exact ⟨front, _, rfl, first⟩

theorem raise_os_error_raises {outcome : Except OsError Value} {error : HostError}
    (traces : (raiseOsError outcome).Traces history (.error error)) :
    history = [] ∧ ∃ raised, outcome = .error raised ∧ error = .osError raised := by
  obtain ⟨nothing, same⟩ := Program.traces_of_except.mp traces
  cases outcome with
  | error raised =>
      cases same
      exact ⟨nothing, raised, rfl, rfl⟩
  | ok value => cases same

/-- What comes out of an `except OSError` clause: an exception of the handler, or another
exception of the body. -/
theorem catching_os_error_raises {program : HostProgram Value}
    {handler : OsError → HostProgram Value} {error : HostError}
    (traces : (catchingOsError program handler).Traces history (.error error)) :
    (∃ raised front back, history = front ++ back ∧
      program.Traces front (.error (.osError raised)) ∧
        (handler raised).Traces back (.error error)) ∨
      (∀ raised, error ≠ .osError raised) ∧ program.Traces history (.error error) := by
  rcases Program.traces_catching.mp traces with
    ⟨_, _, same⟩ | ⟨raised, front, back, rfl, first, second⟩
  · cases same
  · cases raised with
    | osError raised => exact Or.inl ⟨raised, front, back, rfl, first, second⟩
    | valueError raised =>
        obtain ⟨rfl, same⟩ := second
        cases same
        rw [List.append_nil]
        exact Or.inr ⟨nofun, first⟩
    | indexError =>
        obtain ⟨rfl, same⟩ := second
        cases same
        rw [List.append_nil]
        exact Or.inr ⟨nofun, first⟩
    | csvError raised =>
        obtain ⟨rfl, same⟩ := second
        cases same
        rw [List.append_nil]
        exact Or.inr ⟨nofun, first⟩

theorem Failure.mono {later : History} (inside : history <:+: later) {error : HostError}
    (failure : Failure facts history error) : Failure facts later error := by
  cases failure with
  | noName reply => exact .noName (reply.mono inside)
  | library reply => exact .library (reply.mono inside)
  | probe reply => exact .probe (reply.mono inside)
  | nullBuffer reply => exact .nullBuffer (reply.mono inside)
  | report reply refused => exact .report (reply.mono inside) refused
  | blankPath read blank => exact .blankPath (read.mono inside) blank
  | misspelled printed refused => exact .misspelled (printed.mono inside) refused

end Rules

section Auditd

theorem first_candidate_never_raises {candidates : List String} {error : HostError}
    (traces : (firstCandidate candidates).Traces history (.error error)) : False := by
  induction candidates generalizing history with
  | nil => cases traces.2
  | cons candidate candidates induction =>
      obtain ⟨there, rest, rfl, further⟩ := traces_ask.mp traces
      cases there with
      | true => cases further.2
      | false => exact induction further

theorem unsearchable_never_raises {directories : List String} {error : HostError}
    (traces : (unsearchable directories).Traces history (.error error)) : False := by
  induction directories generalizing history with
  | nil => cases traces.2
  | cons directory directories induction =>
      obtain ⟨there, rest, rfl, further⟩ := traces_ask.mp traces
      cases there with
      | false => exact induction further
      | true =>
          obtain ⟨access, rest, rfl, remaining⟩ := traces_ask.mp further
          cases access with
          | true => exact induction remaining
          | false => cases remaining.2

theorem locate_auditctl_never_raises {error : HostError}
    (traces : locateAuditctl.Traces history (.error error)) : False := by
  obtain ⟨reply, rest, rfl, looked⟩ := traces_ask.mp traces
  cases reply with
  | some path => cases looked.2
  | none =>
      rcases Program.traces_bind_error.mp looked with tried | ⟨candidate, _, _, _, _, further⟩
      · exact first_candidate_never_raises tried
      · cases candidate with
        | some path => cases further.2
        | none =>
            rcases Program.traces_bind_error.mp further with probed | ⟨_, _, _, _, _, last⟩
            · exact unsearchable_never_raises probed
            · cases last.2

theorem auditctl_never_raises {executable argument : String} {error : HostError}
    (traces : (auditctl facts executable argument).Traces history (.error error)) : False := by
  obtain ⟨outcome, rest, _, _, same⟩ := traces_ask.mp traces
  cases same

/-- The collector of the Linux side has no exception of its own. -/
theorem collect_auditd_never_raises {error : HostError}
    (traces : (collectAuditd facts).Traces history (.error error)) : False := by
  rcases Program.traces_bind_error.mp traces with looked | ⟨located, _, _, _, _, further⟩
  · exact locate_auditctl_never_raises looked
  · rcases located with ⟨_ | executable, _ | _⟩
    · cases further.2
    · cases further.2
    all_goals
      rcases Program.traces_bind_error.mp further with listed | ⟨_, _, _, _, _, remaining⟩
      · exact auditctl_never_raises listed
      · rcases Program.traces_bind_error.mp remaining with shown | ⟨_, _, _, _, _, last⟩
        · exact auditctl_never_raises shown
        · cases last.2

end Auditd

section Policy

theorem raise_last_error_raises {Value : Type} {operation : String} {code : Int}
    {error : HostError}
    (traces : (raiseLastError operation code : HostProgram Value).Traces history (.error error)) :
    ∃ raised, error = .osError raised := by
  obtain ⟨_, same⟩ := traces
  cases same
  exact ⟨_, rfl⟩

theorem libraries_raises {error : HostError}
    (traces : (libraries facts).Traces history (.error error)) :
    ∃ raised, error = .osError raised := by
  unfold libraries at traces
  split at traces
  · obtain ⟨_, same⟩ := traces
    cases same
    exact ⟨_, rfl⟩
  · obtain ⟨advapi, rest, rfl, further⟩ := traces_ask.mp traces
    rcases Program.traces_bind_error.mp further with first | ⟨_, _, _, _, _, second⟩
    · obtain ⟨_, raised, _, same⟩ := raise_os_error_raises first
      exact ⟨raised, same⟩
    · obtain ⟨kernel, rest, rfl, last⟩ := traces_ask.mp second
      obtain ⟨_, raised, _, same⟩ := raise_os_error_raises last
      exact ⟨raised, same⟩

theorem enable_security_privilege_raises {error : HostError}
    (traces : enableSecurityPrivilege.Traces history (.error error)) :
    ∃ raised, error = .osError raised := by
  obtain ⟨opened, rest, rfl, further⟩ := traces_ask.mp traces
  cases opened with
  | error code => exact raise_last_error_raises further
  | ok token =>
      obtain ⟨front, back, _, adjusting⟩ := traces_releasing_error further
      obtain ⟨found, rest, rfl, looked⟩ := traces_ask.mp adjusting
      cases found with
      | error code => exact raise_last_error_raises looked
      | ok luid =>
          obtain ⟨adjusted, rest, rfl, outcome⟩ := traces_ask.mp looked
          cases adjusted with
          | error code => exact raise_last_error_raises outcome
          | ok lastError =>
              dsimp only at outcome
              split at outcome
              · obtain ⟨_, same⟩ := outcome
                cases same
                exact ⟨_, rfl⟩
              · cases outcome.2

theorem read_entries_never_raises {address : Nat} {indices : List Nat} {error : HostError}
    (traces : (readEntries address indices).Traces history (.error error)) : False := by
  induction indices generalizing history with
  | nil => cases traces.2
  | cons index indices induction =>
      obtain ⟨entry, rest, rfl, further⟩ := traces_ask.mp traces
      rcases Program.traces_bind_error.mp further with reading | ⟨_, _, _, _, _, last⟩
      · exact induction reading
      · cases last.2

/-- Beside an error of the interface, only a null pointer makes a query fail. -/
theorem query_once_raises {guids : List Guid} {error : HostError}
    (traces : (queryOnce guids).Traces history (.error error)) :
    (∃ raised, error = .osError raised) ∨ Failure facts history error := by
  obtain ⟨reply, rest, rfl, answered⟩ := traces_ask.mp traces
  cases reply with
  | error code => exact Or.inl (raise_last_error_raises answered)
  | ok address =>
      have reading : ∃ events, (readBuffer address guids.length).Traces events (.error error) := by
        dsimp only at answered
        split at answered
        · exact ⟨_, answered⟩
        · obtain ⟨front, back, _, inner⟩ := traces_releasing_error answered
          exact ⟨front, inner⟩
      obtain ⟨events, reading⟩ := reading
      unfold readBuffer at reading
      split at reading
      · rename_i null
        obtain ⟨_, same⟩ := reading
        cases same
        rw [null.1]
        exact Or.inr (.nullBuffer replied_first)
      · rcases Program.traces_bind_error.mp reading with entries | ⟨_, _, _, _, _, last⟩
        · exact (read_entries_never_raises entries).elim
        · cases last.2

theorem query_system_policy_raises {subcategoryGuids : List String} {guids : List Guid}
    (shaped : guidArray subcategoryGuids = .ok guids) {error : HostError}
    (traces : (querySystemPolicy facts subcategoryGuids).Traces history (.error error)) :
    (∃ raised, error = .osError raised) ∨ Failure facts history error := by
  unfold querySystemPolicy at traces
  split at traces
  · cases traces.2
  · rcases Program.traces_bind_error.mp traces with loading | ⟨_, first, _, rfl, _, loaded⟩
    · exact Or.inl (libraries_raises loading)
    · rcases Program.traces_bind_error.mp loaded with array | ⟨other, second, _, rfl, _, further⟩
      · obtain ⟨_, same⟩ := Program.traces_of_except.mp array
        rw [shaped] at same
        cases same
      · rcases Program.traces_bind_error.mp further with tried | ⟨states, third, _, rfl, _, last⟩
        · rcases catching_os_error_raises tried with
            ⟨raised, front, back, rfl, _, handled⟩ | ⟨_, body⟩
          · split at handled
            · obtain ⟨_, same⟩ := handled
              cases same
              exact Or.inl ⟨raised, rfl⟩
            · cases handled.2
          · rcases Program.traces_bind_error.mp body with once | ⟨_, _, _, _, _, same⟩
            · exact (query_once_raises once).imp_right
                (·.mono ((back_inside _ _).trans (back_inside _ _)))
            · cases same.2
        · cases states with
          | some states => cases last.2
          | none =>
              rcases Program.traces_bind_error.mp last with enabling | ⟨_, fourth, _, rfl, _, again⟩
              · exact Or.inl (enable_security_privilege_raises enabling)
              · exact (query_once_raises again).imp_right fun failure =>
                  (((failure.mono (back_inside _ _)).mono (back_inside _ _)).mono
                    (back_inside _ _)).mono (back_inside _ _)

theorem collect_native_policy_raises {subcategoryGuids : List String} {guids : List Guid}
    (shaped : guidArray subcategoryGuids = .ok guids) {error : HostError}
    (traces : (collectNativePolicy facts subcategoryGuids).Traces history (.error error)) :
    Failure facts history error := by
  rcases catching_os_error_raises traces with ⟨raised, front, back, _, _, handled⟩ | ⟨other, body⟩
  · cases handled.2
  · rcases Program.traces_bind_error.mp body with queried | ⟨_, _, _, _, _, same⟩
    · rcases query_system_policy_raises shaped queried with ⟨raised, same⟩ | failure
      · exact absurd same (other raised)
      · exact failure
    · cases same.2

theorem collect_cli_policy_raises {error : HostError}
    (traces : (collectCliPolicy facts).Traces history (.error error)) :
    Failure facts history error := by
  unfold collectCliPolicy at traces
  split at traces
  · cases traces.2
  · obtain ⟨outcome, rest, rfl, converted⟩ := traces_ask.mp traces
    obtain ⟨rfl, same⟩ := Program.traces_of_except.mp converted
    cases outcome with
    | raised text => cases same
    | completed returnCode stdout stderr =>
        unfold cliPolicy parseAuditpolText at same
        dsimp only at same
        split at same
        · cases same
        · rename_i succeeded
          rw [not_not] at succeeded
          subst succeeded
          cases rows : csvRows facts.acceptsNul (facts.decodeOem stdout) with
          | error refused =>
              rw [rows] at same
              cases same
              exact .report replied_first rows
          | ok table =>
              rw [rows] at same
              cases same

end Policy

section Registry

theorem read_value_never_raises {path name : String} {error : HostError}
    (traces : (readValue path name).Traces history (.error error)) : False := by
  obtain ⟨opened, rest, rfl, further⟩ := traces_ask.mp traces
  cases opened with
  | error failure => cases further.2
  | ok key =>
      obtain ⟨front, back, _, inner⟩ := traces_releasing_error further
      exact ask_never_raises inner

theorem collect_registry_gates_never_raises {error : HostError}
    (traces : (collectRegistryGates facts).Traces history (.error error)) : False := by
  unfold collectRegistryGates at traces
  split at traces
  · cases traces.2
  · rcases Program.traces_bind_error.mp traces with reading | ⟨_, _, _, _, _, same⟩
    · exact read_value_never_raises reading
    · cases same.2

end Registry

section Channels

theorem load_library_raises {Value : Type} {name : String} {next : HostProgram Value}
    {error : HostError}
    (traces : (ask (.loadLibrary name) >>= fun loaded => raiseOsError loaded >>= fun _ =>
      next).Traces history (.error error)) :
    Failure facts history error ∨
      ∃ front back, history = front ++ back ∧ next.Traces back (.error error) := by
  obtain ⟨loaded, rest, rfl, checking⟩ := traces_ask.mp traces
  rcases Program.traces_bind_error.mp checking with raised | ⟨_, front, back, rfl, _, further⟩
  · obtain ⟨_, cause, same, rfl⟩ := raise_os_error_raises raised
    subst same
    exact Or.inl (.library replied_first)
  · exact Or.inr ⟨_ :: front, back, rfl, further⟩

theorem get_channel_config_raises {channel : String} {error : HostError}
    (traces : (getChannelConfig facts channel).Traces history (.error error)) :
    Failure facts history error := by
  unfold getChannelConfig at traces
  split at traces
  · cases traces.2
  · rcases load_library_raises traces with failure | ⟨front, back, rfl, opening⟩
    · exact failure
    · obtain ⟨opened, rest, rfl, further⟩ := traces_ask.mp opening
      cases opened with
      | error code => cases further.2
      | ok handle =>
          obtain ⟨inner, closing, _, asked⟩ := traces_releasing_error further
          obtain ⟨property, rest, rfl, answered⟩ := traces_ask.mp asked
          cases property <;> cases answered.2

end Channels

section Sysmon

theorem service_state_raises {name : String} {error : HostError}
    (traces : (serviceState facts name).Traces history (.error error)) :
    Failure facts history error := by
  unfold serviceState at traces
  split at traces
  · cases traces.2
  · rcases load_library_raises traces with failure | ⟨front, back, rfl, opening⟩
    · exact failure
    · obtain ⟨opened, rest, rfl, connected⟩ := traces_ask.mp opening
      cases opened with
      | error code => cases connected.2
      | ok manager =>
          obtain ⟨inner, closing, _, asked⟩ := traces_releasing_error connected
          obtain ⟨opened, rest, rfl, further⟩ := traces_ask.mp asked
          cases opened with
          | error code =>
              dsimp only at further
              split at further <;> cases further.2
          | ok service =>
              obtain ⟨query, released, _, queried⟩ := traces_releasing_error further
              obtain ⟨status, rest, rfl, answered⟩ := traces_ask.mp queried
              cases status <;> cases answered.2

theorem find_service_raises {names : List String} {error : HostError}
    (traces : (findService facts names).Traces history (.error error)) :
    Failure facts history error := by
  induction names generalizing history with
  | nil => cases traces.2
  | cons name names induction =>
      rcases Program.traces_bind_error.mp traces with asked | ⟨state, front, back, rfl, _, further⟩
      · exact service_state_raises asked
      · dsimp only at further
        split at further
        · cases further.2
        · rcases Program.traces_bind_error.mp further with searched | ⟨_, _, _, _, _, same⟩
          · exact (induction searched).mono (back_inside front back)
          · cases same.2

theorem service_image_path_raises {name : String} {error : HostError}
    (traces : (serviceImagePath facts name).Traces history (.error error)) :
    Failure facts history error := by
  unfold serviceImagePath at traces
  split at traces
  · cases traces.2
  · rcases Program.traces_bind_error.mp traces with
      reading | ⟨outcome, front, back, rfl, valued, further⟩
    · exact (read_value_never_raises reading).elim
    · obtain ⟨rfl, same⟩ := Program.traces_of_except.mp further
      have read := read_value_reads valued
      rcases outcome with failure | raw | truth
      · cases same
      · unfold imagePath at same
        dsimp only at same
        cases found : commandExecutable (expandVars facts.environ (strip raw.toList)) with
        | none =>
            rw [found] at same
            cases same
            exact .blankPath (read.mono (front_inside front [])) found
        | some executable =>
            rw [found] at same
            dsimp only at same
            split at same <;> cases same
      · cases same

theorem add_found_never_raises {names paths : List String} {error : HostError}
    (traces : (addFound paths names).Traces history (.error error)) : False := by
  induction names generalizing history paths with
  | nil => cases traces.2
  | cons name names induction =>
      obtain ⟨reply, rest, rfl, further⟩ := traces_ask.mp traces
      cases reply with
      | none => exact induction further
      | some found =>
          dsimp only at further
          split at further
          · exact induction further
          · exact induction further

theorem first_file_raises {paths : List String} {error : HostError}
    (traces : (firstFile paths).Traces history (.error error)) : Failure facts history error := by
  induction paths generalizing history with
  | nil => cases traces.2
  | cons path paths induction =>
      obtain ⟨reply, rest, rfl, checking⟩ := traces_ask.mp traces
      rcases Program.traces_bind_error.mp checking with
        raised | ⟨found, front, back, rfl, _, further⟩
      · obtain ⟨_, cause, same, rfl⟩ := raise_os_error_raises raised
        subst same
        exact .probe replied_first
      · cases found with
        | true => cases further.2
        | false =>
            exact ((induction further).mono (back_inside front back)).mono (later_inside _ _)

theorem collect_running_raises {errors : List CollectionError} {name : String} {error : HostError}
    (traces : (collectRunning facts errors name).Traces history (.error error)) :
    Failure facts history error := by
  rcases Program.traces_bind_error.mp traces with listing | ⟨paths, front, back, rfl, _, further⟩
  · rcases Program.traces_bind_error.mp listing with image | ⟨_, _, _, _, _, added⟩
    · exact service_image_path_raises image
    · exact (add_found_never_raises added).elim
  · rcases Program.traces_bind_error.mp further with looked | ⟨found, _, _, _, _, last⟩
    · exact (first_file_raises looked).mono (back_inside front back)
    · cases found with
      | none => cases last.2
      | some executable =>
          obtain ⟨outcome, rest, _, _, same⟩ := traces_ask.mp last
          cases same

theorem collect_sysmon_raises {error : HostError}
    (traces : (collectSysmon facts).Traces history (.error error)) :
    Failure facts history error := by
  unfold collectSysmon at traces
  split at traces
  · cases traces.2
  · rcases Program.traces_bind_error.mp traces with
      searched | ⟨⟨errors, service⟩, front, back, rfl, _, further⟩
    · exact find_service_raises searched
    · rcases service with _ | ⟨name, running⟩
      · dsimp only at further
        split at further <;> cases further.2
      · dsimp only at further
        split at further
        · cases further.2
        · exact (collect_running_raises further).mono (back_inside front back)

end Sysmon

end Sigmascope.Host
