import Sigmascope.Collect.HostRefinement

/-!
Where the collected state comes from. What a collector returns about the host was said by
replies that the run itself got: nothing is assumed, and nothing is remembered from elsewhere.
-/

namespace Sigmascope.Host

set_option autoImplicit false

open Sigmascope.Library Sigmascope.Library.PyText

abbrev History : Type := List (Event hostInterface)

/-- The call was made and got the reply. -/
def Replied (history : History) (query : HostCall) (reply : HostReply query) : Prop :=
  (⟨query, reply⟩ : Event hostInterface) ∈ history

section Rules

variable {front back : History} {query : HostCall} {reply : HostReply query} {Value : Type}

theorem replied_front (replied : Replied front query reply) : Replied (front ++ back) query reply :=
  List.mem_append_left back replied

theorem replied_back (replied : Replied back query reply) : Replied (front ++ back) query reply :=
  List.mem_append_right front replied

theorem front_inside (front back : History) : front <:+: front ++ back :=
  (List.prefix_append front back).isInfix

theorem back_inside (front back : History) : back <:+: front ++ back :=
  (List.suffix_append front back).isInfix

theorem later_inside (event : Event hostInterface) (back : History) : back <:+: event :: back :=
  (List.suffix_cons event back).isInfix

theorem Replied.mono {history later : History} (inside : history <:+: later)
    (replied : Replied history query reply) : Replied later query reply :=
  inside.subset replied

theorem replied_first : Replied (⟨query, reply⟩ :: back) query reply := List.mem_cons_self

theorem replied_later {event : Event hostInterface} (replied : Replied back query reply) :
    Replied (event :: back) query reply := List.mem_cons_of_mem event replied

theorem traces_ask {next : HostReply query → HostProgram Value} {events : History}
    {result : Except HostError Value} :
    (ask query >>= next).Traces events result ↔
      ∃ reply rest, events = ⟨query, reply⟩ :: rest ∧ (next reply).Traces rest result :=
  Iff.rfl

theorem traces_raise_os_error {outcome : Except OsError Value} {events : History} {value : Value}
    (traces : (raiseOsError outcome).Traces events (.ok value)) :
    events = [] ∧ outcome = .ok value :=
  ⟨(Program.traces_of_except.mp traces).1, raise_os_error_ok traces.yields⟩

end Rules

section Auditd

variable {facts : HostFacts} {history : History}

/-- The executable was found on the path, or in a standard directory. -/
def Located (history : History) (executable : String) : Prop :=
  Replied history (.which "auditctl") (some executable) ∨
    executable ∈ sbinCandidates ∧ Replied history (.pathExists executable) true

theorem Located.mono {later : History} (inside : history <:+: later) {executable : String}
    (located : Located history executable) : Located later executable :=
  located.imp (Replied.mono inside) fun found => ⟨found.1, found.2.mono inside⟩

/-- A directory that is not there, or one that could be searched. -/
def Searched (history : History) (directory : String) : Prop :=
  Replied history (.isDirectory directory) false ∨ Replied history (.searchable directory) true

/-- A directory that is there and could not be searched. -/
def Barred (history : History) (directory : String) : Prop :=
  Replied history (.isDirectory directory) true ∧ Replied history (.searchable directory) false

/-- The executable is neither on the path nor in a standard directory. -/
structure Unlocated (history : History) : Prop where
  unlisted : Replied history (.which "auditctl") none
  missing : ∀ candidate ∈ sbinCandidates, Replied history (.pathExists candidate) false
  searched : ∀ directory ∈ sbinDirectories, Searched history directory

/-- What the replies of a history say about auditd. -/
inductive AuditdRead (facts : HostFacts) (history : History) : AuditdCollection → Prop where
  | absent (unlocated : Unlocated history) : AuditdRead facts history ⟨some false, none, none, []⟩
  | hidden {directory : String} (errors : List CollectionError)
      (member : directory ∈ sbinDirectories) (barred : Barred history directory) :
      AuditdRead facts history ⟨none, none, none, errors⟩
  | installed {executable : String} {rules status : RunOutcome} (errors : List CollectionError)
      (located : Located history executable)
      (listed : Replied history (.run [executable, "-l"]) rules)
      (shown : Replied history (.run [executable, "-s"]) status) :
      AuditdRead facts history
        ⟨some true, (Sigmascope.auditctl (decodeOutcome facts rules) executable "-l").1,
          (Sigmascope.auditctl (decodeOutcome facts status) executable "-s").1, errors⟩

theorem first_candidate_reads {candidates : List String} {found : Option String}
    (traces : (firstCandidate candidates).Traces history (.ok found)) :
    (found = none → ∀ candidate ∈ candidates, Replied history (.pathExists candidate) false) ∧
      ∀ path, found = some path →
        path ∈ candidates ∧ Replied history (.pathExists path) true := by
  induction candidates generalizing history with
  | nil =>
      obtain ⟨_, same⟩ := traces
      cases same
      simp
  | cons candidate candidates induction =>
      obtain ⟨there, rest, rfl, next⟩ := traces_ask.mp traces
      cases there with
      | true =>
          obtain ⟨_, same⟩ := next
          cases same
          refine ⟨nofun, ?_⟩
          intro path given
          cases given
          exact ⟨List.mem_cons_self, replied_first⟩
      | false =>
          obtain ⟨missing, present⟩ := induction next
          constructor
          · intro nothing other member
            rcases List.mem_cons.mp member with rfl | later
            · exact replied_first
            · exact replied_later (missing nothing other later)
          · intro path given
            obtain ⟨member, there⟩ := present path given
            exact ⟨List.mem_cons_of_mem _ member, replied_later there⟩

theorem unsearchable_reads {directories : List String} {blocked : Bool}
    (traces : (unsearchable directories).Traces history (.ok blocked)) :
    (blocked = true → ∃ directory ∈ directories, Barred history directory) ∧
      (blocked = false → ∀ directory ∈ directories, Searched history directory) := by
  induction directories generalizing history with
  | nil =>
      obtain ⟨_, same⟩ := traces
      cases same
      simp
  | cons directory directories induction =>
      have further : ∀ {rest : History}, (∀ query reply, Replied rest query reply →
            Replied history query reply) → Searched history directory →
          (unsearchable directories).Traces rest (.ok blocked) →
          (blocked = true → ∃ name ∈ directory :: directories, Barred history name) ∧
            (blocked = false → ∀ name ∈ directory :: directories, Searched history name) := by
        intro rest kept clear remaining
        obtain ⟨shut, free⟩ := induction remaining
        constructor
        · intro isBlocked
          obtain ⟨name, member, there, barred⟩ := shut isBlocked
          exact ⟨name, List.mem_cons_of_mem _ member, kept _ _ there, kept _ _ barred⟩
        · intro unblocked name member
          rcases List.mem_cons.mp member with rfl | later
          · exact clear
          · exact (free unblocked name later).imp (kept _ _) (kept _ _)
      obtain ⟨there, rest, rfl, first⟩ := traces_ask.mp traces
      cases there with
      | false => exact further (fun _ _ => replied_later) (Or.inl replied_first) first
      | true =>
          obtain ⟨access, last, rfl, second⟩ := traces_ask.mp first
          cases access with
          | true =>
              exact further (fun _ _ said => replied_later (replied_later said))
                (Or.inr (replied_later replied_first)) second
          | false =>
              obtain ⟨_, same⟩ := second
              cases same
              exact ⟨fun _ => ⟨directory, List.mem_cons_self, replied_first,
                replied_later replied_first⟩, nofun⟩

theorem auditctl_reads {executable argument : String}
    {result : Option String × Option CollectionError}
    (traces : (auditctl facts executable argument).Traces history (.ok result)) :
    ∃ outcome, Replied history (.run [executable, argument]) outcome ∧
      result = Sigmascope.auditctl (decodeOutcome facts outcome) executable argument := by
  obtain ⟨outcome, rest, rfl, _, same⟩ := traces_ask.mp traces
  cases same
  exact ⟨outcome, replied_first, rfl⟩

theorem locate_auditctl_reads {located : Option String × Bool}
    (traces : locateAuditctl.Traces history (.ok located)) :
    (∀ executable, located.1 = some executable → Located history executable) ∧
      (located = (none, true) → Unlocated history) ∧
      (located = (none, false) → ∃ directory ∈ sbinDirectories, Barred history directory) := by
  obtain ⟨reply, rest, rfl, looked⟩ := traces_ask.mp traces
  cases reply with
  | some path =>
      obtain ⟨_, same⟩ := looked
      cases same
      refine ⟨?_, nofun, nofun⟩
      intro executable given
      cases given
      exact Or.inl replied_first
  | none =>
      obtain ⟨candidate, front, back, rfl, tried, further⟩ := Program.traces_bind_ok.mp looked
      obtain ⟨missing, present⟩ := first_candidate_reads tried
      cases candidate with
      | some path =>
          obtain ⟨_, same⟩ := further
          cases same
          refine ⟨?_, nofun, nofun⟩
          intro executable given
          cases given
          obtain ⟨member, there⟩ := present path rfl
          exact Or.inr ⟨member, replied_later (replied_front there)⟩
      | none =>
          obtain ⟨blocked, middle, last, rfl, probed, _, same⟩ :=
            Program.traces_bind_ok.mp further
          cases same
          obtain ⟨shut, free⟩ := unsearchable_reads probed
          have kept : ∀ query reply, Replied middle query reply →
              Replied (⟨.which "auditctl", none⟩ :: (front ++ (middle ++ last))) query reply :=
            fun _ _ said => replied_later (replied_back (replied_front said))
          refine ⟨nofun, ?_, ?_⟩
          · intro conclusive
            have unblocked : blocked = false := by simpa using conclusive
            refine ⟨replied_first, ?_, ?_⟩
            · intro candidate member
              exact replied_later (replied_front (missing rfl candidate member))
            · intro directory member
              exact (free unblocked directory member).imp (kept _ _) (kept _ _)
          · intro inconclusive
            have isBlocked : blocked = true := by simpa using inconclusive
            obtain ⟨directory, member, there, barred⟩ := shut isBlocked
            exact ⟨directory, member, kept _ _ there, kept _ _ barred⟩

/-- The auditd state was read from the replies. -/
theorem collect_auditd_reads {collection : AuditdCollection}
    (traces : (collectAuditd facts).Traces history (.ok collection)) :
    AuditdRead facts history collection := by
  obtain ⟨⟨executable, conclusive⟩, front, back, rfl, looked, collected⟩ :=
    Program.traces_bind_ok.mp traces
  obtain ⟨found, nowhere, shut⟩ := locate_auditctl_reads looked
  cases executable with
  | none =>
      cases conclusive with
      | true =>
          obtain ⟨rfl, same⟩ := collected
          cases same
          rw [List.append_nil]
          exact .absent (nowhere rfl)
      | false =>
          obtain ⟨rfl, same⟩ := collected
          cases same
          rw [List.append_nil]
          obtain ⟨directory, member, barred⟩ := shut rfl
          exact .hidden _ member barred
  | some executable =>
      obtain ⟨rules, middle, last, rfl, listing, remaining⟩ := Program.traces_bind_ok.mp collected
      obtain ⟨status, shown, tail, rfl, showing, _, same⟩ := Program.traces_bind_ok.mp remaining
      cases same
      obtain ⟨rulesOutcome, listed, rfl⟩ := auditctl_reads listing
      obtain ⟨statusOutcome, printed, rfl⟩ := auditctl_reads showing
      exact .installed _ ((found executable rfl).mono (front_inside _ _))
        (replied_back (replied_front listed)) (replied_back (replied_back (replied_front printed)))

theorem AuditdRead.mono {later : History} (inside : history <:+: later)
    {collection : AuditdCollection} (read : AuditdRead facts history collection) :
    AuditdRead facts later collection := by
  cases read with
  | absent unlocated =>
      obtain ⟨unlisted, missing, searched⟩ := unlocated
      refine .absent
        ⟨unlisted.mono inside, fun candidate member => (missing candidate member).mono inside, ?_⟩
      exact fun directory member =>
        (searched directory member).imp (Replied.mono inside) (Replied.mono inside)
  | hidden errors member barred =>
      exact .hidden errors member ⟨barred.1.mono inside, barred.2.mono inside⟩
  | installed errors located listed shown =>
      exact .installed errors (located.mono inside) (listed.mono inside) (shown.mono inside)

end Auditd

section Policy

variable {facts : HostFacts} {history : History}

/-- The reads of the entries of a buffer, from some index on. -/
def entryReads (address index : Nat) (entries : List AuditPolicyInformation) : History :=
  (entries.zipIdx index).map fun entry => ⟨.readAuditEntry address entry.2, entry.1⟩

/-- The policy was queried, and at once one entry for each subcategory was read from the buffer
that this query gave. -/
def BufferRead (history : History) (guids : List Guid) (entries : List AuditPolicyInformation) :
    Prop :=
  entries.length = guids.length ∧ ∃ address,
    ⟨.auditQuerySystemPolicy guids, .ok address⟩ :: entryReads address 0 entries <:+: history

/-- What the replies of a history say about the audit policy. -/
inductive NativeRead (history : History) (subcategoryGuids : List String) :
    NativeAuditPolicy → Prop where
  | unasked (nothing : subcategoryGuids = []) : NativeRead history subcategoryGuids ⟨[], none⟩
  | answered {guids : List Guid} {entries : List AuditPolicyInformation}
      (asked : guidArray subcategoryGuids = .ok guids)
      (read : BufferRead history guids entries) :
      NativeRead history subcategoryGuids ⟨(policyStates entries).items, none⟩
  | refused (error : CollectionError) : NativeRead history subcategoryGuids ⟨[], some error⟩

theorem BufferRead.mono {later : History} (inside : history <:+: later) {guids : List Guid}
    {entries : List AuditPolicyInformation} (read : BufferRead history guids entries) :
    BufferRead later guids entries := by
  obtain ⟨length, address, session⟩ := read
  exact ⟨length, address, session.trans inside⟩

theorem read_entries_reads {address index count : Nat} {entries : List AuditPolicyInformation}
    (traces : (readEntries address (List.range' index count)).Traces history (.ok entries)) :
    entries.length = count ∧ history = entryReads address index entries := by
  induction count generalizing index history entries with
  | zero =>
      obtain ⟨rfl, same⟩ := traces
      cases same
      exact ⟨rfl, rfl⟩
  | succ count induction =>
      obtain ⟨entry, rest, rfl, further⟩ := traces_ask.mp traces
      obtain ⟨others, front, back, rfl, reading, rfl, same⟩ := Program.traces_bind_ok.mp further
      cases same
      obtain ⟨length, rfl⟩ := induction reading
      refine ⟨congrArg Nat.succ length, ?_⟩
      rw [List.append_nil]
      rfl

theorem query_once_reads {guids : List Guid} {states : Dict String String}
    (traces : (queryOnce guids).Traces history (.ok states)) :
    ∃ entries, BufferRead history guids entries ∧ states = policyStates entries := by
  obtain ⟨reply, rest, rfl, answered⟩ := traces_ask.mp traces
  cases reply with
  | error code => cases answered.2
  | ok address =>
      have read : ∃ front back, rest = front ++ back ∧
          (readBuffer address guids.length).Traces front (.ok states) := by
        dsimp only at answered
        split at answered
        · exact ⟨rest, [], (List.append_nil rest).symm, answered⟩
        · exact Program.traces_ensuring_ok answered
      obtain ⟨front, back, rfl, read⟩ := read
      unfold readBuffer at read
      split at read
      · cases read.2
      · obtain ⟨entries, inner, last, rfl, reading, rfl, same⟩ := Program.traces_bind_ok.mp read
        cases same
        rw [List.range_eq_range'] at reading
        obtain ⟨length, rfl⟩ := read_entries_reads reading
        refine ⟨entries, ⟨length, address, ?_⟩, rfl⟩
        rw [List.append_nil]
        exact front_inside (_ :: entryReads address 0 entries) back

theorem query_system_policy_reads {subcategoryGuids : List String} {states : Dict String String}
    (asked : subcategoryGuids ≠ [])
    (traces : (querySystemPolicy facts subcategoryGuids).Traces history (.ok states)) :
    ∃ guids entries, guidArray subcategoryGuids = .ok guids ∧
      BufferRead history guids entries ∧ states = policyStates entries := by
  rw [querySystemPolicy, if_neg asked] at traces
  obtain ⟨_, loading, rest, rfl, _, loaded⟩ := Program.traces_bind_ok.mp traces
  obtain ⟨guids, nothing, rest, rfl, array, converted⟩ := Program.traces_bind_ok.mp loaded
  obtain ⟨first, trial, rest, rfl, tried, remaining⟩ := Program.traces_bind_ok.mp converted
  have shaped : guidArray subcategoryGuids = .ok guids := by
    have outcome := (Program.traces_of_except.mp array).2
    cases shape : guidArray subcategoryGuids with
    | error error =>
        rw [shape] at outcome
        cases outcome
    | ok other =>
        rw [shape] at outcome
        cases outcome
        rfl
  cases first with
  | none =>
      obtain ⟨_, enabling, again, rfl, _, repeated⟩ := Program.traces_bind_ok.mp remaining
      obtain ⟨entries, read, same⟩ := query_once_reads repeated
      refine ⟨guids, entries, shaped, ?_, same⟩
      exact (((read.mono (back_inside _ _)).mono (back_inside _ _)).mono (back_inside _ _)).mono
        (back_inside _ _)
  | some known =>
      obtain ⟨_, same⟩ := remaining
      cases same
      rcases Program.traces_catching.mp tried with ⟨value, answered, outcome⟩ | handled
      · cases outcome
        obtain ⟨other, front, back, rfl, once, _, outcome⟩ := Program.traces_bind_ok.mp answered
        cases outcome
        obtain ⟨entries, read, same⟩ := query_once_reads once
        refine ⟨guids, entries, shaped, ?_, same⟩
        exact (((read.mono (front_inside _ _)).mono (front_inside _ _)).mono (back_inside _ _)).mono
          (back_inside _ _)
      · obtain ⟨error, front, back, rfl, _, handled⟩ := handled
        cases error with
        | osError error =>
            dsimp only at handled
            split at handled <;> cases handled.2
        | valueError error => cases handled.2
        | indexError => cases handled.2
        | csvError error => cases handled.2

/-- The audit policy was read from the replies. -/
theorem collect_native_policy_reads {subcategoryGuids : List String}
    {policy : NativeAuditPolicy}
    (traces : (collectNativePolicy facts subcategoryGuids).Traces history (.ok policy)) :
    NativeRead history subcategoryGuids policy := by
  rcases Program.traces_catching.mp traces with ⟨value, answered, outcome⟩ | handled
  · cases outcome
    obtain ⟨states, front, back, rfl, queried, _, outcome⟩ := Program.traces_bind_ok.mp answered
    cases outcome
    by_cases asked : subcategoryGuids = []
    · rw [querySystemPolicy, if_pos asked] at queried
      obtain ⟨_, same⟩ := queried
      cases same
      exact .unasked asked
    · obtain ⟨guids, entries, shaped, read, rfl⟩ := query_system_policy_reads asked queried
      exact .answered shaped (read.mono (front_inside _ _))
  · obtain ⟨error, front, back, rfl, _, handled⟩ := handled
    cases error with
    | osError error =>
        obtain ⟨_, same⟩ := handled
        cases same
        exact .refused _
    | valueError error => cases handled.2
    | indexError => cases handled.2
    | csvError error => cases handled.2

/-- The report that the command printed. -/
def ReportRead (facts : HostFacts) (history : History) (parsed : ParseResult) : Prop :=
  ∃ stdout stderr, Replied history (.run auditpolCommand) (.completed 0 stdout stderr) ∧
    parseAuditpolText facts.acceptsNul "auditpol /r" (facts.decodeOem stdout) = .ok parsed

/-- A parsed report was printed by the command. -/
theorem collect_cli_policy_reads {collection : AuditpolCliCollection}
    (traces : (collectCliPolicy facts).Traces history (.ok collection)) {parsed : ParseResult}
    (given : collection.parsed = some parsed) : ReportRead facts history parsed := by
  unfold collectCliPolicy at traces
  split at traces
  · obtain ⟨_, same⟩ := traces
    cases same
    cases given
  · obtain ⟨outcome, rest, rfl, converted⟩ := traces_ask.mp traces
    obtain ⟨rfl, same⟩ := Program.traces_of_except.mp converted
    cases outcome with
    | raised text =>
        cases same
        cases given
    | completed returnCode stdout stderr =>
        unfold cliPolicy at same
        dsimp only at same
        split at same
        · cases same
          cases given
        · rename_i succeeded
          rw [not_not] at succeeded
          subst succeeded
          refine ⟨stdout, stderr, replied_first, ?_⟩
          cases report : parseAuditpolText facts.acceptsNul "auditpol /r"
              (facts.decodeOem stdout) with
          | error error =>
              rw [report] at same
              cases same
          | ok other =>
              rw [report] at same
              cases same
              cases given
              rfl

theorem NativeRead.mono {later : History} (inside : history <:+: later)
    {subcategoryGuids : List String} {policy : NativeAuditPolicy}
    (read : NativeRead history subcategoryGuids policy) :
    NativeRead later subcategoryGuids policy := by
  cases read with
  | unasked nothing => exact .unasked nothing
  | answered asked read => exact .answered asked (read.mono inside)
  | refused error => exact .refused error

theorem ReportRead.mono {later : History} (inside : history <:+: later) {parsed : ParseResult}
    (read : ReportRead facts history parsed) : ReportRead facts later parsed := by
  obtain ⟨stdout, stderr, reply, same⟩ := read
  exact ⟨stdout, stderr, reply.mono inside, same⟩

end Policy

section Registry

variable {facts : HostFacts} {history : History}

/-- What the replies of a history say about a value of the registry: it was queried by the key
that was opened right before. -/
inductive ValueRead (history : History) (path name : String) :
    Except KeyFailure RegistryValue → Prop where
  | unopened {failure : KeyFailure}
      (reply : Replied history (.openKey path keyRead) (.error failure)) :
      ValueRead history path name (.error failure)
  | queried {key : Nat} {outcome : Except KeyFailure RegistryValue}
      (session : [⟨.openKey path keyRead, .ok key⟩, ⟨.queryValueEx key name, outcome⟩] <:+:
        history) : ValueRead history path name outcome

theorem read_value_reads {path name : String} {outcome : Except KeyFailure RegistryValue}
    (traces : (readValue path name).Traces history (.ok outcome)) :
    ValueRead history path name outcome := by
  obtain ⟨opened, rest, rfl, further⟩ := traces_ask.mp traces
  cases opened with
  | error failure =>
      obtain ⟨_, same⟩ := further
      cases same
      exact .unopened replied_first
  | ok key =>
      obtain ⟨front, back, rfl, reply, nothing, rfl, _, same⟩ :=
        Program.traces_ensuring_ok further
      cases same
      exact .queried (front_inside [_, _] _)

/-- What the replies of a history say about the command line of new processes. -/
def RegistryRead (facts : HostFacts) (history : History) (registry : ParseResult) : Prop :=
  if facts.sysPlatform = "win32" then
    ∃ outcome, ValueRead history commandLinePath commandLineValue outcome ∧
      registry = registryGates outcome
  else registry = { determinacy := .unknown }

theorem collect_registry_gates_reads {registry : ParseResult}
    (traces : (collectRegistryGates facts).Traces history (.ok registry)) :
    RegistryRead facts history registry := by
  unfold collectRegistryGates at traces
  unfold RegistryRead
  split at traces
  · rename_i other
    rw [if_neg other]
    obtain ⟨_, same⟩ := traces
    cases same
    rfl
  · rename_i windows
    rw [if_pos (not_not.mp windows)]
    obtain ⟨outcome, front, back, rfl, reading, nothing, same⟩ := Program.traces_bind_ok.mp traces
    cases same
    rw [nothing, List.append_nil]
    exact ⟨outcome, read_value_reads reading, rfl⟩

theorem ValueRead.mono {later : History} (inside : history <:+: later) {path name : String}
    {outcome : Except KeyFailure RegistryValue} (read : ValueRead history path name outcome) :
    ValueRead later path name outcome := by
  cases read with
  | unopened reply => exact .unopened (reply.mono inside)
  | queried session => exact .queried (session.trans inside)

theorem RegistryRead.mono {later : History} (inside : history <:+: later) {registry : ParseResult}
    (read : RegistryRead facts history registry) : RegistryRead facts later registry := by
  unfold RegistryRead at read ⊢
  split at read
  · rename_i windows
    rw [if_pos windows]
    obtain ⟨outcome, value, same⟩ := read
    exact ⟨outcome, value.mono inside, same⟩
  · rename_i other
    rw [if_neg other]
    exact read

end Registry

section Channels

variable {facts : HostFacts} {history : History}

/-- The channel was opened, and at once its property was read. -/
def PropertyRead (history : History) (channel : String) (value : Int) : Prop :=
  ∃ handle, [⟨.evtOpenChannelConfig channel, .ok handle⟩,
    ⟨.evtGetChannelConfigProperty handle evtChannelConfigEnabled, .ok value⟩] <:+: history

/-- What the replies of a history say about a channel. -/
inductive ChannelRead (history : History) (channel : String) : ChannelConfig → Prop where
  | answered {value : Int} (read : PropertyRead history channel value) :
      ChannelRead history channel ⟨some (value != 0), none⟩
  | failed (error : CollectionError) : ChannelRead history channel ⟨none, some error⟩

theorem get_channel_config_reads {channel : String} {config : ChannelConfig}
    (traces : (getChannelConfig facts channel).Traces history (.ok config)) :
    ChannelRead history channel config := by
  unfold getChannelConfig at traces
  split at traces
  · obtain ⟨_, same⟩ := traces
    cases same
    exact .failed _
  · obtain ⟨loaded, rest, rfl, checking⟩ := traces_ask.mp traces
    obtain ⟨_, front, back, rfl, _, opening⟩ := Program.traces_bind_ok.mp checking
    obtain ⟨opened, rest, rfl, further⟩ := traces_ask.mp opening
    cases opened with
    | error code =>
        obtain ⟨_, same⟩ := further
        cases same
        exact .failed _
    | ok handle =>
        obtain ⟨inner, closing, rfl, asked⟩ := Program.traces_ensuring_ok further
        obtain ⟨property, rest, rfl, answered⟩ := traces_ask.mp asked
        cases property with
        | error code =>
            obtain ⟨_, same⟩ := answered
            cases same
            exact .failed _
        | ok booleanVal =>
            obtain ⟨_, same⟩ := answered
            cases same
            refine .answered ⟨handle, ?_⟩
            exact (front_inside [_, _] _).trans
              ((back_inside front _).trans (later_inside _ _))

theorem ChannelRead.mono {later : History} (inside : history <:+: later) {channel : String}
    {config : ChannelConfig} (read : ChannelRead history channel config) :
    ChannelRead later channel config := by
  cases read with
  | answered read =>
      obtain ⟨handle, session⟩ := read
      exact .answered ⟨handle, session.trans inside⟩
  | failed error => exact .failed error

end Channels

section Sysmon

variable {facts : HostFacts} {history : History}

/-- The service manager has no such service. -/
def NoService (history : History) (name : String) : Prop :=
  ∃ manager, [⟨.openSCManager scManagerConnect, .ok manager⟩,
    ⟨.openService manager name serviceQueryStatus, .error errorServiceDoesNotExist⟩] <:+: history

/-- The service manager has the service, in this state. -/
def ServiceIn (history : History) (name : String) (state : Nat) : Prop :=
  ∃ manager service, [⟨.openSCManager scManagerConnect, .ok manager⟩,
    ⟨.openService manager name serviceQueryStatus, .ok service⟩,
    ⟨.queryServiceStatusEx service, .ok state⟩] <:+: history

/-- Where the path of the executable of Sysmon comes from: one of its services names it, or it
was found on the path. -/
inductive SysmonPath (facts : HostFacts) (history : History) (executable : String) : Prop where
  | service {name : String} {outcome : Except KeyFailure RegistryValue}
      (member : name ∈ serviceNames)
      (read : ValueRead history (serviceKey name) "ImagePath" outcome)
      (image : imagePath facts outcome = .ok (some executable)) :
      SysmonPath facts history executable
  | listed {name : String} (member : name ∈ executableNames)
      (found : Replied history (.which name) (some executable)) :
      SysmonPath facts history executable

/-- The executable of Sysmon, which is there. -/
def SysmonFound (facts : HostFacts) (history : History) (executable : String) : Prop :=
  SysmonPath facts history executable ∧ Replied history (.isFile executable) (.ok true)

/-- Sysmon printed its configuration, on the other stream when the first is empty. -/
def Printed (facts : HostFacts) (history : History) (config : List UInt8) : Prop :=
  ∃ executable stdout stderr, SysmonFound facts history executable ∧
    Replied history (.run [executable, "-c"]) (.completed 0 stdout stderr) ∧
    config = if stdout = [] then stderr else stdout

/-- What the replies of a history say about Sysmon. -/
structure SysmonRead (facts : HostFacts) (history : History) (sysmon : SysmonCollection) :
    Prop where
  absent : sysmon.installed = some false → ∀ name ∈ serviceNames, NoService history name
  status : ∀ running, sysmon.installed = some true → sysmon.running = some running →
    ∃ name ∈ serviceNames, ∃ state, ServiceIn history name state ∧
      running = (state == serviceRunning)
  config : ∀ bytes, sysmon.currentConfig = some bytes → Printed facts history bytes

variable {later : History} (inside : history <:+: later)
include inside

theorem NoService.mono {name : String} (without : NoService history name) :
    NoService later name := by
  obtain ⟨manager, session⟩ := without
  exact ⟨manager, session.trans inside⟩

theorem ServiceIn.mono {name : String} {state : Nat} (held : ServiceIn history name state) :
    ServiceIn later name state := by
  obtain ⟨manager, service, session⟩ := held
  exact ⟨manager, service, session.trans inside⟩

theorem SysmonPath.mono {executable : String} (path : SysmonPath facts history executable) :
    SysmonPath facts later executable := by
  cases path with
  | service member read image => exact .service member (read.mono inside) image
  | listed member found => exact .listed member (found.mono inside)

theorem SysmonFound.mono {executable : String} (found : SysmonFound facts history executable) :
    SysmonFound facts later executable :=
  ⟨found.1.mono inside, found.2.mono inside⟩

theorem Printed.mono {config : List UInt8} (printed : Printed facts history config) :
    Printed facts later config := by
  obtain ⟨executable, stdout, stderr, found, reply, same⟩ := printed
  exact ⟨executable, stdout, stderr, found.mono inside, reply.mono inside, same⟩

theorem SysmonRead.mono {sysmon : SysmonCollection} (read : SysmonRead facts history sysmon) :
    SysmonRead facts later sysmon := by
  refine ⟨?_, ?_, ?_⟩
  · intro absent name member
    exact (read.absent absent name member).mono inside
  · intro running installed known
    obtain ⟨name, member, state, held, same⟩ := read.status running installed known
    exact ⟨name, member, state, held.mono inside, same⟩
  · intro bytes given
    exact (read.config bytes given).mono inside

omit inside

theorem service_state_reads {name : String} {state : ServiceState}
    (windows : facts.sysPlatform = "win32")
    (traces : (serviceState facts name).Traces history (.ok state)) :
    (state.present = false → state.error = none → NoService history name) ∧
      (state.present = true → ∀ running, state.running = some running →
        ∃ current, ServiceIn history name current ∧ running = (current == serviceRunning)) := by
  rw [serviceState, if_neg (not_not.mpr windows)] at traces
  obtain ⟨loaded, rest, rfl, checking⟩ := traces_ask.mp traces
  obtain ⟨_, front, back, rfl, _, opening⟩ := Program.traces_bind_ok.mp checking
  obtain ⟨opened, rest, rfl, connected⟩ := traces_ask.mp opening
  cases opened with
  | error code =>
      obtain ⟨_, same⟩ := connected
      cases same
      constructor
      · intro _ faultless
        cases faultless
      · intro present
        cases present
  | ok manager =>
      obtain ⟨inner, closing, rfl, asked⟩ := Program.traces_ensuring_ok connected
      obtain ⟨opened, rest, rfl, further⟩ := traces_ask.mp asked
      cases opened with
      | error code =>
          dsimp only at further
          split at further
          · rename_i unknown
            obtain ⟨_, same⟩ := further
            cases same
            subst unknown
            constructor
            · intro _ _
              refine ⟨manager, ?_⟩
              exact (front_inside [_, _] _).trans
                ((back_inside front _).trans (later_inside _ _))
            · intro present
              cases present
          · obtain ⟨_, same⟩ := further
            cases same
            constructor
            · intro _ faultless
              cases faultless
            · intro present
              cases present
      | ok service =>
          obtain ⟨query, released, rfl, queried⟩ := Program.traces_ensuring_ok further
          obtain ⟨status, rest, rfl, answered⟩ := traces_ask.mp queried
          cases status with
          | error code =>
              obtain ⟨_, same⟩ := answered
              cases same
              constructor
              · intro absent
                cases absent
              · intro _ running given
                cases given
          | ok currentState =>
              obtain ⟨_, same⟩ := answered
              cases same
              constructor
              · intro absent
                cases absent
              · intro _ running given
                cases given
                refine ⟨currentState, ⟨manager, service, ?_⟩, rfl⟩
                exact (front_inside [_, _, _] _).trans
                  ((back_inside front _).trans (later_inside _ _))

theorem find_service_reads (windows : facts.sysPlatform = "win32") {names : List String}
    {errors : List CollectionError} {found : Option (String × Option Bool)}
    (traces : (findService facts names).Traces history (.ok (errors, found))) :
    (found = none → errors = [] → ∀ name ∈ names, NoService history name) ∧
      ∀ name running, found = some (name, some running) → name ∈ names ∧
        ∃ state, ServiceIn history name state ∧ running = (state == serviceRunning) := by
  induction names generalizing history errors found with
  | nil =>
      obtain ⟨_, same⟩ := traces
      cases same
      simp
  | cons name names induction =>
      obtain ⟨state, front, back, rfl, asked, further⟩ := Program.traces_bind_ok.mp traces
      obtain ⟨unknown, known⟩ := service_state_reads windows asked
      dsimp only at further
      split at further
      · rename_i present
        obtain ⟨_, same⟩ := further
        cases same
        refine ⟨nofun, ?_⟩
        intro other running given
        obtain ⟨rfl, runs⟩ := Prod.mk.injEq _ _ _ _ ▸ Option.some.inj given
        obtain ⟨current, inside, same⟩ := known present running runs
        exact ⟨List.mem_cons_self, current, inside.mono (front_inside _ _), same⟩
      · rename_i missing
        obtain ⟨⟨more, later⟩, middle, last, rfl, searched, _, same⟩ :=
          Program.traces_bind_ok.mp further
        cases same
        obtain ⟨nowhere, somewhere⟩ := induction searched
        constructor
        · intro nothing quiet other member
          obtain ⟨own, others⟩ := List.append_eq_nil_iff.mp quiet
          rcases List.mem_cons.mp member with rfl | rest
          · have without := unknown (Bool.not_eq_true _ ▸ missing) (by simpa using own)
            exact without.mono (front_inside _ _)
          · have without := nowhere nothing others other rest
            exact (without.mono (front_inside _ _)).mono (back_inside _ _)
        · intro other running given
          obtain ⟨member, current, inside, same⟩ := somewhere other running given
          exact ⟨List.mem_cons_of_mem _ member, current,
            (inside.mono (front_inside _ _)).mono (back_inside _ _), same⟩

theorem service_image_path_reads {name : String} {image : Option String}
    (traces : (serviceImagePath facts name).Traces history (.ok image)) :
    image = none ∨ ∃ outcome, ValueRead history (serviceKey name) "ImagePath" outcome ∧
      imagePath facts outcome = .ok image := by
  unfold serviceImagePath at traces
  split at traces
  · obtain ⟨_, same⟩ := traces
    cases same
    exact Or.inl rfl
  · obtain ⟨outcome, front, back, rfl, reading, converted⟩ := Program.traces_bind_ok.mp traces
    obtain ⟨rfl, same⟩ := Program.traces_of_except.mp converted
    rw [List.append_nil]
    exact Or.inr ⟨outcome, read_value_reads reading, same.symm⟩

/-- The loop over the executable names adds what the host found. -/
theorem add_found_reads {names paths found : List String}
    (traces : (addFound paths names).Traces history (.ok found)) :
    ∀ path ∈ found, path ∈ paths ∨ ∃ name ∈ names, Replied history (.which name) (some path) := by
  induction names generalizing paths history with
  | nil =>
      obtain ⟨_, same⟩ := traces
      cases same
      exact fun path member => Or.inl member
  | cons name names induction =>
      obtain ⟨reply, rest, rfl, further⟩ := traces_ask.mp traces
      have later : ∀ path, (∃ name ∈ names, Replied rest (.which name) (some path)) →
          ∃ other ∈ name :: names, Replied (⟨.which name, reply⟩ :: rest) (.which other)
            (some path) := by
        rintro path ⟨other, member, said⟩
        exact ⟨other, List.mem_cons_of_mem _ member, replied_later said⟩
      intro path member
      cases reply with
      | none => exact (induction further path member).imp_right (later path)
      | some candidate =>
          dsimp only at further
          split at further
          · exact (induction further path member).imp_right (later path)
          · rcases induction further path member with known | said
            · rcases List.mem_append.mp known with old | new
              · exact Or.inl old
              · cases List.mem_singleton.mp new
                exact Or.inr ⟨name, List.mem_cons_self, replied_first⟩
            · exact Or.inr (later path said)

theorem executable_paths_reads {name : String} (member : name ∈ serviceNames)
    {paths : List String} (traces : (executablePaths facts name).Traces history (.ok paths)) :
    ∀ path ∈ paths, SysmonPath facts history path := by
  obtain ⟨image, front, back, rfl, looked, added⟩ := Program.traces_bind_ok.mp traces
  intro path listed
  rcases add_found_reads added path listed with own | ⟨other, known, said⟩
  · have same : image = some path := Option.mem_toList.mp (List.mem_filter.mp own).1
    rcases service_image_path_reads looked with nothing | ⟨outcome, read, given⟩
    · rw [nothing] at same
      cases same
    · rw [same] at given
      exact .service member (read.mono (front_inside _ _)) given
  · exact .listed known (replied_back said)

theorem first_file_reads {paths : List String} {found : Option String}
    (traces : (firstFile paths).Traces history (.ok found)) :
    ∀ path, found = some path → path ∈ paths ∧ Replied history (.isFile path) (.ok true) := by
  induction paths generalizing history with
  | nil =>
      obtain ⟨_, same⟩ := traces
      cases same
      exact nofun
  | cons path paths induction =>
      obtain ⟨reply, rest, rfl, checking⟩ := traces_ask.mp traces
      obtain ⟨there, front, back, rfl, raised, further⟩ := Program.traces_bind_ok.mp checking
      obtain ⟨rfl, rfl⟩ := traces_raise_os_error raised
      intro other given
      cases there with
      | true =>
          obtain ⟨_, same⟩ := further
          cases same
          cases given
          exact ⟨List.mem_cons_self, replied_first⟩
      | false =>
          obtain ⟨member, said⟩ := induction further other given
          exact ⟨List.mem_cons_of_mem _ member, replied_later (replied_back said)⟩

theorem collect_running_reads {errors : List CollectionError} {name : String}
    {sysmon : SysmonCollection} (member : name ∈ serviceNames)
    (traces : (collectRunning facts errors name).Traces history (.ok sysmon)) :
    sysmon.installed = some true ∧ sysmon.running = some true ∧
      ∀ bytes, sysmon.currentConfig = some bytes → Printed facts history bytes := by
  obtain ⟨paths, front, back, rfl, listing, further⟩ := Program.traces_bind_ok.mp traces
  obtain ⟨found, looking, rest, rfl, probed, further⟩ := Program.traces_bind_ok.mp further
  cases found with
  | none =>
      obtain ⟨_, same⟩ := further
      cases same
      exact ⟨rfl, rfl, nofun⟩
  | some executable =>
      obtain ⟨outcome, rest, rfl, _, same⟩ := traces_ask.mp further
      cases same
      cases outcome with
      | raised text => exact ⟨rfl, rfl, nofun⟩
      | completed returnCode stdout stderr =>
          unfold sysmonOutcome
          dsimp only
          split
          · exact ⟨rfl, rfl, nofun⟩
          · rename_i succeeded
            rw [not_not] at succeeded
            subst succeeded
            refine ⟨rfl, rfl, ?_⟩
            intro bytes given
            cases given
            obtain ⟨listed, there⟩ := first_file_reads probed executable rfl
            have path := executable_paths_reads member listing executable listed
            exact ⟨executable, stdout, stderr,
              ⟨path.mono (front_inside _ _), replied_back (replied_front there)⟩,
              replied_back (replied_back replied_first), rfl⟩

/-- The Sysmon state was read from the replies. -/
theorem collect_sysmon_reads {sysmon : SysmonCollection}
    (traces : (collectSysmon facts).Traces history (.ok sysmon)) :
    SysmonRead facts history sysmon := by
  unfold collectSysmon at traces
  split at traces
  · obtain ⟨_, same⟩ := traces
    cases same
    exact ⟨nofun, nofun, nofun⟩
  · rename_i windows
    obtain ⟨⟨errors, service⟩, front, back, rfl, searched, further⟩ :=
      Program.traces_bind_ok.mp traces
    obtain ⟨nowhere, somewhere⟩ := find_service_reads (not_not.mp windows) searched
    rcases service with _ | ⟨name, running⟩
    · dsimp only at further
      split at further
      · rename_i quiet
        obtain ⟨_, same⟩ := further
        cases same
        refine ⟨fun _ name member => ?_, nofun, nofun⟩
        exact (nowhere rfl quiet name member).mono (front_inside _ _)
      · obtain ⟨_, same⟩ := further
        cases same
        exact ⟨nofun, nofun, nofun⟩
    · dsimp only at further
      have status : ∀ state, running = some state → ∃ name ∈ serviceNames, ∃ current,
          ServiceIn (front ++ back) name current ∧ state = (current == serviceRunning) := by
        intro state given
        obtain ⟨member, current, inside, same⟩ := somewhere name state (by rw [given])
        exact ⟨name, member, current, inside.mono (front_inside _ _), same⟩
      split at further
      · obtain ⟨_, same⟩ := further
        cases same
        exact ⟨nofun, fun state _ given => status state given, nofun⟩
      · rename_i active
        rw [not_not] at active
        obtain ⟨known, _⟩ := somewhere name true (by rw [active])
        obtain ⟨installed, runs, printed⟩ := collect_running_reads known further
        refine ⟨?_, ?_, ?_⟩
        · intro absent
          rw [installed] at absent
          cases absent
        · intro state _ given
          rw [runs] at given
          cases given
          exact status true active
        · intro bytes given
          exact (printed bytes given).mono (back_inside _ _)

end Sysmon

end Sigmascope.Host
