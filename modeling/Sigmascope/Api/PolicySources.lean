import Sigmascope.Api.HostFailures
import Sigmascope.Api.HostSafety
import Sigmascope.Api.PolicyParity

/-!
The two sources of the audit policy in a whole run. When the native query is refused, the run
goes on with the report of auditpol. On a host whose two sources hold the same settings this
changes what is judged only where a subcategory is not audited, which the report does not say.
-/

namespace Sigmascope

set_option autoImplicit false

open Sigmascope.Library Sigmascope.Library.PyText

section Table

/-- A table with a column of GUIDs and a column of setting values. The first row with a GUID
shows both: no GUID stands before its own, and no setting value behind its own. What stands in
front has no GUID; what follows is any row. -/
structure ColumnTable where
  front : List Row
  first : Row
  further : List Row
  guidIndex : Nat
  valueIndex : Nat
  plain : ∀ row ∈ front, ∀ cell ∈ row, isGuidCell cell = false
  columns : Anchor first guidIndex valueIndex

namespace ColumnTable

variable (table : ColumnTable)

def data : List Row := table.first :: table.further

def rows : List Row := table.front ++ table.data

/-- A row that reaches both columns, with the GUID in its column. -/
structure Reports (guid : String) (row : Row) : Prop where
  wide : max table.guidIndex table.valueIndex < row.length
  shaped : isGuidCell (row.getD table.guidIndex "") = true
  guid : String.ofList (upper (cellText (row.getD table.guidIndex ""))) = guid

/-- The value of the subcategory is the number, in each row that reports it. -/
structure Prints (guid number : String) : Prop where
  listed : ∃ row ∈ table.data, table.Reports guid row
  printed : ∀ row ∈ table.data, table.Reports guid row → cellAt row table.valueIndex = number

variable {table} {guid number : String}

theorem located :
    locateColumns none 0 table.rows =
      some ⟨table.front.length, table.guidIndex, table.valueIndex⟩ := by
  have plain : ∀ row ∈ table.front, row.any isGuidCell = false := by
    intro row member
    apply List.any_eq_false.mpr
    intro cell inside
    rw [table.plain row member cell inside]
    exact Bool.false_ne_true
  obtain ⟨shaped, value⟩ := (anchor_iff _ _ _).mp table.columns
  rw [rows, data, locate_columns_headers 0 plain, locateColumns, shaped]
  simp only [value, Option.getD_none, Nat.zero_add]

theorem reports_on_iff (first : Nat) (row : Row) :
    reportsOn ⟨first, table.guidIndex, table.valueIndex⟩ guid row = true ↔
      table.Reports guid row := by
  rw [reportsOn, Bool.and_eq_true, Bool.and_eq_true, Bool.not_eq_true', decide_eq_false_iff_not,
    beq_iff_eq, Nat.not_le]
  constructor
  · rintro ⟨wide, shaped, same⟩
    exact ⟨wide, shaped, by rw [← same, canonical_guid_eq shaped]⟩
  · intro reports
    exact ⟨reports.wide, reports.shaped, by rw [canonical_guid_eq reports.shaped, reports.guid]⟩

theorem prints_of_rows
    (listed : table.data.any (reportsOn ⟨0, table.guidIndex, table.valueIndex⟩ guid) = true)
    (printed : (table.data.all fun row =>
      !reportsOn ⟨0, table.guidIndex, table.valueIndex⟩ guid row ||
        cellAt row table.valueIndex == number) = true) : table.Prints guid number := by
  constructor
  · obtain ⟨row, member, reports⟩ := List.any_eq_true.mp listed
    exact ⟨row, member, (reports_on_iff 0 row).mp reports⟩
  · intro row member reports
    have own := List.all_eq_true.mp printed row member
    rw [(reports_on_iff 0 row).mpr reports, Bool.not_true, Bool.false_or, beq_iff_eq] at own
    exact own

/-- The parser reads the number that the table prints. -/
theorem Prints.setting_cell (prints : table.Prints guid number) :
    settingCell table.rows guid = some number := by
  rw [settingCell, located, Option.bind_some]
  dsimp only
  rw [rows, List.drop_left]
  obtain ⟨row, member, reports⟩ := prints.listed
  obtain ⟨found, first⟩ := Option.isSome_iff_exists.mp
    (List.find?_isSome.mpr ⟨row, member, (reports_on_iff table.front.length row).mpr reports⟩)
  have own := (reports_on_iff _ _).mp (List.find?_some first)
  rw [first, Option.map_some]
  exact congrArg some (prints.printed found (List.mem_of_find?_eq_some first) own)

end ColumnTable

end Table

namespace Host

section Runs

variable {facts : HostFacts} {answers other : (query : HostCall) → HostReply query}
  {extra : List CollectionError}

/-- The second run has some errors more at the front, and perhaps some diagnostics. -/
structure ResultParity (lost : Provider → Prop) (requirements : List Requirement)
    (extra : List CollectionError) (first second : RunResult) : Prop where
  findings : FindingsParity lost requirements first.findings second.findings
  errors : second.errors = extra ++ first.errors
  diagnostics : first.diagnostics <:+ second.diagnostics

/-- The hosts differ in the policy query at most. -/
def AgreeBeside (answers other : (query : HostCall) → HostReply query) : Prop :=
  ∀ query, policyCall query = false → answers query = other query

theorem agree_value {Value : Type} {program : HostProgram Value}
    (agree : AgreeBeside answers other) (tidy : Tidy unprivileged [] program) :
    program.value answers = program.value other := by
  apply Discipline.balanced_value _ tidy
  intro call permitted
  change unprivileged call = true at permitted
  rw [unprivileged, Bool.and_eq_true, Bool.not_eq_true'] at permitted
  exact agree call permitted.2

theorem run_windows_parity {requirements : List Requirement}
    {setting : String → Option AuditState} {first second : ParseResult}
    {errors : List CollectionError} (agree : AgreeBeside answers other)
    (one : (nativePolicyResult facts requirements).value answers = .ok (first, errors))
    (two : (nativePolicyResult facts requirements).value other = .ok (second, extra ++ errors))
    (quiet : first.diagnostics = [])
    (holds : ∀ requirement ∈ requirements, ∀ audit, .windowsAudit audit ∈ requirement.providers →
      CatalogueShape audit ∧
        HoldsSetting (setting (upperText audit.subcategoryGuid)) first second audit) :
    Program.Related (ResultParity (Lost facts answers setting) requirements extra)
      ((runWindows facts requirements).value answers)
      ((runWindows facts requirements).value other) := by
  unfold runWindows
  rw [Program.value_bind, Program.value_bind, one, two]
  have rest := agree_value agree
    (@windows_rest_tidy facts _ grants_unprivileged command_unprivileged requirements
      (second, extra ++ errors))
  dsimp only [Except.bind] at rest ⊢
  rw [← rest, Program.value_bind, Program.value_bind]
  apply Program.related_bind (Program.related_self _)
  rintro registry _ rfl
  rw [Program.value_bind, Program.value_bind]
  apply Program.related_bind (Program.related_self _)
  rintro sysmon _ rfl
  rw [Program.value_bind, Program.value_bind]
  apply Program.related_bind (Program.related_self _)
  rintro parsed _ rfl
  rw [Program.value_bind, Program.value_bind]
  have tables : TableAlike facts answers extra ⟨Dict.empty, errors ++ sysmon.errors⟩
      ⟨Dict.empty, extra ++ errors ++ sysmon.errors⟩ :=
    ⟨rfl, List.append_assoc extra errors sysmon.errors, nofun⟩
  apply Program.related_bind
    (@windows_findings_parity facts answers setting ⟨first, registry, sysmon, parsed⟩ second extra
      requirements holds _ _ tables)
  rintro ⟨findings, last⟩ ⟨judged, final⟩ ⟨parity, ends⟩
  refine .ok ⟨parity, ends.errors, ?_⟩
  dsimp only
  rw [quiet, List.nil_append, List.append_assoc]
  exact List.suffix_append _ _

end Runs

section Sources

/-- The flags of the native interface for a setting, or for no auditing. -/
def flags : Option AuditState → UInt32
  | some .success => 1
  | some .failure => 2
  | some .both => 3
  | none => 4

/-- The number that auditpol prints for a setting, or for no auditing. -/
def printedNumber : Option AuditState → String
  | some state => state.number
  | none => "0"

theorem policy_state_flags (setting : Option AuditState) :
    policyState (flags setting).toNat = nativeName setting := by
  rcases setting with _ | _ | _ | _ <;> rfl

theorem setting_state_printed (setting : Option AuditState) :
    (settingState (printedNumber setting)).1 = reportName setting := by
  rcases setting with _ | _ | _ | _ <;> rfl

/-- A Windows host holds its audit policy twice: in the buffer of the native interface, and in a
report that auditpol writes in the format of CSV, in whatever spelling, as a table that prints
each subcategory of the catalogue. -/
structure HoldsPolicy (facts : HostFacts) (answers : (query : HostCall) → HostReply query)
    (setting : String → Option AuditState) : Prop where
  system : String.ofList (lower facts.system.toList) = "windows"
  platform : facts.sysPlatform = "win32"
  libraries : ∀ name ∈ ["advapi32", "kernel32"], answers (.loadLibrary name) = .ok ()
  buffer : ∀ guids, guidArray (policyGuids windowsMappings) = .ok guids →
    ∃ address, answers (.auditQuerySystemPolicy guids) = .ok address ∧ address ≠ 0 ∧
      ∀ index, (inside : index < guids.length) → answers (.readAuditEntry address index) =
        ⟨guids[index], flags (setting guids[index].asString)⟩
  report : ∃ stdout stderr lines,
    answers (.run auditpolCommand) = .completed 0 stdout stderr ∧
    facts.decodeOem stdout = String.ofList (Csv.render lines) ∧
    (∀ line ∈ lines, Csv.Line.Writable line) ∧
    ∃ table : ColumnTable, lines.map (fun line => line.row.map String.ofList) = table.rows ∧
      ∀ audit, .windowsAudit audit ∈ windowsMappings.flatMap Requirement.providers →
        table.Prints (upperText audit.subcategoryGuid)
          (printedNumber (setting (upperText audit.subcategoryGuid)))

/-- The host refuses the native query, and answers everything else as before. -/
def refusing (answers : (query : HostCall) → HostReply query) (code : Int) :
    (query : HostCall) → HostReply query
  | .auditQuerySystemPolicy _ => .error code
  | query => answers query

variable {facts : HostFacts} {answers : (query : HostCall) → HostReply query}
  {setting : String → Option AuditState}

theorem refusing_agrees (answers : (query : HostCall) → HostReply query) (code : Int) :
    AgreeBeside answers (refusing answers code) := by
  intro query other
  cases query <;> first | rfl | cases other

theorem mem_policy_guids {requirements : List Requirement} {audit : WindowsAuditProvider}
    (member : .windowsAudit audit ∈ requirements.flatMap Requirement.providers) :
    audit.subcategoryGuid ∈ policyGuids requirements := by
  obtain ⟨requirement, mapped, offered⟩ := List.mem_flatMap.mp member
  rw [policyGuids, sortedSet, (List.perm_insertionSort _ _).mem_iff, List.mem_dedup,
    List.mem_flatMap]
  exact ⟨requirement, mapped, List.mem_filterMap.mpr ⟨_, offered, rfl⟩⟩

theorem catalogue_asked : policyGuids windowsMappings ≠ [] := by
  apply List.ne_nil_of_mem
  apply mem_policy_guids
  simp only [windowsMappings, windowsProcessCreation, List.flatMap_cons, List.cons_append]
  exact List.mem_cons_self

theorem value_ask (query : HostCall) : (ask query).value answers = .ok (answers query) := rfl

theorem release_value (query : HostCall) : (release query).value answers = .ok () := rfl

theorem libraries_value (platform : facts.sysPlatform = "win32")
    (loads : ∀ name ∈ ["advapi32", "kernel32"], answers (.loadLibrary name) = .ok ()) :
    (libraries facts).value answers = .ok () := by
  rw [libraries, if_neg (not_not.mpr platform)]
  change ((raiseOsError (answers (.loadLibrary "advapi32"))) >>= fun _ =>
    ask (.loadLibrary "kernel32") >>= raiseOsError).value answers = .ok ()
  rw [Program.value_bind, loads _ List.mem_cons_self]
  change (raiseOsError (answers (.loadLibrary "kernel32"))).value answers = .ok ()
  rw [loads _ (List.mem_cons_of_mem _ List.mem_cons_self)]
  rfl

theorem read_entries_value (address : Nat) (indices : List Nat) :
    (readEntries address indices).value answers =
      .ok (indices.map fun index => answers (.readAuditEntry address index)) := by
  induction indices with
  | nil => rfl
  | cons index indices induction =>
      change ((readEntries address indices >>= fun entries =>
        pure (answers (.readAuditEntry address index) :: entries)).value answers) = _
      rw [Program.value_bind, induction]
      rfl

/-- The buffer is read entry by entry. -/
theorem read_buffer_value {address : Nat} (held : address ≠ 0) {guids : List Guid}
    (entries : ∀ index, (inside : index < guids.length) →
      answers (.readAuditEntry address index) =
        ⟨guids[index], flags (setting guids[index].asString)⟩) :
    (readBuffer address guids.length).value answers =
      .ok (policyStates (guids.map fun guid => ⟨guid, flags (setting guid.asString)⟩)) := by
  have memory : ((List.range guids.length).map fun index =>
      answers (.readAuditEntry address index)) =
        guids.map fun guid => ⟨guid, flags (setting guid.asString)⟩ := by
    apply List.ext_getElem
    · rw [List.length_map, List.length_map, List.length_range]
    · intro index _ inside
      rw [List.length_map] at inside
      rw [List.getElem_map, List.getElem_map, List.getElem_range, entries index inside]
  rw [readBuffer, if_neg fun null => held null.1, Program.value_bind, read_entries_value, memory]
  rfl

/-- The native path hands over the states of the buffer. -/
theorem native_policy_value (holds : HoldsPolicy facts answers setting) {guids : List Guid}
    (shaped : guidArray (policyGuids windowsMappings) = .ok guids) :
    (nativePolicyResult facts windowsMappings).value answers =
      .ok ({ determinacy := .effective
             gates := nativeGates (policyStates (guids.map fun guid =>
               ⟨guid, flags (setting guid.asString)⟩)).items }, []) := by
  obtain ⟨address, answered, held, entries⟩ := holds.buffer guids shaped
  have once : (queryOnce guids).value answers =
      .ok (policyStates (guids.map fun guid => ⟨guid, flags (setting guid.asString)⟩)) := by
    rw [queryOnce, Program.value_bind, value_ask, answered]
    dsimp only [Except.bind]
    rw [if_neg held, Program.value_ensuring, release_value, read_buffer_value held entries]
    rfl
  have first : (firstQuery guids).value answers =
      .ok (some (policyStates (guids.map fun guid => ⟨guid, flags (setting guid.asString)⟩))) := by
    rw [firstQuery, catchingOsError, Program.value_catching]
    change (Except.tryCatch ((queryOnce guids >>= fun states => pure (some states)).value answers)
      _) = _
    rw [Program.value_bind, once]
    rfl
  have queried : (querySystemPolicy facts (policyGuids windowsMappings)).value answers =
      .ok (policyStates (guids.map fun guid => ⟨guid, flags (setting guid.asString)⟩)) := by
    rw [querySystemPolicy, if_neg catalogue_asked, Program.value_bind,
      libraries_value holds.platform holds.libraries]
    dsimp only [Except.bind]
    rw [Program.value_bind, Program.value_of_except, shaped]
    dsimp only [Except.mapError, Except.bind]
    rw [Program.value_bind, first]
    rfl
  rw [nativePolicyResult, Program.value_bind, collectNativePolicy, catchingOsError,
    Program.value_catching, Program.value_bind, queried]
  rfl

/-- A refused query ends with an error of the operating system, whatever comes of the attempt to
enable the privilege. -/
theorem refused_query_value (platform : facts.sysPlatform = "win32")
    (loads : ∀ name ∈ ["advapi32", "kernel32"], answers (.loadLibrary name) = .ok ())
    {subcategoryGuids : List String}
    (asked : subcategoryGuids ≠ []) {guids : List Guid}
    (shaped : guidArray subcategoryGuids = .ok guids) (code : Int) :
    ∃ error, (querySystemPolicy facts subcategoryGuids).value (refusing answers code) =
      .error (.osError error) := by
  have loaded : (libraries facts).value (refusing answers code) = .ok () :=
    libraries_value platform loads
  have once : ∃ error, error.code = some code ∧
      (queryOnce guids).value (refusing answers code) = .error (.osError error) :=
    ⟨_, rfl, rfl⟩
  obtain ⟨error, coded, once⟩ := once
  rw [querySystemPolicy, if_neg asked, Program.value_bind, loaded]
  dsimp only [Except.bind]
  rw [Program.value_bind, Program.value_of_except, shaped]
  dsimp only [Except.mapError, Except.bind]
  rw [Program.value_bind, firstQuery, catchingOsError, Program.value_catching]
  change ∃ raised, (Except.tryCatch
    ((queryOnce guids >>= fun states => pure (some states)).value _) _).bind _ =
      .error (.osError raised)
  rw [Program.value_bind, once]
  dsimp only [Except.bind, Except.tryCatch]
  by_cases denied : error.code ≠ some errorAccessDenied
  · rw [if_pos denied]
    exact ⟨error, rfl⟩
  · rw [if_neg denied]
    change ∃ raised, (enableSecurityPrivilege >>= fun _ => queryOnce guids).value _ =
      .error (.osError raised)
    rw [Program.value_bind]
    obtain ⟨events, traces, _⟩ :=
      @Program.value_traces _ _ _ (refusing answers code) enableSecurityPrivilege
    cases enabled : enableSecurityPrivilege.value (refusing answers code) with
    | error failure =>
        rw [enabled] at traces
        obtain ⟨raised, rfl⟩ := enable_security_privilege_raises traces
        exact ⟨raised, rfl⟩
    | ok _ => exact ⟨error, once⟩

/-- Behind a refused query the run goes on with the report. -/
theorem refused_policy_value (holds : HoldsPolicy facts answers setting) {guids : List Guid}
    (shaped : guidArray (policyGuids windowsMappings) = .ok guids) (code : Int) :
    ∃ policy error, error.sourceId = "windows.audit_policy" ∧
      (nativePolicyResult facts windowsMappings).value (refusing answers code) =
        .ok (policy, [error]) ∧
      ∀ audit, .windowsAudit audit ∈ windowsMappings.flatMap Requirement.providers →
        (findGate policy (auditKey (upperText audit.subcategoryGuid))).map Gate.value =
          some (.str (reportName (setting (upperText audit.subcategoryGuid)))) := by
  obtain ⟨stdout, stderr, lines, printed, written, writable, table, rows, prints⟩ := holds.report
  obtain ⟨refused, queried⟩ :=
    @refused_query_value facts answers holds.platform holds.libraries _ catalogue_asked _ shaped
      code
  have parsed := parse_auditpol_written facts.acceptsNul "auditpol /r" writable written
  rw [rows] at parsed
  let policy := parseAuditpolRows "auditpol /r" (facts.decodeOem stdout) table.rows
  have cli : (collectCliPolicy facts).value (refusing answers code) =
      .ok ⟨some policy, none⟩ := by
    rw [collectCliPolicy, if_neg (not_not.mpr holds.platform), Program.value_bind, value_ask]
    change (Program.ofExcept (cliPolicy facts (answers (.run auditpolCommand)))).value _ = _
    rw [Program.value_of_except, printed, cliPolicy]
    dsimp only
    rw [if_neg (by decide), parsed]
    rfl
  refine ⟨policy, ⟨"windows.audit_policy", refused.text, "AuditQuerySystemPolicy"⟩, rfl, ?_, ?_⟩
  · rw [nativePolicyResult, Program.value_bind, collectNativePolicy, catchingOsError,
      Program.value_catching, Program.value_bind, queried]
    change (collectCliPolicy facts >>= _).value _ = _
    rw [Program.value_bind, cli]
    rfl
  · intro audit member
    rw [find_table_gate, (prints audit member).setting_cell, Option.map_some,
      setting_state_printed]

end Sources

section Parity

/-- The report of the second run has one error more, about the policy, at the front of its errors,
and perhaps some diagnostics more. -/
structure ReportParity (lost : Provider → Prop) (first second : Report) : Prop where
  generatedUtc : second.generatedUtc = first.generatedUtc
  host : second.host = first.host
  findings : FindingsParity lost windowsMappings first.findings second.findings
  errors : ∃ error : CollectionError, error.sourceId = "windows.audit_policy" ∧
    second.collectionErrors = error :: first.collectionErrors
  diagnostics : first.diagnostics <:+ second.diagnostics

variable {facts : HostFacts} {answers : (query : HostCall) → HostReply query}
  {setting : String → Option AuditState}

/-- The interface spells the subcategories of the catalogue as the catalogue does. -/
theorem catalogue_spelled {guids : List Guid}
    (shaped : guidArray (policyGuids windowsMappings) = .ok guids) :
    guids.map Guid.asString = (policyGuids windowsMappings).map upperText := by
  have spelled : (guidArray (policyGuids windowsMappings)).toOption.map
      (fun guids => guids.map Guid.asString) =
        some ((policyGuids windowsMappings).map upperText) := by decide +kernel
  rw [shaped] at spelled
  exact Option.some.inj spelled

theorem native_policy_gate {guids : List Guid}
    (shaped : guidArray (policyGuids windowsMappings) = .ok guids) {audit : WindowsAuditProvider}
    (member : .windowsAudit audit ∈ windowsMappings.flatMap Requirement.providers) :
    (findGate
        { determinacy := .effective
          gates := nativeGates (policyStates (guids.map fun guid =>
            ⟨guid, flags (setting guid.asString)⟩)).items }
        (auditKey (upperText audit.subcategoryGuid))).map Gate.value =
      some (.str (nativeName (setting (upperText audit.subcategoryGuid)))) := by
  have listed : upperText audit.subcategoryGuid ∈ guids.map Guid.asString := by
    rw [catalogue_spelled shaped]
    exact List.mem_map_of_mem (mem_policy_guids member)
  obtain ⟨guid, inside, same⟩ := List.mem_map.mp listed
  have held : (policyStates (guids.map fun guid =>
      ⟨guid, flags (setting guid.asString)⟩)).get? (upperText audit.subcategoryGuid) =
        some (nativeName (setting (upperText audit.subcategoryGuid))) := by
    rw [policyStates, List.map_map]
    apply Dict.get_assign_all_constant
    · exact ⟨_, List.mem_map_of_mem inside, same⟩
    · intro pair paired key
      obtain ⟨other, _, rfl⟩ := List.mem_map.mp paired
      rw [← key]
      exact policy_state_flags _
  rw [find_gate_lookup, lookup_native_gates (policy_states_spelled _)]
  exact congrArg (Option.map GateValue.str) held

/-- The audit providers among the alternatives of the requirements. -/
def auditProviders (requirements : List Requirement) : List WindowsAuditProvider :=
  (requirements.flatMap Requirement.providers).filterMap fun provider =>
    match provider with
    | .windowsAudit audit => some audit
    | _ => none

theorem mem_audit_providers {requirements : List Requirement} {audit : WindowsAuditProvider}
    (member : .windowsAudit audit ∈ requirements.flatMap Requirement.providers) :
    audit ∈ auditProviders requirements :=
  List.mem_filterMap.mpr ⟨_, member, rfl⟩

theorem catalogue_shape {audit : WindowsAuditProvider}
    (member : .windowsAudit audit ∈ windowsMappings.flatMap Requirement.providers) :
    CatalogueShape audit := by
  have all : ∀ audit ∈ auditProviders windowsMappings, CatalogueShape audit := by decide +kernel
  exact all audit (mem_audit_providers member)

/-- When the native query is refused on a host whose two sources hold one policy, a provider is
judged as before, but where its subcategory is not audited behind an open channel: that known gap
becomes an open question. -/
theorem refused_query_parity (holds : HoldsPolicy facts answers setting) (code : Int) :
    Program.Related (ReportParity (Lost facts answers setting))
      (Program.run (Program.steady answers) [] (run facts false)).1
      (Program.run (Program.steady (refusing answers code)) [] (run facts false)).1 := by
  obtain ⟨guids, shaped⟩ := mapped_guids_shaped
  obtain ⟨policy, error, about, refused, gates⟩ := refused_policy_value holds shaped code
  have agree := refusing_agrees answers code
  have same : ∀ requirement ∈ windowsMappings, ∀ audit,
      .windowsAudit audit ∈ requirement.providers → CatalogueShape audit ∧
        HoldsSetting (setting (upperText audit.subcategoryGuid))
          { determinacy := .effective
            gates := nativeGates (policyStates (guids.map fun guid =>
              ⟨guid, flags (setting guid.asString)⟩)).items }
          policy audit := by
    intro requirement mapped audit offered
    have member := List.mem_flatMap.mpr ⟨requirement, mapped, offered⟩
    exact ⟨catalogue_shape member, @native_policy_gate setting guids shaped audit member,
      gates audit member⟩
  have system : ∀ identity : HostIdentity, identity.os = "windows" →
      Program.Related (ResultParity (Lost facts answers setting) windowsMappings [error])
        ((runSystem facts identity).value answers)
        ((runSystem facts identity).value (refusing answers code)) := by
    intro identity windows
    have catalogue : mappingsByOs identity.os = windowsMappings := by
      rw [windows, mappingsByOs, if_pos rfl]
    rw [runSystem, catalogue, if_neg (by rw [windows]; decide), if_pos windows]
    exact run_windows_parity agree (native_policy_value holds shaped) refused rfl same
  have hosts : (host facts).value answers = (host facts).value (refusing answers code) :=
    agree_value agree (host_tidy grants_unprivileged)
  rw [Program.run_steady, Program.run_steady]
  change Program.Related _ ((host facts >>= _).value answers)
    ((host facts >>= _).value (refusing answers code))
  rw [Program.value_bind, Program.value_bind, ← hosts]
  obtain ⟨events, traces, _⟩ := @Program.value_traces _ _ _ answers (host facts)
  cases named : (host facts).value answers with
  | error raised => exact .error raised
  | ok identity =>
      rw [named] at traces
      have windows := (host_traces traces).1.trans holds.system
      dsimp only [Except.bind]
      rw [Program.value_bind, Program.value_bind]
      apply Program.related_bind (system identity windows)
      intro first second alike
      exact .ok ⟨rfl, rfl, alike.findings, ⟨error, about, alike.errors⟩, alike.diagnostics⟩

/-- A line of auditpol. -/
def reportLine (texts : List String) : Csv.Line :=
  ⟨texts.map fun text => ⟨text.toList, false⟩, ['\r', '\n']⟩

def networkGuid : String := "\x7b0CCE9226-69AE-11D9-BED3-505054503030\x7d"

/-- Connections are not audited. -/
def auditedSetting (guid : String) : Option AuditState :=
  if guid = networkGuid then none else some .both

def reportFirst : Row := ["PC", "\x7b0CCE921D-69AE-11D9-BED3-505054503030\x7d", "3", ""]

def reportFurther : List Row :=
  [["PC", "\x7b0cce9226-69ae-11d9-bed3-505054503030\x7d", "0", ""],
    ["PC", "", "", ""],
    ["PC", "\x7b0CCE922B-69AE-11D9-BED3-505054503030\x7d", "3", ""]]

def reportTable : ColumnTable where
  front := [["Machine Name", "Subcategory GUID", "Setting Value", "Remark"]]
  first := reportFirst
  further := reportFurther
  guidIndex := 1
  valueIndex := 2
  plain := by decide
  columns := (anchor_iff _ _ _).mpr (by decide)

/-- A Windows host that audits all but connections. -/
def auditingAnswers : (query : HostCall) → HostReply query
  | .loadLibrary _ => .ok ()
  | .auditQuerySystemPolicy _ => .ok 1
  | .readAuditEntry _ index =>
      let guid := (((guidArray (policyGuids windowsMappings)).toOption.getD []).getD index
        processCreationGuid)
      ⟨guid, flags (auditedSetting guid.asString)⟩
  | .run _ => .completed 0
      ((Csv.render (reportTable.rows.map reportLine)).map fun char => char.toNat.toUInt8) []
  | .evtOpenChannelConfig _ => .ok 1
  | .evtGetChannelConfigProperty _ _ => .ok 1
  | query => bareHost [] query

theorem report_line_writable {texts : List String} (several : 1 < texts.length)
    (plain : (texts.all fun text => decide (text.toList.length ≤ Csv.fieldSizeLimit) &&
      text.toList.all fun char => !Csv.Cell.special.contains char) = true) :
    (reportLine texts).Writable := by
  constructor
  · intro cell member
    obtain ⟨text, inside, rfl⟩ := List.mem_map.mp member
    have own := List.all_eq_true.mp plain text inside
    rw [Bool.and_eq_true, decide_eq_true_eq] at own
    exact Csv.Cell.writable_plain own.1 own.2
  · exact Or.inr rfl
  · intro cell alone
    have count := congrArg List.length alone
    rw [reportLine, List.length_map] at count
    exact absurd count (Nat.ne_of_gt several)

theorem report_lines_writable : ∀ line ∈ reportTable.rows.map reportLine,
    Csv.Line.Writable line := by
  intro line member
  obtain ⟨row, inside, rfl⟩ := List.mem_map.mp member
  have several : ∀ row ∈ reportTable.rows, 1 < row.length := by decide
  have plain : (reportTable.rows.all fun row => row.all fun text =>
      decide (text.toList.length ≤ Csv.fieldSizeLimit) &&
        text.toList.all fun char => !Csv.Cell.special.contains char) = true := by
    decide +kernel
  exact report_line_writable (several row inside) (List.all_eq_true.mp plain row inside)

theorem report_line_row (row : Row) : (reportLine row).row.map String.ofList = row := by
  rw [reportLine, Csv.Line.row, List.map_map, List.map_map]
  apply List.map_id''
  intro text
  exact String.ofList_toList

theorem report_table_checked : ∀ audit ∈ auditProviders windowsMappings,
    reportTable.data.any (reportsOn ⟨0, 1, 2⟩ (upperText audit.subcategoryGuid)) = true ∧
      (reportTable.data.all fun row =>
        !reportsOn ⟨0, 1, 2⟩ (upperText audit.subcategoryGuid) row ||
          cellAt row 2 == printedNumber (auditedSetting (upperText audit.subcategoryGuid))) =
        true := by
  decide +kernel

theorem auditing_holds : HoldsPolicy windowsFacts auditingAnswers auditedSetting := by
  constructor
  · rfl
  · rfl
  · exact fun _ _ => rfl
  · intro guids shaped
    refine ⟨1, rfl, Nat.one_ne_zero, ?_⟩
    intro index inside
    have entry : ((guidArray (policyGuids windowsMappings)).toOption.getD []).getD index
        processCreationGuid = guids[index] := by
      rw [shaped]
      exact List.getD_eq_getElem _ _ inside
    rw [← entry]
    rfl
  · refine ⟨_, _, reportTable.rows.map reportLine, rfl, ?_, report_lines_writable, reportTable,
      ?_, ?_⟩
    · decide +kernel
    · rw [List.map_map]
      exact List.map_id'' report_line_row _
    · intro audit member
      obtain ⟨listed, printed⟩ := report_table_checked audit (mem_audit_providers member)
      exact ColumnTable.prints_of_rows listed printed

/-- Connections are lost there. -/
theorem refused_query_parity_auditing :
    (∃ provider ∈ windowsNetworkConnection.providers,
      Lost windowsFacts auditingAnswers auditedSetting provider) ∧
    Program.Related (ReportParity (Lost windowsFacts auditingAnswers auditedSetting))
      (Program.run (Program.steady auditingAnswers) [] (run windowsFacts false)).1
      (Program.run (Program.steady (refusing auditingAnswers 5)) [] (run windowsFacts false)).1 :=
  ⟨⟨_, List.mem_cons_self, by decide +kernel, ⟨some true, none⟩, rfl, rfl, rfl⟩,
    refused_query_parity auditing_holds 5⟩

end Parity

end Host

end Sigmascope
