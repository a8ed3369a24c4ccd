import Sigmascope.Api.Windows
import Sigmascope.Parse.AuditpolColumns

/-!
Parity of the two sources of the audit policy. A policy maps subcategories to
settings; the native path hands it over as a dictionary, the fallback prints it
as a table. Both decoders are compared through the pairs of key and state that
their gates carry.
-/

namespace Sigmascope

set_option autoImplicit false

open Sigmascope.Library Sigmascope.Library.PyText

inductive AuditState where
  | success
  | failure
  | both
deriving DecidableEq, Repr

namespace AuditState

def name : AuditState → String
  | .success => "success"
  | .failure => "failure"
  | .both => "both"

/-- The number that auditpol prints. -/
def number : AuditState → String
  | .success => "1"
  | .failure => "2"
  | .both => "3"

theorem setting_state_number (state : AuditState) :
    settingState state.number = (state.name, none) := by
  cases state <;> rfl

theorem number_setting (state : AuditState) : state.number ∈ settingValues := by
  cases state <;> decide

theorem name_known (state : AuditState) : state.name ≠ "unknown" := by
  cases state <;> decide

end AuditState

/-- A policy for subcategories that differ in more than letter case. -/
structure AuditPolicy where
  entries : List (String × AuditState)
  shaped : ∀ entry ∈ entries, isGuid entry.1.toList = true
  distinct : (entries.map fun entry => upperText entry.1).Nodup

def AuditPolicy.states (policy : AuditPolicy) : List (String × String) :=
  policy.entries.map fun entry => (entry.1, entry.2.name)

/-- A row that reports one subcategory: its GUID in some letter case, the number of its
setting in the last column, and no other cell that looks like a GUID. -/
structure DataRow (guidIndex lastIndex : Nat) (entry : String × AuditState) (row : Row) : Prop where
  width : row.length = lastIndex + 1
  guid : ∃ cell, row[guidIndex]? = some cell ∧ isGuidCell cell = true ∧
    upper (cellText cell) = upper entry.1.toList
  setting : ∃ cell, row[lastIndex]? = some cell ∧
    String.ofList (cellText cell) = entry.2.number
  plain : ∀ index cell, row[index]? = some cell → index ≠ guidIndex → index ≠ lastIndex →
    isGuidCell cell = false

/-- A report of a policy: header rows, and one data row for each subcategory. -/
structure ReportTable (policy : AuditPolicy) where
  headers : List Row
  data : List Row
  guidIndex : Nat
  lastIndex : Nat
  order : List (String × AuditState)
  headersPlain : ∀ row ∈ headers, ∀ cell ∈ row, isGuidCell cell = false
  complete : order.Perm policy.entries
  reported : List.Forall₂ (DataRow guidIndex lastIndex) order data

/-- Key and value of a gate. -/
def gatePair (gate : Gate) : String × GateValue := (gate.key, gate.value)

def policyPair (entry : String × AuditState) : String × GateValue :=
  (auditKey (upperText entry.1), .str entry.2.name)

theorem find_gate_lookup (parsed : ParseResult) (key : String) :
    (findGate parsed key).map Gate.value = (parsed.gates.map gatePair).lookup key := by
  unfold findGate
  induction parsed.gates with
  | nil => rfl
  | cons gate gates induction =>
      by_cases same : gate.key = key
      · simp [gatePair, same]
      · have apart : (key == gate.key) = false := by simpa using Ne.symm same
        have distinct : (gate.key == key) = false := by simpa using same
        rw [List.find?_cons, distinct, List.map_cons, gatePair, List.lookup_cons, apart]
        exact induction

section Table

variable {guidIndex lastIndex : Nat} {entry : String × AuditState} {row : Row}

theorem data_row_last_plain (shape : DataRow guidIndex lastIndex entry row) {cell : String}
    (last : row[lastIndex]? = some cell) : isGuidCell cell = false := by
  obtain ⟨held, present, number⟩ := shape.setting
  rw [present] at last
  cases last
  apply setting_not_guid
  rw [number]
  exact AuditState.number_setting entry.2

theorem data_row_index (shape : DataRow guidIndex lastIndex entry row) :
    guidIndex < lastIndex := by
  obtain ⟨cell, present, guid, _⟩ := shape.guid
  have inside : guidIndex < lastIndex + 1 := by
    rw [← shape.width]
    exact (List.getElem?_eq_some_iff.mp present).1
  have apart : guidIndex ≠ lastIndex := by
    intro same
    subst same
    rw [data_row_last_plain shape present] at guid
    cases guid
  omega

theorem data_row_guid_column (shape : DataRow guidIndex lastIndex entry row) :
    row.findIdx? isGuidCell = some guidIndex := by
  obtain ⟨cell, present, guid, _⟩ := shape.guid
  obtain ⟨inside, rfl⟩ := List.getElem?_eq_some_iff.mp present
  rw [List.findIdx?_eq_some_iff_getElem]
  refine ⟨inside, guid, ?_⟩
  intro index before
  have bound : index < row.length := by omega
  have held : row[index]? = some row[index] := List.getElem?_eq_getElem bound
  have order := data_row_index shape
  rw [shape.plain index row[index] held (by omega) (by omega)]
  decide

theorem data_row_setting_column (shape : DataRow guidIndex lastIndex entry row) :
    settingColumn row guidIndex = some lastIndex := by
  obtain ⟨cell, present, number⟩ := shape.setting
  have value : row.getD lastIndex "" = cell := by
    rw [List.getD_eq_getElem?_getD, present, Option.getD_some]
  have order := data_row_index shape
  have apart : (lastIndex != guidIndex) = true := by
    simp only [bne_iff_ne]
    omega
  have member : settingValues.contains entry.2.number = true :=
    List.contains_iff_mem.mpr (AuditState.number_setting entry.2)
  rw [settingColumn, shape.width, List.range_succ, List.reverse_append, List.reverse_singleton,
    List.singleton_append, List.find?_cons_of_pos]
  rw [value, number, apart, member]
  rfl

/-- The columns are found in the first data row, whatever the headers are. -/
theorem locate_columns_table {order : List (String × AuditState)} {headers data : List Row}
    (plain : ∀ row ∈ headers, ∀ cell ∈ row, isGuidCell cell = false)
    (reported : List.Forall₂ (DataRow guidIndex lastIndex) order data) (nonempty : order ≠ [])
    (rowIndex : Nat) :
    locateColumns none rowIndex (headers ++ data) =
      some ⟨rowIndex + headers.length, guidIndex, lastIndex⟩ := by
  have headersPlain : ∀ row ∈ headers, row.any isGuidCell = false := by
    intro row member
    apply List.any_eq_false.mpr
    intro cell inside
    rw [plain row member cell inside]
    exact Bool.false_ne_true
  rw [locate_columns_headers rowIndex headersPlain]
  cases reported with
  | nil => exact absurd rfl nonempty
  | cons shape _ =>
      simp only [locateColumns, data_row_guid_column shape, data_row_setting_column shape]
      rfl

/-- A data row yields the gate of its subcategory and no warning. -/
theorem read_data_row (sourceId : String) (firstDataIndex rowIndex : Nat)
    (shape : DataRow guidIndex lastIndex entry row) :
    ∃ gate, readAuditpolRow sourceId ⟨firstDataIndex, guidIndex, lastIndex⟩ row rowIndex =
        ([gate], []) ∧
      gatePair gate = policyPair entry := by
  have order := data_row_index shape
  have wide : ¬row.length ≤ max guidIndex lastIndex := by
    rw [shape.width]
    omega
  obtain ⟨guidCell, guidPresent, guid, sameGuid⟩ := shape.guid
  obtain ⟨settingCell, settingPresent, number⟩ := shape.setting
  have guidHeld : row.getD guidIndex "" = guidCell := by
    rw [List.getD_eq_getElem?_getD, guidPresent, Option.getD_some]
  have settingHeld : row.getD lastIndex "" = settingCell := by
    rw [List.getD_eq_getElem?_getD, settingPresent, Option.getD_some]
  have shaped : isGuid (cellText guidCell) = true := guid
  refine ⟨⟨"windows.audit." ++ canonicalGuid (cellText guidCell), .str entry.2.name,
    rowOrigin sourceId rowIndex⟩, ?_, ?_⟩
  · simp only [readAuditpolRow, if_neg wide, guidHeld, settingHeld, shaped, number,
      AuditState.setting_state_number, Bool.not_true, Bool.false_eq_true, if_false,
      Option.map_none, Option.toList_none]
  · rw [gatePair, policyPair, canonical_guid_eq shaped, sameGuid]
    rfl

theorem read_data_rows (sourceId : String) (firstDataIndex : Nat)
    {order : List (String × AuditState)} {data : List Row}
    (reported : List.Forall₂ (DataRow guidIndex lastIndex) order data) (start : Nat) :
    ((data.zipIdx start).flatMap fun numbered =>
        (readAuditpolRow sourceId ⟨firstDataIndex, guidIndex, lastIndex⟩ numbered.1
          numbered.2).1).map gatePair = order.map policyPair ∧
      ((data.zipIdx start).flatMap fun numbered =>
        (readAuditpolRow sourceId ⟨firstDataIndex, guidIndex, lastIndex⟩ numbered.1
          numbered.2).2) = [] := by
  induction reported generalizing start with
  | nil => exact ⟨rfl, rfl⟩
  | cons shape _ induction =>
      obtain ⟨gate, read, same⟩ := read_data_row sourceId firstDataIndex start shape
      have rest := induction (start + 1)
      constructor
      · rw [List.zipIdx_cons, List.flatMap_cons, List.map_append, read, rest.1]
        simp only [List.map_cons, List.map_nil, same, List.singleton_append]
      · rw [List.zipIdx_cons, List.flatMap_cons, read, rest.2]
        rfl

end Table

/-- The parser recovers the policy from each of its reports. -/
theorem parse_report_table {policy : AuditPolicy} (nonempty : policy.entries ≠ [])
    (table : ReportTable policy) (sourceId text : String) :
    (parseAuditpolRows sourceId text (table.headers ++ table.data)).gates.map gatePair =
        table.order.map policyPair ∧
      (parseAuditpolRows sourceId text (table.headers ++ table.data)).determinacy = .effective := by
  have ordered : table.order ≠ [] := by
    intro empty
    have complete := table.complete
    rw [empty, List.nil_perm] at complete
    exact nonempty complete
  have columns := locate_columns_table table.headersPlain table.reported ordered 0
  have rows := read_data_rows sourceId (0 + table.headers.length) table.reported
    (0 + table.headers.length + 1)
  simp only [parseAuditpolRows, columns, Nat.zero_add, List.drop_left] at rows ⊢
  simp only [List.flatMap_map]
  constructor
  · exact rows.1
  · rw [if_neg]
    intro either
    rcases either with warned | unknown
    · exact warned rows.2
    · obtain ⟨gate, member, value⟩ := List.any_eq_true.mp unknown
      have pair : gatePair gate ∈ table.order.map policyPair := by
        rw [← rows.1]
        exact List.mem_map_of_mem member
      obtain ⟨entry, _, same⟩ := List.mem_map.mp pair
      have name : GateValue.str entry.2.name = gate.value := congrArg Prod.snd same
      rw [← name, beq_iff_eq, GateValue.str.injEq] at value
      exact AuditState.name_known entry.2 value

theorem native_gates_pairs (policy : AuditPolicy) :
    (nativeGates policy.states).map gatePair = policy.entries.map policyPair := by
  simp only [nativeGates, AuditPolicy.states, List.map_map]
  rfl

theorem policy_keys_distinct (policy : AuditPolicy) :
    ((policy.entries.map policyPair).map Prod.fst).Nodup := by
  have keys : (policy.entries.map policyPair).map Prod.fst =
      (policy.entries.map fun entry => upperText entry.1).map auditKey := by
    simp only [List.map_map]
    rfl
  rw [keys]
  apply policy.distinct.map
  intro left right same
  exact (String.append_right_inj _).mp same

/-- The native path and the report of auditpol are judged alike. -/
theorem native_auditpol_agree (policy : AuditPolicy) (nonempty : policy.entries ≠ [])
    (table : ReportTable policy) (csvReader : String → List Row) (sourceId text : String)
    (recovers : csvReader text = table.headers ++ table.data)
    (collectNativePolicy : List String → NativeAuditPolicy)
    (collectCliPolicy : AuditpolCliCollection) (requirements : List Requirement)
    (native : collectNativePolicy (policyGuids requirements) = ⟨policy.states, none⟩)
    (provider : WindowsAuditProvider) (registry : ParseResult) (config : ChannelConfig) :
    (evaluateWindowsAudit provider
          (nativePolicyResult collectNativePolicy collectCliPolicy requirements).1
          registry config).1 =
        (evaluateWindowsAudit provider (parseAuditpolCsv csvReader sourceId text)
          registry config).1 ∧
      (evaluateWindowsAudit provider
          (nativePolicyResult collectNativePolicy collectCliPolicy requirements).1
          registry config).2.1 =
        (evaluateWindowsAudit provider (parseAuditpolCsv csvReader sourceId text)
          registry config).2.1 := by
  have report := parse_report_table nonempty table sourceId text
  rw [← recovers] at report
  have policyResult : (nativePolicyResult collectNativePolicy collectCliPolicy requirements).1 =
      { determinacy := .effective, gates := nativeGates policy.states } := by
    rw [nativePolicyResult, native]
  rw [policyResult]
  apply windows_audit_gate_value
  · exact report.2.symm
  · rw [find_gate_lookup, find_gate_lookup, parseAuditpolCsv, report.1, native_gates_pairs]
    exact Dict.lookup_perm (table.complete.symm.map policyPair) (policy_keys_distinct policy) _

def samplePolicy : AuditPolicy where
  entries :=
    [("\x7b0CCE922B-69AE-11D9-BED3-505054503030\x7d", .success),
      ("\x7b0CCE9226-69AE-11D9-BED3-505054503030\x7d", .both)]
  shaped := by decide
  distinct := by decide

def sampleReport : String :=
  "Host,Subcategory GUID,Value\n" ++
    "PC,\x7b0cce9226-69ae-11d9-bed3-505054503030\x7d,3\n" ++
    "PC,\x7b0CCE922B-69AE-11D9-BED3-505054503030\x7d,1\n"

def sampleTable : ReportTable samplePolicy where
  headers := [["Host", "Subcategory GUID", "Value"]]
  data :=
    [["PC", "\x7b0cce9226-69ae-11d9-bed3-505054503030\x7d", "3"],
      ["PC", "\x7b0CCE922B-69AE-11D9-BED3-505054503030\x7d", "1"]]
  guidIndex := 1
  lastIndex := 2
  order := samplePolicy.entries.reverse
  headersPlain := by decide
  complete := List.reverse_perm _
  reported := by
    have plain : ∀ guid setting : String, ∀ (index : Nat) (cell : String),
        ["PC", guid, setting][index]? = some cell → index ≠ 1 → index ≠ 2 →
          isGuidCell cell = false := by
      intro guid setting index cell held notGuid notSetting
      match index with
      | 0 =>
          cases held
          decide
      | 1 => exact absurd rfl notGuid
      | 2 => exact absurd rfl notSetting
      | index + 3 => cases held
    apply List.Forall₂.cons
    · exact ⟨rfl, ⟨_, rfl, by decide, by decide⟩, ⟨_, rfl, by decide⟩, plain _ _⟩
    · apply List.Forall₂.cons
      · exact ⟨rfl, ⟨_, rfl, by decide, by decide⟩, ⟨_, rfl, by decide⟩, plain _ _⟩
      · exact List.Forall₂.nil

def sampleProvider : WindowsAuditProvider where
  sourceId := "windows_security"
  subcategoryGuid := "\x7b0CCE922B-69AE-11D9-BED3-505054503030\x7d"
  requiredStates := ["success", "both"]
  channel := "Security"

theorem native_auditpol_agree_sample :
    (evaluateWindowsAudit sampleProvider
          (nativePolicyResult (fun _ => ⟨samplePolicy.states, none⟩) ⟨none, none⟩
            windowsMappings).1
          unreadResult ⟨some true, none⟩).1 =
        (evaluateWindowsAudit sampleProvider
          (parseAuditpolCsv splitCells "auditpol /r" sampleReport)
          unreadResult ⟨some true, none⟩).1 ∧
      (evaluateWindowsAudit sampleProvider
          (nativePolicyResult (fun _ => ⟨samplePolicy.states, none⟩) ⟨none, none⟩
            windowsMappings).1
          unreadResult ⟨some true, none⟩).2.1 =
        (evaluateWindowsAudit sampleProvider
          (parseAuditpolCsv splitCells "auditpol /r" sampleReport)
          unreadResult ⟨some true, none⟩).2.1 :=
  native_auditpol_agree samplePolicy (by decide) sampleTable splitCells "auditpol /r" sampleReport
    (by decide +kernel) (fun _ => ⟨samplePolicy.states, none⟩) ⟨none, none⟩ windowsMappings rfl
    _ _ _

end Sigmascope
