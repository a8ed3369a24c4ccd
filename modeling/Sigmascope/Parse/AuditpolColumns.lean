import Mathlib.Data.List.GetD
import Sigmascope.Parse.AuditpolCsv

/-!
How the report parser finds its two columns. The first row that has a GUID-shaped cell and
a setting value elsewhere is the anchor: its columns are applied to every row, wherever
those have their own GUID and setting.
-/

namespace Sigmascope

set_option autoImplicit false

open Sigmascope.Library Sigmascope.Library.PyText

/-- A cell that holds a setting value. -/
def isSettingCell (cell : String) : Bool :=
  settingValues.contains (String.ofList (cellText cell))

/-- The row fixes the columns: its first GUID-shaped cell, and its last setting value besides. -/
structure Anchor (row : Row) (guidIndex settingIndex : Nat) : Prop where
  guidInside : guidIndex < row.length
  guid : isGuidCell (row.getD guidIndex "") = true
  guidFirst : ∀ index < guidIndex, isGuidCell (row.getD index "") = false
  settingInside : settingIndex < row.length
  apart : settingIndex ≠ guidIndex
  setting : isSettingCell (row.getD settingIndex "") = true
  settingLast : ∀ index, settingIndex < index → index < row.length → index ≠ guidIndex →
    isSettingCell (row.getD index "") = false

/-- Looking from the end of a range, the last index with a property is found. -/
theorem find_reverse_range_iff (select : Nat → Bool) (length found : Nat) :
    (List.range length).reverse.find? select = some found ↔
      found < length ∧ select found = true ∧
        ∀ index, found < index → index < length → select index = false := by
  induction length with
  | zero => simp
  | succ length induction =>
      rw [List.range_succ, List.reverse_append, List.reverse_singleton, List.singleton_append,
        List.find?_cons]
      cases last : select length with
      | true =>
          constructor
          · intro same
            cases same
            refine ⟨Nat.lt_succ_self _, last, ?_⟩
            intro index above below
            omega
          · intro given
            rcases given with ⟨inside, _, none⟩
            by_contra different
            have above : found < length := by
              have apart : length ≠ found := fun same => different (congrArg some same)
              omega
            rw [none length above (Nat.lt_succ_self _)] at last
            cases last
      | false =>
          rw [induction]
          constructor
          · intro given
            rcases given with ⟨inside, selected, none⟩
            refine ⟨by omega, selected, ?_⟩
            intro index above below
            by_cases here : index = length
            · rw [here, last]
            · exact none index above (by omega)
          · intro given
            rcases given with ⟨inside, selected, none⟩
            have apart : found ≠ length := by
              intro same
              rw [same, last] at selected
              cases selected
            exact ⟨by omega, selected, fun index above below => none index above (by omega)⟩

theorem guid_column_iff (row : Row) (guidIndex : Nat) :
    row.findIdx? isGuidCell = some guidIndex ↔
      guidIndex < row.length ∧ isGuidCell (row.getD guidIndex "") = true ∧
        ∀ index < guidIndex, isGuidCell (row.getD index "") = false := by
  rw [List.findIdx?_eq_some_iff_getElem]
  constructor
  · intro given
    rcases given with ⟨inside, guid, first⟩
    refine ⟨inside, ?_, ?_⟩
    · rwa [List.getD_eq_getElem _ _ inside]
    · intro index before
      rw [List.getD_eq_getElem _ _ (by omega)]
      simpa using first index before
  · intro given
    rcases given with ⟨inside, guid, first⟩
    refine ⟨inside, ?_, ?_⟩
    · rwa [List.getD_eq_getElem _ _ inside] at guid
    · intro index before
      have free := first index before
      rw [List.getD_eq_getElem _ _ (by omega)] at free
      simp [free]

theorem setting_column_iff (row : Row) (guidIndex settingIndex : Nat) :
    settingColumn row guidIndex = some settingIndex ↔
      settingIndex < row.length ∧
        (settingIndex ≠ guidIndex ∧ isSettingCell (row.getD settingIndex "") = true) ∧
          ∀ index, settingIndex < index → index < row.length → index ≠ guidIndex →
            isSettingCell (row.getD index "") = false := by
  rw [settingColumn, find_reverse_range_iff]
  simp only [Bool.and_eq_true, bne_iff_ne, Bool.and_eq_false_imp, isSettingCell]

theorem anchor_iff (row : Row) (guidIndex settingIndex : Nat) :
    Anchor row guidIndex settingIndex ↔
      row.findIdx? isGuidCell = some guidIndex ∧
        settingColumn row guidIndex = some settingIndex := by
  rw [guid_column_iff, setting_column_iff]
  constructor
  · intro anchor
    exact ⟨⟨anchor.guidInside, anchor.guid, anchor.guidFirst⟩, anchor.settingInside,
      ⟨anchor.apart, anchor.setting⟩, anchor.settingLast⟩
  · intro given
    rcases given with ⟨⟨guidInside, guid, first⟩, inside, ⟨apart, setting⟩, last⟩
    exact ⟨guidInside, guid, first, inside, apart, setting, last⟩

/-- The table is anchored at the given columns by its first row that is an anchor. -/
def AnchoredAt (rows : List Row) (guidIndex settingIndex : Nat) : Prop :=
  ∃ front anchor back, rows = front ++ anchor :: back ∧ Anchor anchor guidIndex settingIndex ∧
    ∀ row ∈ front, ∀ guid setting, ¬Anchor row guid setting

section Locate

variable (firstGuidIndex : Option Nat) (rowIndex : Nat)

/-- A row that is no anchor leaves at most its number behind. -/
theorem locate_columns_skip {row : Row} (free : ∀ guid setting, ¬Anchor row guid setting)
    (rows : List Row) :
    locateColumns firstGuidIndex rowIndex (row :: rows) =
      locateColumns
        (if row.any isGuidCell then some (firstGuidIndex.getD rowIndex) else firstGuidIndex)
        (rowIndex + 1) rows := by
  rw [locateColumns]
  cases found : row.findIdx? isGuidCell with
  | none =>
      have plain : row.any isGuidCell = false := by
        rw [← List.findIdx?_isSome, found]
        rfl
      simp only [plain, Bool.false_eq_true, if_false]
  | some guidHere =>
      have shaped : row.any isGuidCell = true := by
        rw [← List.findIdx?_isSome, found]
        rfl
      cases held : settingColumn row guidHere with
      | none => simp only [shaped, if_true, held]
      | some settingHere =>
          have fixed := (anchor_iff row guidHere settingHere).mpr ⟨found, held⟩
          exact absurd fixed (free guidHere settingHere)

theorem locate_columns_anchored {rows : List Row} {guidIndex settingIndex : Nat}
    (anchored : AnchoredAt rows guidIndex settingIndex) :
    ∃ first,
      locateColumns firstGuidIndex rowIndex rows = some ⟨first, guidIndex, settingIndex⟩ := by
  obtain ⟨front, anchor, back, rfl, fixes, free⟩ := anchored
  obtain ⟨guid, setting⟩ := (anchor_iff _ _ _).mp fixes
  induction front generalizing firstGuidIndex rowIndex with
  | nil =>
      rw [List.nil_append, locateColumns, guid]
      simp only [setting]
      exact ⟨_, rfl⟩
  | cons row front induction =>
      rw [List.cons_append, locate_columns_skip _ _ (free row List.mem_cons_self)]
      exact induction _ _ fun other member => free other (List.mem_cons_of_mem _ member)

theorem locate_columns_none {rows : List Row}
    (free : ∀ row ∈ rows, ∀ guid setting, ¬Anchor row guid setting) :
    locateColumns firstGuidIndex rowIndex rows = none := by
  induction rows generalizing firstGuidIndex rowIndex with
  | nil => rfl
  | cons row rows induction =>
      rw [locate_columns_skip _ _ (free row List.mem_cons_self)]
      exact induction _ _ fun other member => free other (List.mem_cons_of_mem _ member)

/-- Once a row with a GUID was seen, its number is kept. -/
theorem locate_columns_kept {rows : List Row} {first : Nat} {columns : Columns}
    (located : locateColumns (some first) rowIndex rows = some columns) :
    columns.firstDataIndex = first := by
  induction rows generalizing rowIndex with
  | nil => cases located
  | cons row rows induction =>
      rw [locateColumns] at located
      split at located
      · exact induction _ located
      · simp only [Option.getD_some] at located
        split at located
        · cases located
          rfl
        · exact induction _ located

theorem locate_columns_start {row : Row} {rows : List Row} {columns : Columns}
    (shaped : row.any isGuidCell = true)
    (located : locateColumns none rowIndex (row :: rows) = some columns) :
    columns.firstDataIndex = rowIndex := by
  rw [locateColumns] at located
  split at located
  · rename_i absent
    rw [← List.findIdx?_isSome, absent] at shaped
    cases shaped
  · split at located
    · cases located
      rfl
    · exact locate_columns_kept _ located

theorem locate_columns_headers {headers : List Row}
    (plain : ∀ row ∈ headers, row.any isGuidCell = false) (rows : List Row) :
    locateColumns none rowIndex (headers ++ rows) =
      locateColumns none (rowIndex + headers.length) rows := by
  induction headers generalizing rowIndex with
  | nil => rfl
  | cons header headers induction =>
      have absent : header.findIdx? isGuidCell = none := by
        rw [← Option.not_isSome_iff_eq_none, List.findIdx?_isSome, plain header List.mem_cons_self]
        exact Bool.false_ne_true
      rw [List.cons_append, locateColumns, absent, List.length_cons]
      simp only [induction _ fun other member => plain other (List.mem_cons_of_mem _ member)]
      rw [Nat.add_right_comm, Nat.add_assoc]

theorem headers_split (rows : List Row) :
    ∃ headers data, rows = headers ++ data ∧
      (∀ row ∈ headers, row.any isGuidCell = false) ∧
        ∀ row rest, data = row :: rest → row.any isGuidCell = true := by
  induction rows with
  | nil => exact ⟨[], [], rfl, by simp, by simp⟩
  | cons row rows induction =>
      cases shaped : row.any isGuidCell with
      | true =>
          refine ⟨[], row :: rows, rfl, by simp, ?_⟩
          intro first rest same
          cases same
          exact shaped
      | false =>
          obtain ⟨headers, data, split, plain, begins⟩ := induction
          refine ⟨row :: headers, data, by rw [split]; rfl, ?_, begins⟩
          intro other member
          rcases List.mem_cons.mp member with rfl | inside
          · exact shaped
          · exact plain other inside

/-- The data begins with the first row that has a GUID-shaped cell. -/
theorem locate_columns_first {rows : List Row} {columns : Columns}
    (located : locateColumns none 0 rows = some columns) :
    ∀ row ∈ rows.take columns.firstDataIndex, row.any isGuidCell = false := by
  obtain ⟨headers, data, rfl, plain, begins⟩ := headers_split rows
  rw [locate_columns_headers 0 plain] at located
  cases data with
  | nil => cases located
  | cons row data =>
      have start := locate_columns_start _ (begins row data rfl) located
      rw [start, Nat.zero_add, List.take_left]
      exact plain

theorem anchored_or_free (rows : List Row) :
    (∃ guidIndex settingIndex, AnchoredAt rows guidIndex settingIndex) ∨
      ∀ row ∈ rows, ∀ guid setting, ¬Anchor row guid setting := by
  induction rows with
  | nil => exact Or.inr (by simp)
  | cons row rows induction =>
      by_cases own : ∃ guid setting, Anchor row guid setting
      · obtain ⟨guid, setting, fixes⟩ := own
        exact Or.inl ⟨guid, setting, [], row, rows, rfl, fixes, by simp⟩
      · have free : ∀ guid setting, ¬Anchor row guid setting :=
          fun guid setting fixes => own ⟨guid, setting, fixes⟩
        rcases induction with later | none
        · obtain ⟨guid, setting, front, anchor, back, split, fixes, before⟩ := later
          refine Or.inl ⟨guid, setting, row :: front, anchor, back, by rw [split]; rfl, fixes, ?_⟩
          intro other member
          rcases List.mem_cons.mp member with rfl | inside
          · exact free
          · exact before other inside
        · right
          intro other member
          rcases List.mem_cons.mp member with rfl | inside
          · exact free
          · exact none other inside

end Locate

/-- The text of a cell without the blanks around it. -/
def cellAt (row : Row) (index : Nat) : String := String.ofList (cellText (row.getD index ""))

/-- What auditpol means by a setting value. -/
def settingMeaning (setting : String) : String :=
  if setting = "1" then "success"
  else if setting = "2" then "failure"
  else if setting = "3" then "both"
  else "unknown"

theorem setting_state_meaning (raw : String) : (settingState raw).1 = settingMeaning raw := by
  unfold settingMeaning settingState
  by_cases one : raw = "1"
  · subst one
    rfl
  · rw [if_neg one]
    by_cases two : raw = "2"
    · subst two
      rfl
    · rw [if_neg two]
      by_cases three : raw = "3"
      · subst three
        rfl
      · rw [if_neg three]
        split
        · rfl
        · by_cases blank : raw = ""
          · subst blank
            rfl
          · simp only [settingStates, List.lookup_cons, List.lookup_nil,
              beq_eq_false_iff_ne.mpr one, beq_eq_false_iff_ne.mpr two,
              beq_eq_false_iff_ne.mpr three, beq_eq_false_iff_ne.mpr blank]

theorem guid_cell_text (cell : String) : isGuid (cellText cell) = isGuidCell cell := rfl

section Read

variable (sourceId : String) (columns : Columns) (row : Row) (rowIndex : Nat)

/-- The gate of a row for the GUID in its GUID column. -/
def rowGate : Gate :=
  ⟨"windows.audit." ++ canonicalGuid (cellText (row.getD columns.guidIndex "")),
    .str (settingMeaning (cellAt row columns.settingIndex)), rowOrigin sourceId rowIndex⟩

variable {columns row}

theorem read_row_short (short : row.length ≤ max columns.guidIndex columns.settingIndex) :
    readAuditpolRow sourceId columns row rowIndex =
      ([], [rowWarning sourceId rowIndex row "short auditpol CSV row"]) :=
  if_pos short

theorem read_row_other (wide : ¬row.length ≤ max columns.guidIndex columns.settingIndex)
    (other : isGuidCell (row.getD columns.guidIndex "") = false) :
    readAuditpolRow sourceId columns row rowIndex = ([], []) := by
  simp only [readAuditpolRow, if_neg wide, guid_cell_text, other, Bool.not_false, if_true]

theorem read_row_guid (wide : ¬row.length ≤ max columns.guidIndex columns.settingIndex)
    (guid : isGuidCell (row.getD columns.guidIndex "") = true) :
    (readAuditpolRow sourceId columns row rowIndex).1 =
      [rowGate sourceId columns row rowIndex] := by
  unfold rowGate
  rw [← setting_state_meaning]
  simp only [readAuditpolRow, if_neg wide, guid_cell_text, guid, Bool.not_true,
    Bool.false_eq_true, if_false, cellAt]

end Read

/-- Rows with a GUID in their GUID column have a gate each. -/
theorem read_rows_guid (sourceId : String) {columns : Columns} {rows : List Row}
    (wide : ∀ row ∈ rows, ¬row.length ≤ max columns.guidIndex columns.settingIndex)
    (guid : ∀ row ∈ rows, isGuidCell (row.getD columns.guidIndex "") = true) (start : Nat) :
    (((rows.zipIdx start).flatMap fun numbered =>
        (readAuditpolRow sourceId columns numbered.1 numbered.2).1).map
          fun gate => (gate.key, gate.value)) =
      rows.map fun row =>
        ("windows.audit." ++ canonicalGuid (cellText (row.getD columns.guidIndex "")),
          .str (settingMeaning (cellAt row columns.settingIndex))) := by
  induction rows generalizing start with
  | nil => rfl
  | cons row rows induction =>
      have rest := induction (fun other member => wide other (List.mem_cons_of_mem _ member))
        (fun other member => guid other (List.mem_cons_of_mem _ member)) (start + 1)
      rw [List.zipIdx_cons, List.flatMap_cons, List.map_append, rest,
        read_row_guid sourceId start (wide row List.mem_cons_self) (guid row List.mem_cons_self)]
      rfl

theorem filled_setting {row : Row} {index : Nat}
    (allowed : cellAt row index ∈ ["", "0", "1", "2", "3"]) (filled : cellAt row index ≠ "") :
    isSettingCell (row.getD index "") = true := by
  apply List.contains_iff_mem.mpr
  rcases List.mem_cons.mp allowed with blank | value
  · exact absurd blank filled
  · have kept : ∀ text ∈ ["0", "1", "2", "3"], text ∈ settingValues := by decide
    exact kept _ value

/-- A report with one row for each subcategory: the GUID in one column, the setting in the last
one, and anything that does not look like a GUID elsewhere. -/
structure SettingTable (headers data : List Row) (guidIndex lastIndex : Nat) : Prop where
  apart : guidIndex < lastIndex
  headersPlain : ∀ row ∈ headers, row.any isGuidCell = false
  width : ∀ row ∈ data, row.length = lastIndex + 1
  guid : ∀ row ∈ data, isGuidCell (row.getD guidIndex "") = true
  plain : ∀ row ∈ data, ∀ index, index ≠ guidIndex → isGuidCell (row.getD index "") = false
  setting : ∀ row ∈ data, cellAt row lastIndex ∈ ["", "0", "1", "2", "3"]
  provided : ∃ row ∈ data, cellAt row lastIndex ≠ ""

/-- One gate for each row, in order, with the setting of the last column. -/
def ReportsEachRow (parsed : ParseResult) (data : List Row) (guidIndex lastIndex : Nat) : Prop :=
  parsed.gates.map (fun gate => (gate.key, gate.value)) =
    data.map fun row =>
      ("windows.audit." ++ canonicalGuid (cellText (row.getD guidIndex "")),
        .str (settingMeaning (cellAt row lastIndex)))

/-- The last column with a setting value in the first row that has one beside its GUID. -/
def LeadingColumn (data : List Row) (guidIndex column : Nat) : Prop :=
  ∃ front leading back, data = front ++ leading :: back ∧
    (∀ row ∈ front, ∀ index, index ≠ guidIndex → isSettingCell (row.getD index "") = false) ∧
      column ≠ guidIndex ∧ isSettingCell (leading.getD column "") = true ∧
        ∀ index, column < index → index ≠ guidIndex →
          isSettingCell (leading.getD index "") = false

section Table

variable {headers data : List Row} {guidIndex lastIndex : Nat}
  (table : SettingTable headers data guidIndex lastIndex)
include table

theorem table_anchor_iff {row : Row} (member : row ∈ data) (guid column : Nat) :
    Anchor row guid column ↔
      guid = guidIndex ∧ column ≠ guidIndex ∧ isSettingCell (row.getD column "") = true ∧
        ∀ index, column < index → index ≠ guidIndex →
          isSettingCell (row.getD index "") = false := by
  have outside : ∀ index, ¬index < row.length → isSettingCell (row.getD index "") = false := by
    intro index beyond
    rw [List.getD_eq_default _ _ (by omega)]
    rfl
  constructor
  · intro anchor
    have same : guid = guidIndex := by
      by_contra other
      have plain := table.plain row member guid other
      rw [anchor.guid] at plain
      cases plain
    subst same
    refine ⟨rfl, anchor.apart, anchor.setting, ?_⟩
    intro index above other
    by_cases inside : index < row.length
    · exact anchor.settingLast index above inside other
    · exact outside index inside
  · intro given
    rcases given with ⟨rfl, other, setting, last⟩
    have width := table.width row member
    have apart := table.apart
    constructor
    · omega
    · exact table.guid row member
    · intro index before
      exact table.plain row member index (by omega)
    · by_contra beyond
      rw [outside column beyond] at setting
      cases setting
    · exact other
    · exact setting
    · intro index above _ different
      exact last index above different

theorem leading_column_anchored {column : Nat} (leads : LeadingColumn data guidIndex column) :
    AnchoredAt data guidIndex column := by
  obtain ⟨front, leading, back, split, free, fixes⟩ := leads
  have member : leading ∈ data := by
    rw [split]
    simp
  refine ⟨front, leading, back, split, (table_anchor_iff table member _ _).mpr ⟨rfl, fixes⟩, ?_⟩
  intro row before guid setting anchor
  have inside : row ∈ data := by
    rw [split]
    exact List.mem_append_left _ before
  obtain ⟨_, other, held, _⟩ := (table_anchor_iff table inside _ _).mp anchor
  rw [free row before setting other] at held
  cases held

theorem anchored_leading_column {guid column : Nat} (anchored : AnchoredAt data guid column) :
    guid = guidIndex ∧ LeadingColumn data guidIndex column := by
  obtain ⟨front, anchor, back, split, fixes, free⟩ := anchored
  have member : anchor ∈ data := by
    rw [split]
    simp
  obtain ⟨same, shape⟩ := (table_anchor_iff table member _ _).mp fixes
  refine ⟨same, front, anchor, back, split, ?_, shape⟩
  intro row before index other
  have inside : row ∈ data := by
    rw [split]
    exact List.mem_append_left _ before
  have width := table.width row inside
  have apart := table.apart
  have guidColumn : row.findIdx? isGuidCell = some guidIndex :=
    (guid_column_iff row guidIndex).mpr ⟨by omega, table.guid row inside,
      fun index before => table.plain row inside index (by omega)⟩
  have none : settingColumn row guidIndex = none := by
    cases held : settingColumn row guidIndex with
    | none => rfl
    | some column =>
        exact absurd ((anchor_iff row _ _).mpr ⟨guidColumn, held⟩) (free row before _ _)
  by_cases bounded : index < row.length
  · have refused : ¬((index != guidIndex && isSettingCell (row.getD index "")) = true) :=
      List.find?_eq_none.mp none index (by simpa using bounded)
    simpa [other] using refused
  · rw [List.getD_eq_default _ _ (by omega)]
    rfl

theorem table_leading_column : ∃ column, LeadingColumn data guidIndex column := by
  rcases anchored_or_free data with anchored | free
  · obtain ⟨guid, column, anchored⟩ := anchored
    exact ⟨column, (anchored_leading_column table anchored).2⟩
  · obtain ⟨row, member, filled⟩ := table.provided
    have width := table.width row member
    have apart := table.apart
    have allowed := table.setting row member
    have value := filled_setting allowed filled
    refine absurd ((table_anchor_iff table member guidIndex lastIndex).mpr
      ⟨rfl, by omega, value, ?_⟩) (free row member _ _)
    intro index above _
    rw [List.getD_eq_default _ _ (by omega)]
    rfl

/-- The gates of a located table. -/
theorem table_gates {column : Nat} (leads : LeadingColumn data guidIndex column)
    (sourceId text : String) :
    (parseAuditpolRows sourceId text (headers ++ data)).gates.map
        (fun gate => (gate.key, gate.value)) =
      data.map fun row =>
        ("windows.audit." ++ canonicalGuid (cellText (row.getD guidIndex "")),
          .str (settingMeaning (cellAt row column))) := by
  have anchored := leading_column_anchored table leads
  obtain ⟨first, located⟩ := locate_columns_anchored none (0 + headers.length) anchored
  have begins : first = 0 + headers.length := by
    obtain ⟨front, anchor, back, split, _⟩ := anchored
    cases data with
    | nil => simp at split
    | cons row rows =>
        have shaped : row.any isGuidCell = true := by
          have guid := table.guid row List.mem_cons_self
          have width := table.width row List.mem_cons_self
          have apart := table.apart
          rw [List.getD_eq_getElem _ _ (by omega)] at guid
          exact List.any_eq_true.mpr ⟨_, List.getElem_mem _, guid⟩
        exact locate_columns_start _ shaped located
  subst begins
  rw [← locate_columns_headers 0 table.headersPlain] at located
  have bound : ∀ row ∈ data, column < row.length := by
    intro row member
    obtain ⟨front, leading, back, split, _, _, setting, _⟩ := leads
    have inside : leading ∈ data := by
      rw [split]
      simp
    rw [table.width row member, ← table.width leading inside]
    by_contra beyond
    rw [List.getD_eq_default _ _ (by omega)] at setting
    exact absurd setting (by decide)
  have wide : ∀ row ∈ data, ¬row.length ≤ max guidIndex column := by
    intro row member
    have inside := bound row member
    have width := table.width row member
    have apart := table.apart
    omega
  simp only [parseAuditpolRows, located, Nat.zero_add, List.drop_left, List.flatMap_map]
  exact @read_rows_guid sourceId ⟨headers.length, guidIndex, column⟩ data wide table.guid _

/-- The parser reports the settings of the last column exactly when the leading column, wherever it
is, means the same in every row. -/
theorem reports_each_row_iff (csvReader : String → List Row) (sourceId text : String)
    (read : csvReader text = headers ++ data) :
    ReportsEachRow (parseAuditpolCsv csvReader sourceId text) data guidIndex lastIndex ↔
      ∀ column, LeadingColumn data guidIndex column → ∀ row ∈ data,
        settingMeaning (cellAt row column) = settingMeaning (cellAt row lastIndex) := by
  have same : ∀ column, LeadingColumn data guidIndex column →
      (ReportsEachRow (parseAuditpolCsv csvReader sourceId text) data guidIndex lastIndex ↔
        ∀ row ∈ data,
          settingMeaning (cellAt row column) = settingMeaning (cellAt row lastIndex)) := by
    intro column leads
    rw [ReportsEachRow, parseAuditpolCsv, read, table_gates table leads, List.map_inj_left]
    simp only [Prod.mk.injEq, GateValue.str.injEq, true_and]
  obtain ⟨leading, leads⟩ := table_leading_column table
  constructor
  · intro reports column also
    exact (same column also).mp reports
  · intro agrees
    exact (same leading leads).mpr (agrees leading leads)

end Table

/-- No GUID beside one column, found by evaluation. -/
theorem plain_beside {row : Row} {guidIndex : Nat}
    (checked : (List.range row.length).all (fun index =>
      index == guidIndex || !isGuidCell (row.getD index "")) = true) :
    ∀ index, index ≠ guidIndex → isGuidCell (row.getD index "") = false := by
  intro index other
  by_cases inside : index < row.length
  · have passed := List.all_eq_true.mp checked index (List.mem_range.mpr inside)
    simpa [other] using passed
  · rw [List.getD_eq_default _ _ (by omega)]
    decide

/-- A report whose first subcategory has no setting. -/
def leadingEmptyReport : String :=
  "Host,Subcategory GUID,Value\n" ++ "PC,\x7b0cce9226-69ae-11d9-bed3-505054503030\x7d,\n" ++
    "PC,\x7b0CCE922B-69AE-11D9-BED3-505054503030\x7d,1\n"

def leadingEmptyRows : List Row :=
  [["PC", "\x7b0cce9226-69ae-11d9-bed3-505054503030\x7d", ""],
    ["PC", "\x7b0CCE922B-69AE-11D9-BED3-505054503030\x7d", "1"]]

theorem leading_empty_table :
    SettingTable [["Host", "Subcategory GUID", "Value"]] leadingEmptyRows 1 2 := by
  constructor
  · decide
  · decide
  · decide
  · decide
  · intro row member
    simp only [leadingEmptyRows, List.mem_cons, List.not_mem_nil, or_false] at member
    rcases member with rfl | rfl
    · exact plain_beside (by decide)
    · exact plain_beside (by decide)
  · decide
  · decide

theorem reports_each_row_iff_leading_empty :
    ReportsEachRow (parseAuditpolCsv splitCells "auditpol /r" leadingEmptyReport)
        leadingEmptyRows 1 2 ↔
      ∀ column, LeadingColumn leadingEmptyRows 1 column → ∀ row ∈ leadingEmptyRows,
        settingMeaning (cellAt row column) = settingMeaning (cellAt row 2) :=
  reports_each_row_iff leading_empty_table splitCells "auditpol /r" leadingEmptyReport
    (by decide +kernel)

/-- The first row has a digit in another column and no setting. -/
def incidentalDigitReport : String :=
  "\x7b0cce9226-69ae-11d9-bed3-505054503030\x7d,1,\n" ++
    "\x7b0CCE922B-69AE-11D9-BED3-505054503030\x7d,x,1\n"

def incidentalDigitRows : List Row :=
  [["\x7b0cce9226-69ae-11d9-bed3-505054503030\x7d", "1", ""],
    ["\x7b0CCE922B-69AE-11D9-BED3-505054503030\x7d", "x", "1"]]

/-- The digit is taken for the setting of its row, and the settings of all rows are lost. -/
theorem incidental_digit_reported :
    SettingTable [] incidentalDigitRows 0 2 ∧
      splitCells incidentalDigitReport = incidentalDigitRows ∧
      (parseAuditpolCsv splitCells "auditpol /r" incidentalDigitReport).gates.map Gate.value =
        [.str "success", .str "unknown"] ∧
      ¬ReportsEachRow (parseAuditpolCsv splitCells "auditpol /r" incidentalDigitReport)
        incidentalDigitRows 0 2 := by
  have cells : splitCells incidentalDigitReport = incidentalDigitRows := by decide +kernel
  have settings : (parseAuditpolCsv splitCells "auditpol /r" incidentalDigitReport).gates.map
      Gate.value = [.str "success", .str "unknown"] := by
    rw [parseAuditpolCsv, cells]
    decide +kernel
  refine ⟨?_, cells, settings, ?_⟩
  · constructor
    · decide
    · decide
    · decide
    · decide
    · intro row member
      simp only [incidentalDigitRows, List.mem_cons, List.not_mem_nil, or_false] at member
      rcases member with rfl | rfl
      · exact plain_beside (by decide)
      · exact plain_beside (by decide)
    · decide
    · decide
  · intro reports
    have values := congrArg (List.map Prod.snd) reports
    rw [List.map_map, List.map_map] at values
    have first := settings.symm.trans values
    revert first
    decide

section Accounting

variable (sourceId : String)

theorem row_origin_injective {first second : Nat}
    (same : rowOrigin sourceId first = rowOrigin sourceId second) : first = second := by
  have locators : "row " ++ toString first = "row " ++ toString second :=
    congrArg Origin.locator same
  exact number_label_injective locators

theorem read_row_origins (columns : Columns) (row : Row) (rowIndex : Nat) :
    (∀ gate ∈ (readAuditpolRow sourceId columns row rowIndex).1,
        gate.origin = rowOrigin sourceId rowIndex) ∧
      ∀ diagnostic ∈ (readAuditpolRow sourceId columns row rowIndex).2,
        diagnostic.origin = rowOrigin sourceId rowIndex := by
  simp only [readAuditpolRow]
  split
  · simp [rowWarning]
  · split
    · simp
    · rcases settingState (String.ofList (cellText (row.getD columns.settingIndex ""))) with
        ⟨state, warning⟩
      constructor
      · simp
      · intro diagnostic member
        obtain ⟨message, _, rfl⟩ := Option.map_eq_some_iff.mp (Option.mem_toList.mp member)
        rfl

/-- What is gathered from the numbered data rows. -/
theorem mem_data_rows {Item : Type} (rows : List Row) (first : Nat) (part : Row → Nat → List Item)
    (item : Item) :
    item ∈ ((rows.drop first).zipIdx (first + 1)).flatMap
        (fun numbered => part numbered.1 numbered.2) ↔
      ∃ index row, rows[index]? = some row ∧ first ≤ index ∧ item ∈ part row (index + 1) := by
  simp only [List.mem_flatMap, Prod.exists, List.mk_mem_zipIdx_iff_le_and_getElem?_sub,
    List.getElem?_drop]
  constructor
  · intro given
    rcases given with ⟨row, number, ⟨above, held⟩, member⟩
    have place : first + (number - (first + 1)) = number - 1 := by omega
    have back : number - 1 + 1 = number := by omega
    rw [place] at held
    exact ⟨number - 1, row, held, by omega, by rwa [back]⟩
  · intro given
    rcases given with ⟨index, row, held, above, member⟩
    have place : first + (index + 1 - (first + 1)) = index := by omega
    exact ⟨row, index + 1, ⟨by omega, by rwa [place]⟩, member⟩

section Located

variable {rows : List Row} {columns : Columns} (text : String)
  (located : locateColumns none 0 rows = some columns)
include located

theorem mem_located_gates (gate : Gate) :
    gate ∈ (parseAuditpolRows sourceId text rows).gates ↔
      ∃ index row, rows[index]? = some row ∧ columns.firstDataIndex ≤ index ∧
        gate ∈ (readAuditpolRow sourceId columns row (index + 1)).1 := by
  simp only [parseAuditpolRows, located, List.flatMap_map]
  exact mem_data_rows rows _
    (fun row number => (readAuditpolRow sourceId columns row number).1) gate

theorem mem_located_diagnostics (diagnostic : Diagnostic) :
    diagnostic ∈ (parseAuditpolRows sourceId text rows).diagnostics ↔
      ∃ index row, rows[index]? = some row ∧ columns.firstDataIndex ≤ index ∧
        diagnostic ∈ (readAuditpolRow sourceId columns row (index + 1)).2 := by
  simp only [parseAuditpolRows, located, List.flatMap_map]
  exact mem_data_rows rows _ (fun row number => (readAuditpolRow sourceId columns row number).2)
    diagnostic

theorem located_reported_unknown {diagnostic : Diagnostic}
    (reported : diagnostic ∈ (parseAuditpolRows sourceId text rows).diagnostics) :
    (parseAuditpolRows sourceId text rows).determinacy = .unknown := by
  simp only [parseAuditpolRows, located] at reported ⊢
  rw [if_pos]
  exact Or.inl (List.ne_nil_of_mem reported)

theorem guid_row_in_data {index : Nat} {row : Row} (held : rows[index]? = some row)
    (named : row.any isGuidCell = true) : columns.firstDataIndex ≤ index := by
  by_contra early
  have member : row ∈ rows.take columns.firstDataIndex := by
    apply List.mem_of_getElem? (i := index)
    rw [List.getElem?_take_of_lt (by omega)]
    exact held
  rw [locate_columns_first located row member] at named
  cases named

end Located

/-- A row that names a subcategory is reported under one of its GUIDs, or a diagnostic is about
it. -/
def RowAccounted (parsed : ParseResult) (row : Row) (rowIndex : Nat) : Prop :=
  (∃ gate ∈ parsed.gates, gate.origin = rowOrigin sourceId rowIndex ∧
      ∃ cell ∈ row, isGuidCell cell = true ∧
        gate.key = "windows.audit." ++ canonicalGuid (cellText cell)) ∨
    parsed.determinacy = .unknown ∧ ∃ diagnostic ∈ parsed.diagnostics,
      diagnostic.origin = rowOrigin sourceId rowIndex ∨ diagnostic.origin = ⟨sourceId, "CSV"⟩

theorem free_rows_accounted {rows : List Row} (text : String)
    (free : ∀ row ∈ rows, ∀ guid setting, ¬Anchor row guid setting) (row : Row) (rowIndex : Nat) :
    RowAccounted sourceId (parseAuditpolRows sourceId text rows) row rowIndex := by
  right
  simp only [parseAuditpolRows, locate_columns_none none 0 free]
  exact ⟨trivial, _, List.mem_cons_self, Or.inr rfl⟩

theorem located_row_accounted_iff {rows : List Row} {columns : Columns} (text : String)
    (located : locateColumns none 0 rows = some columns) {row : Row} {index : Nat}
    (held : rows[index]? = some row) (named : row.any isGuidCell = true) :
    RowAccounted sourceId (parseAuditpolRows sourceId text rows) row (index + 1) ↔
      row.length ≤ max columns.guidIndex columns.settingIndex ∨
        isGuidCell (row.getD columns.guidIndex "") = true := by
  have inData := guid_row_in_data located held named
  constructor
  · intro accounted
    by_contra neither
    simp only [not_or, Bool.not_eq_true] at neither
    have silent := fun number => read_row_other sourceId number neither.1 neither.2
    have here : ∀ {other : Row} {place : Nat}, rows[place]? = some other →
        rowOrigin sourceId (place + 1) = rowOrigin sourceId (index + 1) →
          readAuditpolRow sourceId columns other (place + 1) = ([], []) := by
      intro other place present origin
      have same : place = index := by
        have numbers := row_origin_injective sourceId origin
        omega
      rw [same, held] at present
      cases present
      rw [same]
      exact silent _
    rcases accounted with gated | ⟨_, diagnostic, reported, origin⟩
    · obtain ⟨gate, member, origin, _⟩ := gated
      obtain ⟨place, other, present, _, own⟩ :=
        (mem_located_gates sourceId text located gate).mp member
      rw [(read_row_origins sourceId columns other _).1 gate own] at origin
      rw [here present origin] at own
      cases own
    · obtain ⟨place, other, present, _, own⟩ :=
        (mem_located_diagnostics sourceId text located diagnostic).mp reported
      rw [(read_row_origins sourceId columns other _).2 diagnostic own] at origin
      rcases origin with origin | whole
      · rw [here present origin] at own
        cases own
      · have locators := congrArg (fun origin => origin.locator.toList.head?) whole
        simp [rowOrigin] at locators
  · intro given
    by_cases short : row.length ≤ max columns.guidIndex columns.settingIndex
    · have reported := (mem_located_diagnostics sourceId text located
        (rowWarning sourceId (index + 1) row "short auditpol CSV row")).mpr
          ⟨index, row, held, inData, by rw [read_row_short sourceId _ short]; simp⟩
      exact Or.inr ⟨located_reported_unknown sourceId text located reported, _, reported,
        Or.inl rfl⟩
    · have guid := given.resolve_left short
      have member := (mem_located_gates sourceId text located
        (rowGate sourceId columns row (index + 1))).mpr
          ⟨index, row, held, inData, by rw [read_row_guid sourceId _ short guid]; simp⟩
      have inside : columns.guidIndex < row.length := by omega
      refine Or.inl ⟨_, member, rfl, row.getD columns.guidIndex "", ?_, guid, rfl⟩
      rw [List.getD_eq_getElem _ _ inside]
      exact List.getElem_mem inside

/-- No row that names a subcategory is dropped silently exactly when each such row is too short
for the two columns of the table or has a GUID in the GUID column. -/
theorem guid_rows_accounted_iff (csvReader : String → List Row) (text : String) :
    (∀ index row, (csvReader text)[index]? = some row → row.any isGuidCell = true →
        RowAccounted sourceId (parseAuditpolCsv csvReader sourceId text) row (index + 1)) ↔
      ∀ guidIndex settingIndex, AnchoredAt (csvReader text) guidIndex settingIndex →
        ∀ row ∈ csvReader text, row.any isGuidCell = true →
          row.length ≤ max guidIndex settingIndex ∨
            isGuidCell (row.getD guidIndex "") = true := by
  rw [parseAuditpolCsv]
  constructor
  · intro accounted guidIndex settingIndex anchored row member named
    obtain ⟨first, located⟩ := locate_columns_anchored none 0 anchored
    obtain ⟨index, held⟩ := List.mem_iff_getElem?.mp member
    exact (located_row_accounted_iff sourceId text located held named).mp
      (accounted index row held named)
  · intro aligned index row held named
    rcases anchored_or_free (csvReader text) with anchored | free
    · obtain ⟨guidIndex, settingIndex, anchored⟩ := anchored
      obtain ⟨first, located⟩ := locate_columns_anchored none 0 anchored
      exact (located_row_accounted_iff sourceId text located held named).mpr
        (aligned guidIndex settingIndex anchored row (List.mem_of_getElem? held) named)
    · exact free_rows_accounted sourceId text free row (index + 1)

theorem silent_row_unaccounted {parsed : ParseResult} {row : Row} {rowIndex : Nat}
    (effective : parsed.determinacy = .effective)
    (absent : rowOrigin sourceId rowIndex ∉ parsed.gates.map Gate.origin) :
    ¬RowAccounted sourceId parsed row rowIndex := by
  intro accounted
  rcases accounted with ⟨gate, member, origin, _⟩ | ⟨unknown, _⟩
  · apply absent
    rw [← origin]
    exact List.mem_map_of_mem member
  · rw [effective] at unknown
    cases unknown

/-- The second row names its subcategory in another column than the first one. -/
def shiftedRowReport : String :=
  "\x7b0cce9226-69ae-11d9-bed3-505054503030\x7d,1\n" ++
    "1,\x7b0CCE922B-69AE-11D9-BED3-505054503030\x7d\n"

/-- The shifted row leaves no trace, and the result is called effective. -/
theorem shifted_row_dropped :
    splitCells shiftedRowReport =
        [["\x7b0cce9226-69ae-11d9-bed3-505054503030\x7d", "1"],
          ["1", "\x7b0CCE922B-69AE-11D9-BED3-505054503030\x7d"]] ∧
      isGuidCell "\x7b0CCE922B-69AE-11D9-BED3-505054503030\x7d" = true ∧
      (parseAuditpolCsv splitCells "auditpol /r" shiftedRowReport).determinacy = .effective ∧
      (parseAuditpolCsv splitCells "auditpol /r" shiftedRowReport).gates.map Gate.origin =
        [rowOrigin "auditpol /r" 1] ∧
      ¬RowAccounted "auditpol /r" (parseAuditpolCsv splitCells "auditpol /r" shiftedRowReport)
        ["1", "\x7b0CCE922B-69AE-11D9-BED3-505054503030\x7d"] 2 := by
  have cells : splitCells shiftedRowReport =
      [["\x7b0cce9226-69ae-11d9-bed3-505054503030\x7d", "1"],
        ["1", "\x7b0CCE922B-69AE-11D9-BED3-505054503030\x7d"]] := by decide +kernel
  have read : (parseAuditpolCsv splitCells "auditpol /r" shiftedRowReport).determinacy =
        .effective ∧
      (parseAuditpolCsv splitCells "auditpol /r" shiftedRowReport).gates.map Gate.origin =
        [rowOrigin "auditpol /r" 1] := by
    rw [parseAuditpolCsv, cells]
    decide +kernel
  obtain ⟨effective, origins⟩ := read
  refine ⟨cells, by decide, effective, origins, ?_⟩
  apply silent_row_unaccounted _ effective
  rw [origins]
  decide

end Accounting

end Sigmascope
