import Sigmascope.Library.Regex
import Sigmascope.Model

/-!
Parser for the report table of `auditpol /r`. Headers are localised, so the two
columns of interest are inferred: the first row with a GUID-shaped cell that also
has a setting value fixes them for the rest of the table.
-/

namespace Sigmascope

set_option autoImplicit false

open Sigmascope.Library Sigmascope.Library.PyText

abbrev Row := List String

def isHexDigit (char : Char) : Bool :=
  isAsciiDigit char || ('a' ≤ char && char ≤ 'f') || ('A' ≤ char && char ≤ 'F')

/-- The groups of a GUID between its braces. -/
def guidGroups : List (Char → Bool) :=
  List.replicate 8 isHexDigit ++ [(· == '-')] ++ List.replicate 4 isHexDigit ++ [(· == '-')] ++
    List.replicate 4 isHexDigit ++ [(· == '-')] ++ List.replicate 4 isHexDigit ++ [(· == '-')] ++
    List.replicate 12 isHexDigit

/-- `^\{[0-9A-Fa-f]{8}-[0-9A-Fa-f]{4}-[0-9A-Fa-f]{4}-[0-9A-Fa-f]{4}-[0-9A-Fa-f]{12}\}$` -/
def guidPattern : Regex :=
  Regex.concat
    ((((· == '{') :: guidGroups) ++ [(· == '}')]).map .single ++ [.lineEnd])

def isGuid (text : Text) : Bool := guidPattern.fullMatch text

def cellText (cell : String) : Text := strip cell.toList

/-- A cell that the parser takes for a GUID. -/
def isGuidCell (cell : String) : Bool := isGuid (cellText cell)

/-- `_STATES`. -/
def settingStates : List (String × String) :=
  [("1", "success"), ("2", "failure"), ("3", "both"), ("", "unknown")]

/-- `_SETTING_VALUES`. -/
def settingValues : List String := ["1", "2", "3", "0"]

def canonicalGuid (value : Text) : String :=
  "\x7b" ++ String.ofList (upper (stripChars ['{', '}'] (strip value))) ++ "\x7d"

/-- The last column of a row, other than the GUID column, that holds a setting value. -/
def settingColumn (row : Row) (guidIndex : Nat) : Option Nat :=
  (List.range row.length).reverse.find? fun index =>
    index != guidIndex && settingValues.contains (String.ofList (cellText (row.getD index "")))

structure Columns where
  firstDataIndex : Nat
  guidIndex : Nat
  settingIndex : Nat
deriving DecidableEq, Repr

/-- The first loop of `parse_auditpol_csv`. A row with a GUID but no setting value still
counts as the first one of the data. -/
def locateColumns (firstGuidIndex : Option Nat) (rowIndex : Nat) : List Row → Option Columns
  | [] => none
  | row :: rows =>
      match row.findIdx? isGuidCell with
      | none => locateColumns firstGuidIndex (rowIndex + 1) rows
      | some guidIndex =>
          let first := firstGuidIndex.getD rowIndex
          match settingColumn row guidIndex with
          | some settingIndex => some ⟨first, guidIndex, settingIndex⟩
          | none => locateColumns (some first) (rowIndex + 1) rows

def rowOrigin (sourceId : String) (rowIndex : Nat) : Origin :=
  ⟨sourceId, "row " ++ toString rowIndex⟩

/-- The state that a setting cell stands for, and the warning that it deserves. -/
def settingState (raw : String) : String × Option String :=
  if raw = "0" then
    ("unknown",
      some ("auditpol setting value 0 is ambiguous between " ++ "no auditing and not specified"))
  else
    match settingStates.lookup raw with
    | some state => (state, none)
    | none => ("unknown", some ("unknown auditpol setting value " ++ pyRepr raw.toList))

def rowWarning (sourceId : String) (rowIndex : Nat) (row : Row) (message : String) : Diagnostic :=
  ⟨.warn, message, rowOrigin sourceId rowIndex, ",".intercalate row⟩

/-- One round of the second loop of `parse_auditpol_csv`. -/
def readAuditpolRow (sourceId : String) (columns : Columns) (row : Row) (rowIndex : Nat) :
    List Gate × List Diagnostic :=
  if row.length ≤ max columns.guidIndex columns.settingIndex then
    ([], [rowWarning sourceId rowIndex row "short auditpol CSV row"])
  else
    let guidText := cellText (row.getD columns.guidIndex "")
    if !isGuid guidText then ([], [])
    else
      let raw := String.ofList (cellText (row.getD columns.settingIndex ""))
      let (state, warning) := settingState raw
      ([⟨"windows.audit." ++ canonicalGuid guidText, .str state, rowOrigin sourceId rowIndex⟩],
        (warning.map (rowWarning sourceId rowIndex row)).toList)

/-- `parse_auditpol_csv` for the rows that `csv.reader` yields for the text. -/
def parseAuditpolRows (sourceId text : String) (rows : List Row) : ParseResult :=
  match locateColumns none 0 rows with
  | none =>
      { determinacy := .unknown
        diagnostics :=
          [⟨.error, "could not locate GUID and setting-value columns in auditpol CSV",
            ⟨sourceId, "CSV"⟩, text⟩] }
  | some columns =>
      let read := ((rows.drop columns.firstDataIndex).zipIdx (columns.firstDataIndex + 1)).map
        fun numbered => readAuditpolRow sourceId columns numbered.1 numbered.2
      let gates := read.flatMap Prod.fst
      let diagnostics := read.flatMap Prod.snd
      { determinacy :=
          if diagnostics ≠ [] ∨ gates.any (fun gate => gate.value == .str "unknown") then .unknown
          else .effective
        gates := gates
        diagnostics := diagnostics }

/-- `parse_auditpol_csv`, with the dialect of `csv.reader` as a parameter. -/
def parseAuditpolCsv (csvReader : String → List Row) (sourceId text : String) : ParseResult :=
  parseAuditpolRows sourceId text (csvReader text)

/-- `csv.reader` on a text without quotes. -/
def splitCells (text : String) : List Row :=
  (splitlines text.toList).map fun line => (line.splitOn ',').map String.ofList

section Shape

def isGuidPart (char : Char) : Bool := isHexDigit char || char == '-'

theorem guid_groups_parts : ∀ accepts ∈ guidGroups, ∀ char, accepts char = true →
    isGuidPart char = true := by
  intro accepts member char accepted
  simp only [guidGroups, List.mem_append, List.mem_replicate, List.mem_singleton] at member
  have kinds : accepts = isHexDigit ∨ accepts = fun char => char == '-' := by tauto
  rcases kinds with rfl | rfl
  · simp [isGuidPart, accepted]
  · simp [isGuidPart, accepted]

theorem forall₂_append_left {α β : Type} {related : α → β → Prop} {first second : List α}
    {whole : List β} (pointwise : List.Forall₂ related (first ++ second) whole) :
    ∃ left right, whole = left ++ right ∧ List.Forall₂ related first left ∧
      List.Forall₂ related second right := by
  induction first generalizing whole with
  | nil => exact ⟨[], whole, rfl, List.Forall₂.nil, pointwise⟩
  | cons head tail induction =>
      obtain ⟨item, items, same, rest, rfl⟩ := List.forall₂_cons_left_iff.mp pointwise
      obtain ⟨left, right, rfl, first, second⟩ := induction rest
      exact ⟨item :: left, right, rfl, List.Forall₂.cons same first, second⟩

/-- A GUID-shaped text is a run of hexadecimal digits and dashes between braces. -/
theorem guid_braces {text : Text} (shaped : isGuid text = true) :
    ∃ middle, text = '{' :: (middle ++ ['}']) ∧ middle.length = 36 ∧
      ∀ char ∈ middle, isGuidPart char = true := by
  have pointwise := (Regex.full_match_fixed _ _).mp shaped
  obtain ⟨_, _, rfl, front, back⟩ := forall₂_append_left pointwise
  obtain ⟨first, middle, opens, groups, rfl⟩ := List.forall₂_cons_left_iff.mp front
  obtain ⟨final, _, closes, ended, rfl⟩ := List.forall₂_cons_left_iff.mp back
  cases ended
  simp only [beq_iff_eq] at opens closes
  refine ⟨middle, by rw [opens, closes]; rfl, ?_, ?_⟩
  · rw [← groups.length_eq]
    rfl
  · intro char member
    obtain ⟨index, inside, rfl⟩ := List.getElem_of_mem member
    have bound : index < guidGroups.length := by rw [groups.length_eq]; exact inside
    exact guid_groups_parts _ (List.getElem_mem bound) _ (groups.get bound inside)

theorem guid_part_plain {char : Char} (part : isGuidPart char = true) :
    char ≠ '{' ∧ char ≠ '}' := by
  constructor
  · intro same
    subst same
    revert part
    decide
  · intro same
    subst same
    revert part
    decide

/-- Braces around a text without braces are what `strip("{}")` removes. -/
theorem strip_braces {middle : Text} (plain : ∀ char ∈ middle, isGuidPart char = true) :
    stripChars ['{', '}'] ('{' :: (middle ++ ['}'])) = middle := by
  have kept : ∀ char ∈ middle, ¬(['{', '}'].contains char = true) := by
    intro char member
    have apart := guid_part_plain (plain char member)
    simp [apart.1, apart.2]
  have front : (middle ++ ['}']).dropWhile (['{', '}'].contains ·) =
      if middle = [] then [] else middle ++ ['}'] := by
    cases middle with
    | nil => rfl
    | cons head tail =>
        rw [List.cons_append, List.dropWhile_cons_of_neg (kept head (by simp))]
        rfl
  have back : (middle ++ ['}']).rdropWhile (['{', '}'].contains ·) = middle := by
    rw [List.rdropWhile_concat_pos _ _ _ rfl]
    cases middle using List.reverseRecOn with
    | nil => rfl
    | append_singleton start last =>
        exact List.rdropWhile_concat_neg _ _ _ (kept last (by simp))
  rw [stripChars, List.dropWhile_cons_of_pos rfl, front]
  split
  · rename_i empty
    rw [empty]
    rfl
  · exact back

/-- White space around a GUID goes away, and none is inside. -/
theorem strip_guid {text : Text} (shaped : isGuid text = true) : strip text = text := by
  obtain ⟨middle, rfl, _, _⟩ := guid_braces shaped
  have front : lstrip ('{' :: (middle ++ ['}'])) = '{' :: (middle ++ ['}']) :=
    List.dropWhile_cons_of_neg (by decide)
  rw [strip, front, rstrip, ← List.cons_append]
  exact List.rdropWhile_concat_neg _ _ _ (by decide)

/-- The canonical spelling of a GUID is its upper-case spelling. -/
theorem canonical_guid_eq {text : Text} (shaped : isGuid text = true) :
    canonicalGuid text = String.ofList (upper text) := by
  obtain ⟨middle, same, _, plain⟩ := guid_braces shaped
  rw [canonicalGuid, strip_guid shaped, same, strip_braces plain]
  simp only [upper, List.flatMap_cons, List.flatMap_append, List.flatMap_nil]
  apply String.toList_inj.mp
  simp only [String.toList_append, String.toList_ofList]
  rfl

/-- A setting value is no GUID. -/
theorem setting_not_guid {cell : String}
    (setting : String.ofList (cellText cell) ∈ settingValues) : isGuidCell cell = false := by
  by_contra shaped
  simp only [Bool.not_eq_false, isGuidCell] at shaped
  obtain ⟨middle, same, long, _⟩ := guid_braces shaped
  have length : (String.ofList (cellText cell)).toList.length = 38 := by
    rw [String.toList_ofList, same]
    simp [long]
  simp only [settingValues, List.mem_cons, List.not_mem_nil, or_false] at setting
  rcases setting with value | value | value | value <;>
    (rw [value] at length; simp at length)

end Shape

end Sigmascope
