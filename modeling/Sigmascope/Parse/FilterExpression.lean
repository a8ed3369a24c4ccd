import Sigmascope.Parse.AuditdRules

/-!
Reading back a filter expression. A field, the spelling of a comparison and a
value written without blanks are recovered, except that a value which begins with
an equals sign would lengthen three of the spellings.
-/

namespace Sigmascope

set_option autoImplicit false

open Sigmascope.Library Sigmascope.Library.PyText

/-- The spelling of a comparison; `contains` has none on a rule line. -/
def opSpelling : PredicateOp → Text
  | .eq => ['=']
  | .ne => ['!', '=']
  | .lt => ['<']
  | .le => ['<', '=']
  | .gt => ['>']
  | .ge => ['>', '=']
  | .bitand => ['&']
  | .bitest => ['&', '=']
  | .contains => []

/-- The comparisons whose spelling goes on with an equals sign in another one. -/
def opPrefixes : List PredicateOp := [.lt, .gt, .bitand]

structure CleanFilter (predicate : Predicate) : Prop where
  start : predicate.field.toList.head?.any isFieldStart = true
  part : ∀ char ∈ predicate.field.toList, isFieldPart char = true
  lowered : lower predicate.field.toList = predicate.field.toList
  spelled : predicate.op ≠ .contains
  trimmed : strip predicate.value.toList = predicate.value.toList
  whole : ∀ char ∈ predicate.value.toList, isLineBreak char = false
  apart : predicate.op ∈ opPrefixes → predicate.value.toList.head? ≠ some '='

def filterText (predicate : Predicate) : Text :=
  predicate.field.toList ++ opSpelling predicate.op ++ predicate.value.toList

theorem ops_spelling {op : PredicateOp} (spelled : op ≠ .contains) :
    ops.lookup (String.ofList (opSpelling op)) = some op := by
  cases op with
  | contains => exact absurd rfl spelled
  | _ => rfl

section Match

abbrev keepRest : Cursor → Captures → Option (Captures × Text) :=
  fun after captures => some (captures, after.rest)

/-- What is left to match after the comparison. -/
def valuePattern : Regex :=
  Regex.concat [.greedy isSpace, .group "value" (.greedy Regex.anyButNewline), .lineEnd]

def opPattern : Regex :=
  Regex.anyOf (["!=", "<=", ">=", "&=", "=", "<", ">", "&"].map Regex.literal)

theorem run_value_pattern (previous : Option Char) (value : Text) (captures : Captures)
    (trimmed : value.head?.all Regex.notSpace = true) (whole : '\n' ∉ value) :
    valuePattern.run keepRest ⟨previous, value⟩ captures =
      some (("value", value) :: captures, []) := by
  have rest : Regex.runGreedy Regex.anyButNewline
      (fun after => if after.rest = [] ∨ after.rest = ['\n'] then
        some ((("value", value.take (value.length - after.rest.length)) :: captures), after.rest)
        else none) previous (value ++ []) = some (("value", value) :: captures, []) := by
    apply Regex.run_greedy_longest
    · intro char member
      simp only [Regex.anyButNewline, bne_iff_ne]
      intro same
      subst same
      exact whole member
    · rfl
    · simp
  rw [List.append_nil] at rest
  simp only [valuePattern, Regex.concat, Regex.run, keepRest]
  apply Regex.run_greedy_longest _ _ previous [] value
  · simp
  · exact trimmed
  · exact rest

theorem run_op_pattern (previous : Option Char) {op : PredicateOp} (spelled : op ≠ .contains)
    (value : Text) (captures : Captures) (trimmed : value.head?.all Regex.notSpace = true)
    (whole : '\n' ∉ value) (apart : op ∈ opPrefixes → value.head? ≠ some '=') :
    (Regex.seq (.group "op" opPattern) valuePattern).run keepRest
        ⟨previous, opSpelling op ++ value⟩ captures =
      some (("value", value) :: ("op", opSpelling op) :: captures, []) := by
  have rest := fun before found => run_value_pattern before value found trimmed whole
  have width : value.length + 1 + 1 - value.length = 2 := by omega
  -- No longer spelling fits where a shorter one was written.
  have shorter : op ∈ opPrefixes → ¬['='] <+: value := by
    intro member longer
    obtain ⟨tail, rfl⟩ := longer
    exact apart member rfl
  simp only [opPattern, List.map_cons, List.map_nil, Regex.anyOf, Regex.run, Regex.run_literal]
  cases op with
  | contains => exact absurd rfl spelled
  | eq => simp [opSpelling, rest]
  | ne => simp [opSpelling, rest, width]
  | le => simp [opSpelling, rest, width]
  | ge => simp [opSpelling, rest, width]
  | bitest => simp [opSpelling, rest, width]
  | lt => simp [opSpelling, rest, shorter (by decide)]
  | gt => simp [opSpelling, rest, shorter (by decide)]
  | bitand => simp [opSpelling, rest, shorter (by decide)]

theorem filter_pattern_eq : filterPattern =
    Regex.seq (.group "field" (.seq (.single isFieldStart) (.greedy isFieldPart)))
      (.seq (.greedy isSpace) (.seq (.group "op" opPattern) valuePattern)) := rfl

theorem op_spelling_head {op : PredicateOp} (spelled : op ≠ .contains) (value : Text) :
    ∃ first rest, opSpelling op ++ value = first :: rest ∧ isFieldPart first = false ∧
      isSpace first = false := by
  cases op with
  | contains => exact absurd rfl spelled
  | _ => exact ⟨_, _, rfl, by decide, by decide⟩

theorem clean_filter_no_newline {predicate : Predicate} (clean : CleanFilter predicate) :
    '\n' ∉ predicate.value.toList := by
  intro member
  have plain := clean.whole _ member
  revert plain
  decide

/-- What follows the field is taken apart as it was written. -/
theorem run_after_field {predicate : Predicate} (clean : CleanFilter predicate)
    (previous : Option Char) (captures : Captures) :
    (Regex.seq (.greedy isSpace) (.seq (.group "op" opPattern) valuePattern)).run keepRest
        ⟨previous, opSpelling predicate.op ++ predicate.value.toList⟩ captures =
      some (("value", predicate.value.toList) :: ("op", opSpelling predicate.op) :: captures,
        []) := by
  obtain ⟨opFirst, opRest, opText, _, notSpace⟩ :=
    op_spelling_head clean.spelled predicate.value.toList
  rw [Regex.run]
  apply Regex.run_greedy_longest _ _ previous []
    (opSpelling predicate.op ++ predicate.value.toList)
  · simp
  · rw [opText]
    simp [notSpace]
  · exact run_op_pattern _ clean.spelled _ _ (trimmed_head clean.trimmed)
      (clean_filter_no_newline clean) clean.apart

/-- The text between the start and the comparison is the field. -/
theorem take_field (predicate : Predicate) :
    (filterText predicate).take ((filterText predicate).length -
      (opSpelling predicate.op ++ predicate.value.toList).length) = predicate.field.toList := by
  have length : (filterText predicate).length -
      (opSpelling predicate.op ++ predicate.value.toList).length =
        predicate.field.toList.length := by
    simp only [filterText, List.length_append]
    omega
  rw [length, filterText, List.append_assoc, List.take_left]

/-- The pattern takes a written filter apart. -/
theorem match_filter_text {predicate : Predicate} (clean : CleanFilter predicate) :
    filterPattern.matchText (filterText predicate) =
      some [("value", predicate.value.toList), ("op", opSpelling predicate.op),
        ("field", predicate.field.toList)] := by
  obtain ⟨opFirst, opRest, opText, notPart, _⟩ :=
    op_spelling_head clean.spelled predicate.value.toList
  have captured := take_field predicate
  have whole : filterPattern.matchAt ⟨none, filterText predicate⟩ =
      some ([("value", predicate.value.toList), ("op", opSpelling predicate.op),
        ("field", predicate.field.toList)], []) := by
    cases field : predicate.field.toList with
    | nil =>
        have start := clean.start
        rw [field] at start
        cases start
    | cons first others =>
        have start : isFieldStart first = true := by simpa [field] using clean.start
        have text : filterText predicate =
            first :: (others ++ (opSpelling predicate.op ++ predicate.value.toList)) := by
          rw [filterText, field, List.append_assoc]
          rfl
        rw [text, field] at captured
        rw [Regex.matchAt, filter_pattern_eq, text]
        simp only [Regex.run, start, if_true]
        apply Regex.run_greedy_longest
        · intro char member
          exact clean.part char (by rw [field]; exact List.mem_cons_of_mem _ member)
        · rw [opText]
          simp [notPart]
        · rw [captured]
          exact run_after_field clean _ _
  rw [Regex.matchText, whole]
  rfl

end Match

/-- A written filter is parsed back, with the unset audit user id normalised. -/
theorem parse_filter_text {predicate : Predicate} (clean : CleanFilter predicate) :
    parseFilter (filterText predicate) =
      some { predicate with value := normaliseValue predicate.field predicate.value } := by
  have field : String.ofList (lower predicate.field.toList) = predicate.field := by
    rw [clean.lowered, String.ofList_toList]
  have read : parseFilter (filterText predicate) =
      (ops.lookup (String.ofList (opSpelling predicate.op))).bind fun op =>
        some ⟨String.ofList (lower predicate.field.toList), op,
          normaliseValue (String.ofList (lower predicate.field.toList))
            (String.ofList predicate.value.toList)⟩ := by
    rw [parseFilter, match_filter_text clean]
    rfl
  rw [read, ops_spelling clean.spelled, field, String.ofList_toList]
  rfl

end Sigmascope
