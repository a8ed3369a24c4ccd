import Sigmascope.Parse.SysmonCurrent

/-!
The rule section of a Sysmon text, read without the state of the parser: its blocks,
each from a header to the next header or version line, and the lines that it reports.
The line loop is shown to find just these.
-/

namespace Sigmascope

set_option autoImplicit false

open Sigmascope.Library Sigmascope.Library.PyText

abbrev NumberedLine := Text × Nat

def isHeader (line : Text) : Bool := !isRuleVersion line && (ruleHeader.matchText line).isSome

/-- A line that ends the body of a block. -/
def isBoundary (line : Text) : Bool := isRuleVersion line || isHeader line

/-- A line that the rule section passes over. -/
def isSkipped (line : Text) : Bool := decide (strip line = []) || isNoRules line

def headerCaptures (line : Text) : Captures := (ruleHeader.matchText line).getD []

/-- The spelling of a header's effect, in lower case. -/
def headerEffect (line : Text) : Text := lower (Regex.captured (headerCaptures line) "effect")

/-- A header with an effect that the effect enumeration does not know. -/
def isMisspelled (line : Text) : Bool :=
  isHeader line && !(["include".toList, "exclude".toList].contains (headerEffect line))

/-- The predicate that a line of a block stands for. -/
def linePredicate (line : Text) : Option Predicate :=
  match sysmonFilter.matchText line with
  | some captures =>
      let field := lower (strip (Regex.captured captures "field"))
      some
        { field := String.ofList (field.map fun char => if char = ' ' then '_' else char)
          op := .contains
          value := String.ofList (strip (Regex.captured captures "value")) }
  | none =>
      if containsText "compound rule".toList (lower line) then
        some { field := "compound_rule", op := .contains, value := String.ofList (strip line) }
      else none

/-- A header with the lines of its block, without those that are passed over. -/
structure TextBlock where
  header : NumberedLine
  body : List NumberedLine
deriving DecidableEq, Repr

namespace TextBlock

def event (block : TextBlock) : String :=
  String.ofList (Regex.captured (headerCaptures block.header.1) "event")

def effect (block : TextBlock) : Effect :=
  if headerEffect block.header.1 = "include".toList then .included else .excluded

def predicates (block : TextBlock) : List Predicate :=
  block.body.filterMap fun numbered => linePredicate numbered.1

/-- The block in the parser's own form. -/
def toSysmon (sourceId : String) (block : TextBlock) : SysmonBlock where
  event := block.event
  effect := block.effect
  origin := lineOrigin sourceId block.header.2
  header := block.header.1
  body := block.body.map Prod.fst
  predicates := block.predicates

end TextBlock

/-- The lines up to the next boundary, without those that are passed over. -/
def bodyLines (lines : List NumberedLine) : List NumberedLine :=
  (lines.takeWhile fun numbered => !isBoundary numbered.1).filter
    fun numbered => !isSkipped numbered.1

def textBlocks : List NumberedLine → List TextBlock
  | [] => []
  | line :: lines =>
      if isHeader line.1 then ⟨line, bodyLines lines⟩ :: textBlocks lines else textBlocks lines

/-- The lines that are reported, each with the question whether it stands in a block. -/
def reportedLines (inBlock : Bool) : List NumberedLine → List (Bool × NumberedLine)
  | [] => []
  | line :: lines =>
      if isRuleVersion line.1 then reportedLines false lines
      else if isHeader line.1 then reportedLines true lines
      else if isSkipped line.1 then reportedLines inBlock lines
      else if inBlock && (linePredicate line.1).isSome then reportedLines inBlock lines
      else (inBlock, line) :: reportedLines inBlock lines

def reportOf (sourceId : String) (reported : Bool × NumberedLine) : Diagnostic where
  severity := .warn
  message :=
    if reported.1 then "unrecognised sysmon -c rule syntax"
    else "unrecognised sysmon -c rule configuration line"
  origin := lineOrigin sourceId reported.2.2
  raw := String.ofList reported.2.1

/-- Rules made of blocks, numbered from a start. -/
def blockRules (start : Nat) (blocks : List SysmonBlock) : List Rule :=
  (blocks.zipIdx start).map fun numbered => SysmonState.blockRule numbered.1 numbered.2

/-- The open block once it has taken in the lines of a body. -/
def SysmonBlock.extend (block : SysmonBlock) (body : List NumberedLine) : SysmonBlock :=
  { block with
    body := block.body ++ body.map Prod.fst
    predicates := block.predicates ++ body.filterMap fun numbered => linePredicate numbered.1 }

section Blocks

variable {start : Nat} {left right : List SysmonBlock}

theorem block_rules_append :
    blockRules start (left ++ right) =
      blockRules start left ++ blockRules (start + left.length) right := by
  simp [blockRules, List.zipIdx_append]

theorem finish_rules (state : SysmonState) :
    state.finish.rules = state.rules ++ blockRules (state.rules.length + 1) state.block.toList := by
  unfold SysmonState.finish
  cases state.block with
  | none => simp [blockRules]
  | some block => simp [blockRules]

theorem finish_block (state : SysmonState) : state.finish.block = none := by
  unfold SysmonState.finish
  cases closed : state.block with
  | none => exact closed
  | some block => rfl

theorem finish_diagnostics (state : SysmonState) :
    state.finish.diagnostics = state.diagnostics := by
  unfold SysmonState.finish
  cases state.block <;> rfl

theorem finish_gates (state : SysmonState) : state.finish.gates = state.gates := by
  unfold SysmonState.finish
  cases state.block <;> rfl

theorem finish_in_rules (state : SysmonState) : state.finish.inRules = state.inRules := by
  unfold SysmonState.finish
  cases state.block <;> rfl

theorem extend_nil (block : SysmonBlock) : block.extend [] = block := by
  simp [SysmonBlock.extend]

theorem map_extend_nil (opened : Option SysmonBlock) :
    (opened.map fun block => block.extend []) = opened := by
  simp only [extend_nil]
  exact Option.map_id'

theorem extend_cons (block : SysmonBlock) (line : NumberedLine) (lines : List NumberedLine) :
    (block.extend [line]).extend lines = block.extend (line :: lines) := by
  simp only [SysmonBlock.extend, List.append_assoc, ← List.map_append, ← List.filterMap_append,
    List.singleton_append]

end Blocks

section Body

variable {line : NumberedLine} {lines : List NumberedLine}

theorem body_lines_boundary (boundary : isBoundary line.1 = true) :
    bodyLines (line :: lines) = [] := by
  simp [bodyLines, boundary]

theorem body_lines_skipped (inside : isBoundary line.1 = false)
    (skipped : isSkipped line.1 = true) : bodyLines (line :: lines) = bodyLines lines := by
  simp [bodyLines, inside, skipped]

theorem body_lines_kept (inside : isBoundary line.1 = false) (kept : isSkipped line.1 = false) :
    bodyLines (line :: lines) = line :: bodyLines lines := by
  simp [bodyLines, inside, kept]

end Body

section Step

variable (sourceId : String)

/-- What the loop has read when it goes from one state to another over lines of the section. -/
structure Reads (state : SysmonState) (lines : List NumberedLine) (last : SysmonState) :
    Prop where
  gates : last.finish.gates = state.gates
  rules : last.finish.rules = state.rules ++ blockRules (state.rules.length + 1)
    ((state.block.map fun block => block.extend (bodyLines lines)).toList ++
      (textBlocks lines).map (TextBlock.toSysmon sourceId))
  diagnostics : last.finish.diagnostics = state.diagnostics ++
    (reportedLines state.block.isSome lines).map (reportOf sourceId)

theorem reads_nil (state : SysmonState) : Reads sourceId state [] state := by
  constructor
  · exact finish_gates state
  · simp only [bodyLines, List.takeWhile_nil, List.filter_nil, map_extend_nil, textBlocks,
      List.map_nil, List.append_nil, finish_rules]
  · simp [finish_diagnostics, reportedLines]

variable {sourceId} {state next last : SysmonState} {line : NumberedLine}
  {lines : List NumberedLine}

/-- A boundary closes the open block. -/
theorem reads_finished (boundary : isBoundary line.1 = true)
    (gates : last.finish.gates = state.gates)
    (rules : last.finish.rules = state.finish.rules ++ blockRules (state.finish.rules.length + 1)
      ((textBlocks (line :: lines)).map (TextBlock.toSysmon sourceId)))
    (diagnostics : last.finish.diagnostics = state.diagnostics ++
      (reportedLines state.block.isSome (line :: lines)).map (reportOf sourceId)) :
    Reads sourceId state (line :: lines) last := by
  constructor
  · exact gates
  · rw [rules, finish_rules, body_lines_boundary boundary, map_extend_nil, block_rules_append,
      List.append_assoc]
    congr 3
    simp [blockRules]
    omega
  · exact diagnostics

theorem version_step (version : isRuleVersion line.1 = true) :
    readSysmonLine sourceId state line = .ok { state.finish with inRules := true } := by
  simp [readSysmonLine, version]

theorem reads_version (version : isRuleVersion line.1 = true)
    (rest : Reads sourceId { state.finish with inRules := true } lines last) :
    Reads sourceId state (line :: lines) last := by
  have notHeader : isHeader line.1 = false := by simp [isHeader, version]
  apply reads_finished
  · simp [isBoundary, version]
  · rw [rest.gates]
    exact finish_gates state
  · rw [rest.rules, textBlocks, notHeader]
    simp [finish_block]
  · rw [rest.diagnostics, reportedLines, version]
    simp [finish_block, finish_diagnostics]

theorem header_captured (header : isHeader line.1 = true) :
    isRuleVersion line.1 = false ∧ ruleHeader.matchText line.1 = some (headerCaptures line.1) := by
  rw [isHeader, Bool.and_eq_true, Bool.not_eq_true', Option.isSome_iff_exists] at header
  obtain ⟨notVersion, captures, found⟩ := header
  exact ⟨notVersion, by rw [headerCaptures, found, Option.getD_some]⟩

/-- A header closes the open block and opens its own. -/
theorem header_step (inside : state.inRules = true) (header : isHeader line.1 = true)
    (spelled : isMisspelled line.1 = false) :
    readSysmonLine sourceId state line =
      .ok { state.finish with block := some (TextBlock.toSysmon sourceId ⟨line, []⟩) } := by
  obtain ⟨notVersion, found⟩ := header_captured header
  have known : headerEffect line.1 = "include".toList ∨ headerEffect line.1 = "exclude".toList := by
    simpa [isMisspelled, header, or_iff_not_imp_left] using spelled
  have effect : effectOf (headerEffect line.1) = .ok (TextBlock.effect ⟨line, []⟩) := by
    rcases known with spelling | spelling
    · simp [effectOf, TextBlock.effect, spelling]
    · simp [effectOf, TextBlock.effect, spelling]
  simp only [readSysmonLine, notVersion, inside, Bool.false_eq_true, if_false, Bool.not_true,
    readSectionLine, found]
  rw [← headerEffect, effect]
  rfl

theorem misspelled_step (sourceId : String) (inside : state.inRules = true)
    (misspelled : isMisspelled line.1 = true) :
    ∃ raised, readSysmonLine sourceId state line = .error raised := by
  rw [isMisspelled, Bool.and_eq_true] at misspelled
  obtain ⟨header, unknown⟩ := misspelled
  obtain ⟨notVersion, found⟩ := header_captured header
  simp only [List.contains_cons, List.contains_nil, Bool.or_false, Bool.not_eq_true',
    Bool.or_eq_false_iff, beq_eq_false_iff_ne] at unknown
  have effect : effectOf (headerEffect line.1) =
      .error ⟨pyRepr (headerEffect line.1) ++ " is not a valid Effect"⟩ := by
    rw [effectOf, if_neg unknown.1, if_neg unknown.2]
  refine ⟨⟨pyRepr (headerEffect line.1) ++ " is not a valid Effect"⟩, ?_⟩
  simp only [readSysmonLine, notVersion, inside, Bool.false_eq_true, if_false, Bool.not_true,
    readSectionLine, found]
  rw [← headerEffect, effect]
  rfl

theorem to_sysmon_extend (body : List NumberedLine) :
    (TextBlock.toSysmon sourceId ⟨line, []⟩).extend body =
      TextBlock.toSysmon sourceId ⟨line, body⟩ := by
  simp only [TextBlock.toSysmon, SysmonBlock.extend, TextBlock.predicates, List.map_nil,
    List.filterMap_nil, List.nil_append]
  rfl

theorem reads_header (header : isHeader line.1 = true)
    (rest : Reads sourceId
      { state.finish with block := some (TextBlock.toSysmon sourceId ⟨line, []⟩) } lines last) :
    Reads sourceId state (line :: lines) last := by
  have notVersion := (header_captured header).1
  apply reads_finished
  · simp [isBoundary, header]
  · rw [rest.gates]
    exact finish_gates state
  · rw [rest.rules, textBlocks, if_pos header]
    simp [to_sysmon_extend]
  · rw [rest.diagnostics, reportedLines, notVersion, header]
    simp [finish_diagnostics]

theorem extend_single (block : SysmonBlock) :
    block.extend [line] =
      { block with
        body := block.body ++ [line.1]
        predicates := block.predicates ++ (linePredicate line.1).toList } := by
  cases predicate : linePredicate line.1 <;> simp [SysmonBlock.extend, predicate]

theorem read_block_line_eq (origin : Origin) (block : SysmonBlock) :
    readBlockLine origin state block line.1 =
      if (linePredicate line.1).isSome then { state with block := some (block.extend [line]) }
      else { state with block := some (block.extend [line]) }.report
        "unrecognised sysmon -c rule syntax" origin line.1 := by
  rw [extend_single]
  unfold readBlockLine linePredicate
  cases sysmonFilter.matchText line.1 with
  | some captures => rfl
  | none =>
      cases containsText "compound rule".toList (lower line.1) with
      | true => rfl
      | false => simp only [Bool.false_eq_true, if_false, Option.isSome_none, Option.toList_none,
          List.append_nil]

section Plain

variable (notVersion : isRuleVersion line.1 = false) (notHeader : isHeader line.1 = false)
include notVersion notHeader

/-- A line that is no boundary leaves the gates and the closed blocks alone. -/
theorem plain_step (inside : state.inRules = true) :
    readSysmonLine sourceId state line =
      if isSkipped line.1 then .ok state
      else
        match state.block with
        | none =>
            .ok (state.report "unrecognised sysmon -c rule configuration line"
              (lineOrigin sourceId line.2) line.1)
        | some block => .ok (readBlockLine (lineOrigin sourceId line.2) state block line.1) := by
  have unmatched : ruleHeader.matchText line.1 = none := by
    simpa [isHeader, notVersion] using notHeader
  have skips : isSkipped line.1 = true ↔ strip line.1 = [] ∨ isNoRules line.1 = true := by
    rw [isSkipped, Bool.or_eq_true, decide_eq_true_eq]
  simp only [readSysmonLine, notVersion, inside, Bool.false_eq_true, if_false, Bool.not_true,
    readSectionLine, unmatched]
  by_cases skipped : isSkipped line.1 = true
  · rw [if_pos (skips.mp skipped), if_pos skipped]
  · rw [if_neg (skips.not.mp skipped)]
    exact (if_neg skipped).symm

theorem not_boundary : isBoundary line.1 = false := by
  rw [isBoundary, notVersion, notHeader]
  rfl

theorem reads_skipped (skipped : isSkipped line.1 = true)
    (rest : Reads sourceId state lines last) : Reads sourceId state (line :: lines) last := by
  have body : bodyLines (line :: lines) = bodyLines lines :=
    body_lines_skipped (not_boundary notVersion notHeader) skipped
  constructor
  · exact rest.gates
  · rw [rest.rules, body, textBlocks, notHeader]
    rfl
  · rw [rest.diagnostics, reportedLines, notVersion, notHeader, skipped]
    rfl

theorem reads_stray (kept : isSkipped line.1 = false) (closed : state.block = none)
    (rest : Reads sourceId
      (state.report "unrecognised sysmon -c rule configuration line"
        (lineOrigin sourceId line.2) line.1) lines last) :
    Reads sourceId state (line :: lines) last := by
  constructor
  · exact rest.gates
  · rw [rest.rules, textBlocks, notHeader]
    simp [SysmonState.report, closed]
  · rw [rest.diagnostics, reportedLines, notVersion, notHeader, kept]
    simp [SysmonState.report, closed, reportOf]

theorem reads_body {block : SysmonBlock} (kept : isSkipped line.1 = false)
    (opened : state.block = some block)
    (rest : Reads sourceId
      (if (linePredicate line.1).isSome then { state with block := some (block.extend [line]) }
        else { state with block := some (block.extend [line]) }.report
          "unrecognised sysmon -c rule syntax" (lineOrigin sourceId line.2) line.1) lines last) :
    Reads sourceId state (line :: lines) last := by
  have body : bodyLines (line :: lines) = line :: bodyLines lines :=
    body_lines_kept (not_boundary notVersion notHeader) kept
  cases predicate : (linePredicate line.1).isSome with
  | true =>
      rw [predicate, if_pos rfl] at rest
      constructor
      · exact rest.gates
      · rw [rest.rules, body, textBlocks, notHeader]
        simp [opened, extend_cons]
      · rw [rest.diagnostics, reportedLines, notVersion, notHeader, kept, predicate]
        simp [opened]
  | false =>
      rw [predicate, if_neg Bool.false_ne_true] at rest
      constructor
      · exact rest.gates
      · rw [rest.rules, body, textBlocks, notHeader]
        simp [SysmonState.report, opened, extend_cons]
      · rw [rest.diagnostics, reportedLines, notVersion, notHeader, kept, predicate]
        simp [SysmonState.report, opened, reportOf]

end Plain

variable (sourceId) in
/-- One line of the section: the loop goes on from a state that accounts for the line. -/
theorem section_step (inside : state.inRules = true) (spelled : isMisspelled line.1 = false) :
    ∃ next, readSysmonLine sourceId state line = .ok next ∧ next.inRules = true ∧
      ∀ lines last, Reads sourceId next lines last → Reads sourceId state (line :: lines) last := by
  cases version : isRuleVersion line.1 with
  | true => exact ⟨_, version_step version, rfl, fun _ _ => reads_version version⟩
  | false =>
      cases header : isHeader line.1 with
      | true =>
          refine ⟨_, header_step inside header spelled, ?_, fun _ _ => reads_header header⟩
          simp only [finish_in_rules, inside]
      | false =>
          cases skipped : isSkipped line.1 with
          | true =>
              refine ⟨state, ?_, inside, fun _ _ => reads_skipped version header skipped⟩
              rw [plain_step version header inside, skipped, if_pos rfl]
          | false =>
              cases opened : state.block with
              | none =>
                  refine ⟨_, ?_, ?_, fun _ _ => reads_stray version header skipped opened⟩
                  · rw [plain_step version header inside, skipped, opened]
                    rfl
                  · exact inside
              | some block =>
                  refine ⟨_, ?_, ?_, fun _ _ => reads_body version header skipped opened⟩
                  · rw [plain_step version header inside, skipped, opened]
                    simp only [Bool.false_eq_true, if_false, read_block_line_eq]
                  · split
                    · exact inside
                    · exact inside

variable (sourceId) in
/-- A run over the rule section reads its blocks and reports its strange lines. -/
theorem section_run (lines : List NumberedLine) (state : SysmonState)
    (inside : state.inRules = true) (spelled : ∀ line ∈ lines, isMisspelled line.1 = false) :
    ∃ last, lines.foldlM (readSysmonLine sourceId) state = .ok last ∧
      Reads sourceId state lines last := by
  induction lines generalizing state with
  | nil => exact ⟨state, rfl, reads_nil sourceId state⟩
  | cons line lines induction =>
      obtain ⟨next, step, stays, grows⟩ :=
        section_step sourceId inside (spelled line List.mem_cons_self)
      obtain ⟨last, run, rest⟩ := induction next stays
        fun other member => spelled other (List.mem_cons_of_mem _ member)
      refine ⟨last, ?_, grows lines last rest⟩
      rw [List.foldlM_cons, step]
      exact run

variable (sourceId) in
/-- A header that is misspelled ends the run with an exception. -/
theorem section_run_misspelled (lines : List NumberedLine) (state : SysmonState)
    (inside : state.inRules = true) (misspelled : ∃ line ∈ lines, isMisspelled line.1 = true) :
    ∃ raised, lines.foldlM (readSysmonLine sourceId) state = .error raised := by
  induction lines generalizing state with
  | nil =>
      obtain ⟨line, member, _⟩ := misspelled
      cases member
  | cons line lines induction =>
      rw [List.foldlM_cons]
      cases spelling : isMisspelled line.1 with
      | true =>
          obtain ⟨raised, step⟩ := misspelled_step sourceId inside spelling
          exact ⟨raised, by rw [step]; rfl⟩
      | false =>
          obtain ⟨next, step, stays, _⟩ := section_step sourceId inside spelling
          rw [step]
          apply induction next stays
          obtain ⟨other, member, unknown⟩ := misspelled
          rcases List.mem_cons.mp member with same | later
          · rw [same, spelling] at unknown
            cases unknown
          · exact ⟨other, later, unknown⟩

end Step

end Sigmascope
