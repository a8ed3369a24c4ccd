import Sigmascope.Evaluate.SysmonText

/-!
The account of a Sysmon rule section: each of its lines that says something stands in
one rule, or is reported, or both, and the rules hold the lines of its blocks in order.
-/

namespace Sigmascope

set_option autoImplicit false

open Sigmascope.Library Sigmascope.Library.PyText

/-- A line that is neither a version line, nor blank, nor the remark that there are no rules. -/
def isKept (line : Text) : Bool := !isRuleVersion line && !isSkipped line

/-- A line that opens a block or belongs to the open one. -/
def isBlockLine (inBlock : Bool) (line : Text) : Bool := isHeader line || (inBlock && isKept line)

/-- Whether a block is open behind a line. -/
def staysOpen (inBlock : Bool) (line : Text) : Bool :=
  isHeader line || (inBlock && !isRuleVersion line)

/-- The lines of all blocks, in the order of the text. -/
def blockLines (inBlock : Bool) : List NumberedLine → List NumberedLine
  | [] => []
  | line :: lines =>
      if isBlockLine inBlock line.1 then line :: blockLines (staysOpen inBlock line.1) lines
      else blockLines (staysOpen inBlock line.1) lines

/-- A line of a block that is no header and stands for no predicate. -/
def isUnrecognised (line : Text) : Bool := !isHeader line && (linePredicate line).isNone

/-- A line that is reported, whether a block is open or not. -/
def isReported (inBlock : Bool) (line : Text) : Bool :=
  isKept line && !isHeader line && !(inBlock && (linePredicate line).isSome)

namespace TextBlock

def lines (block : TextBlock) : List NumberedLine := block.header :: block.body

end TextBlock

section Lines

variable {inBlock : Bool} {line : NumberedLine} {lines : List NumberedLine}

theorem block_lines_cons :
    blockLines inBlock (line :: lines) =
      (if isBlockLine inBlock line.1 then [line] else []) ++
        blockLines (staysOpen inBlock line.1) lines := by
  rw [blockLines]
  split
  · rfl
  · rfl

theorem block_lines_sublist (inBlock : Bool) (lines : List NumberedLine) :
    (blockLines inBlock lines).Sublist lines := by
  induction lines generalizing inBlock with
  | nil => exact List.Sublist.slnil
  | cons line lines induction =>
      rw [blockLines]
      split
      · exact (induction _).cons_cons line
      · exact (induction _).cons line

theorem reported_lines_cons :
    reportedLines inBlock (line :: lines) =
      (if isReported inBlock line.1 then [(inBlock, line)] else []) ++
        reportedLines (staysOpen inBlock line.1) lines := by
  rw [reportedLines]
  cases version : isRuleVersion line.1 with
  | true =>
      have notHeader : isHeader line.1 = false := by simp [isHeader, version]
      simp [isReported, isKept, staysOpen, version, notHeader]
  | false =>
      cases header : isHeader line.1 with
      | true => simp [isReported, staysOpen, header]
      | false =>
          cases skipped : isSkipped line.1 with
          | true => simp [isReported, isKept, staysOpen, version, header, skipped]
          | false =>
              cases recognised : inBlock && (linePredicate line.1).isSome <;>
                simp [isReported, isKept, staysOpen, version, header, skipped, recognised]

theorem reported_lines_sublist (inBlock : Bool) (lines : List NumberedLine) :
    ((reportedLines inBlock lines).map Prod.snd).Sublist lines := by
  induction lines generalizing inBlock with
  | nil => exact List.Sublist.slnil
  | cons line lines induction =>
      rw [reported_lines_cons]
      split
      · exact (induction _).cons_cons line
      · exact (induction _).cons line

theorem text_block_headers (lines : List NumberedLine) :
    (textBlocks lines).map TextBlock.header = lines.filter fun line => isHeader line.1 := by
  induction lines with
  | nil => rfl
  | cons line lines induction =>
      rw [textBlocks, List.filter_cons]
      split
      · rw [List.map_cons, induction]
      · exact induction

/-- The block lines are the rest of the open block, followed by the blocks one by one. -/
theorem block_lines_eq (inBlock : Bool) (lines : List NumberedLine) :
    blockLines inBlock lines =
      (if inBlock then bodyLines lines else []) ++ (textBlocks lines).flatMap TextBlock.lines := by
  induction lines generalizing inBlock with
  | nil => cases inBlock <;> rfl
  | cons line lines induction =>
      rw [block_lines_cons, induction, textBlocks]
      cases header : isHeader line.1 with
      | true =>
          have boundary : isBoundary line.1 = true := by simp [isBoundary, header]
          simp [isBlockLine, staysOpen, header, body_lines_boundary boundary, TextBlock.lines]
      | false =>
          cases version : isRuleVersion line.1 with
          | true =>
              have boundary : isBoundary line.1 = true := by simp [isBoundary, version]
              simp [isBlockLine, isKept, staysOpen, header, version,
                body_lines_boundary boundary]
          | false =>
              have inside : isBoundary line.1 = false := not_boundary version header
              cases skipped : isSkipped line.1 with
              | true =>
                  simp [isBlockLine, isKept, staysOpen, header, version, skipped,
                    body_lines_skipped inside skipped]
              | false =>
                  cases inBlock <;>
                    simp [isBlockLine, isKept, staysOpen, header, version, skipped,
                      body_lines_kept inside skipped]

/-- What becomes of a kept line: it is in a block, where it is reported if it is not recognised,
or it is in none and is reported. -/
theorem kept_line_cases (inBlock : Bool) (kept : isKept line.1 = true) :
    (isBlockLine inBlock line.1 = true ∧ isReported inBlock line.1 = isUnrecognised line.1) ∨
      (isBlockLine inBlock line.1 = false ∧ isReported inBlock line.1 = true) := by
  simp only [isBlockLine, isReported, isUnrecognised, kept]
  cases isHeader line.1 with
  | true => simp
  | false => cases inBlock <;> cases linePredicate line.1 <;> simp

/-- Over lines that differ from each other, a kept line is counted once in the blocks, once among
the reported lines, or once in both. -/
theorem kept_line_counts (distinct : lines.Nodup) (member : line ∈ lines)
    (kept : isKept line.1 = true) (inBlock : Bool) :
    (List.count line (blockLines inBlock lines) = 1 ∧
        List.count line ((reportedLines inBlock lines).map Prod.snd) =
          (isUnrecognised line.1).toNat) ∨
      (List.count line (blockLines inBlock lines) = 0 ∧
        List.count line ((reportedLines inBlock lines).map Prod.snd) = 1) := by
  induction lines generalizing inBlock with
  | nil => cases member
  | cons head lines induction =>
      rw [List.nodup_cons] at distinct
      rw [block_lines_cons, reported_lines_cons, List.map_append, List.count_append,
        List.count_append]
      rcases List.mem_cons.mp member with same | later
      · have absent : List.count line (blockLines (staysOpen inBlock head.1) lines) = 0 ∧
            List.count line
              ((reportedLines (staysOpen inBlock head.1) lines).map Prod.snd) = 0 := by
          rw [same]
          exact ⟨List.count_eq_zero.mpr fun inside =>
              distinct.1 ((block_lines_sublist _ _).subset inside),
            List.count_eq_zero.mpr fun inside =>
              distinct.1 ((reported_lines_sublist _ _).subset inside)⟩
        rw [absent.1, absent.2, ← same]
        rcases kept_line_cases inBlock kept with
          ⟨inside, reported⟩ | ⟨outside, reported⟩
        · left
          rw [inside, reported]
          cases isUnrecognised line.1 <;> simp
        · right
          simp [outside, reported]
      · have other : head ≠ line := by
          intro same
          rw [same] at distinct
          exact distinct.1 later
        have blockHead :
            List.count line (if isBlockLine inBlock head.1 then [head] else []) = 0 := by
          split <;> simp [other]
        have reportedHead : List.count line
            ((if isReported inBlock head.1 then [(inBlock, head)] else []).map Prod.snd) = 0 := by
          split <;> simp [other]
        rw [blockHead, reportedHead, Nat.zero_add, Nat.zero_add]
        exact induction distinct.2 later _

end Lines

section Numbers

variable (sourceId text : String)

theorem numbers_increase (lines : List Text) (first : Nat) :
    (lines.zipIdx first).Pairwise fun before after => before.2 < after.2 := by
  rw [← List.pairwise_map (f := Prod.snd) (R := fun before after : Nat => before < after),
    List.zipIdx_map_snd]
  exact List.pairwise_lt_range' 1 Nat.one_pos

/-- The line numbers of the section increase, and are above those of the summary. -/
theorem section_numbers :
    ((sectionLines text).Pairwise fun before after => before.2 < after.2) ∧
      ∀ before ∈ (summaryLines text).zipIdx 1, ∀ after ∈ sectionLines text,
        before.2 < after.2 := by
  have increase := numbers_increase (splitlines text.toList) 1
  rcases numbered_lines_cases text with ⟨_, none⟩ | ⟨marker, _, whole⟩
  · rw [none]
    exact ⟨List.Pairwise.nil, by simp⟩
  · rw [whole, List.pairwise_append] at increase
    obtain ⟨_, behind, across⟩ := increase
    refine ⟨(List.pairwise_cons.mp behind).2, ?_⟩
    intro before summarised after member
    exact across before summarised after (List.mem_cons_of_mem marker member)

theorem section_distinct : (sectionLines text).Nodup := by
  apply (section_numbers text).1.imp
  intro before after increase same
  rw [same] at increase
  exact Nat.lt_irrefl _ increase

end Numbers

section Step

variable {sourceId : String} {state next last : SysmonState} {line : NumberedLine}

theorem report_origin {message : String} {origin : Origin} {text : Text}
    {diagnostic : Diagnostic}
    (member : diagnostic ∈ (state.report message origin text).diagnostics) :
    diagnostic ∈ state.diagnostics ∨ diagnostic.origin = origin := by
  rcases List.mem_append.mp member with old | new
  · exact Or.inl old
  · rw [List.mem_singleton.mp new]
    exact Or.inr rfl

/-- A line of the summary is the only place that its diagnostics name. -/
theorem summary_line_origins (outside : state.inRules = false)
    (unmarked : isSectionMarker line.1 = false)
    (read : readSysmonLine sourceId state line = .ok next) :
    next.inRules = false ∧ ∀ diagnostic ∈ next.diagnostics,
      diagnostic ∈ state.diagnostics ∨ diagnostic.origin = lineOrigin sourceId line.2 := by
  simp only [isSectionMarker, Bool.or_eq_false_iff] at unmarked
  have same : readSummaryLine (lineOrigin sourceId line.2) state line.1 = next := by
    simpa [readSysmonLine, unmarked.1, outside] using read
  rw [← same]
  rcases read_summary_line_cases (lineOrigin sourceId line.2) state line.1 unmarked.2 with
    ⟨_, result⟩ | ⟨_, _, _, result⟩ | ⟨_, _, _, result⟩
  · rw [result]
    exact ⟨outside, fun _ old => Or.inl old⟩
  · rw [result]
    exact ⟨outside, fun _ old => Or.inl old⟩
  · rw [result]
    exact ⟨outside, fun _ member => report_origin member⟩

theorem summary_run_origins (lines : List NumberedLine) (outside : state.inRules = false)
    (unmarked : ∀ line ∈ lines, isSectionMarker line.1 = false)
    (run : lines.foldlM (readSysmonLine sourceId) state = .ok last) :
    ∀ diagnostic ∈ last.diagnostics, diagnostic ∈ state.diagnostics ∨
      ∃ line ∈ lines, diagnostic.origin = lineOrigin sourceId line.2 := by
  induction lines generalizing state with
  | nil =>
      cases run
      exact fun _ old => Or.inl old
  | cons line lines induction =>
      rw [List.foldlM_cons] at run
      cases read : readSysmonLine sourceId state line with
      | error raised =>
          rw [read] at run
          cases run
      | ok next =>
          rw [read] at run
          obtain ⟨stays, added⟩ :=
            summary_line_origins outside (unmarked line List.mem_cons_self) read
          intro diagnostic member
          rcases induction stays (fun other later =>
            unmarked other (List.mem_cons_of_mem line later)) run diagnostic member with
            old | ⟨other, later, origin⟩
          · rcases added diagnostic old with older | origin
            · exact Or.inl older
            · exact Or.inr ⟨line, List.mem_cons_self, origin⟩
          · exact Or.inr ⟨other, List.mem_cons_of_mem line later, origin⟩

end Step

/-- A rule that is made of a block: the block starts with its header, and the raw text of the
rule is the whole block. -/
structure MadeOf (sourceId : String) (block : List NumberedLine) (rule : Rule) : Prop where
  opened : ∃ header body, block = header :: body ∧ isHeader header.1 = true ∧
    rule.origin = lineOrigin sourceId header.2
  raw : rule.raw = "\n".intercalate (block.map fun line => String.ofList line.1)

/-- How often a line stands in the blocks, all taken together. -/
def occurrences (blocks : List (List NumberedLine)) (line : NumberedLine) : Nat :=
  List.count line blocks.flatten

/-- How many diagnostics name a line and quote it. -/
def ownDiagnostics (sourceId : String) (parsed : ParseResult) (line : NumberedLine) : Nat :=
  parsed.diagnostics.countP fun diagnostic =>
    diagnostic.origin == lineOrigin sourceId line.2 && diagnostic.raw == String.ofList line.1

/-- The rules are made of the blocks, the blocks hold the block lines in order, and each kept
line is in one block, or has a diagnostic of its own, or is in one block and not recognised. -/
structure SectionAccount (sourceId : String) (lines : List NumberedLine) (parsed : ParseResult)
    (blocks : List (List NumberedLine)) : Prop where
  made : List.Forall₂ (MadeOf sourceId) blocks parsed.rules
  inOrder : blocks.flatten = blockLines false lines
  settled : ∀ line ∈ lines, isKept line.1 = true →
    (occurrences blocks line = 1 ∧
        ownDiagnostics sourceId parsed line = (isUnrecognised line.1).toNat) ∨
      (occurrences blocks line = 0 ∧ ownDiagnostics sourceId parsed line = 1)
  orders : parsed.rules.map Rule.order = List.range' 1 parsed.rules.length
  origins : ∃ numbers : List Nat, parsed.rules.map Rule.origin = numbers.map (lineOrigin sourceId) ∧
    numbers.Pairwise (· < ·)
  determinacy : parsed.determinacy = .effective ↔ parsed.diagnostics = []

section Account

variable {sourceId text : String} {parsed : ParseResult} {summary : SysmonState}

theorem block_rules_made (sourceId : String) (lines : List NumberedLine) (start : Nat) :
    List.Forall₂ (MadeOf sourceId) ((textBlocks lines).map TextBlock.lines)
      (blockRules start ((textBlocks lines).map (TextBlock.toSysmon sourceId))) := by
  induction lines generalizing start with
  | nil => exact List.Forall₂.nil
  | cons line lines induction =>
      rw [textBlocks]
      cases header : isHeader line.1 with
      | false => exact induction start
      | true =>
          apply List.Forall₂.cons
          · constructor
            · exact ⟨line, bodyLines lines, rfl, header, rfl⟩
            · simp [TextBlock.lines, SysmonState.blockRule, TextBlock.toSysmon,
                Function.comp_def]
          · exact induction (start + 1)

theorem block_rules_orders (start : Nat) (blocks : List SysmonBlock) :
    (blockRules start blocks).map Rule.order =
      List.range' start (blockRules start blocks).length := by
  have numbers := List.zipIdx_map_snd start blocks
  rw [blockRules, List.map_map, List.length_map, List.length_zipIdx]
  exact numbers

theorem block_rules_origins (sourceId : String) (start : Nat) (blocks : List TextBlock) :
    (blockRules start (blocks.map (TextBlock.toSysmon sourceId))).map Rule.origin =
      (blocks.map fun block => block.header.2).map (lineOrigin sourceId) := by
  induction blocks generalizing start with
  | nil => rfl
  | cons block blocks induction =>
      rw [List.map_cons, List.map_cons, List.map_cons, ← induction (start + 1)]
      rfl

theorem header_numbers_increase (text : String) :
    ((textBlocks (sectionLines text)).map fun block => block.header.2).Pairwise (· < ·) := by
  have headers : (textBlocks (sectionLines text)).map (fun block => block.header.2) =
      ((sectionLines text).filter fun line => isHeader line.1).map Prod.snd := by
    rw [← text_block_headers, List.map_map]
    rfl
  rw [headers, List.pairwise_map]
  exact (section_numbers text).1.sublist List.filter_sublist

/-- The diagnostics of a line of the section are the reports about it. -/
theorem own_diagnostics_eq (reading : TextReading sourceId text parsed summary)
    (run : ((summaryLines text).zipIdx 1).foldlM (readSysmonLine sourceId) {} = .ok summary)
    {line : NumberedLine} (member : line ∈ sectionLines text) :
    ownDiagnostics sourceId parsed line =
      List.count line ((reportedLines false (sectionLines text)).map Prod.snd) := by
  have early : summary.diagnostics.countP (fun diagnostic =>
      diagnostic.origin == lineOrigin sourceId line.2 &&
        diagnostic.raw == String.ofList line.1) = 0 := by
    rw [List.countP_eq_zero]
    intro diagnostic reported named
    rw [Bool.and_eq_true, beq_iff_eq] at named
    have unmarked : ∀ line ∈ (summaryLines text).zipIdx 1, isSectionMarker line.1 = false := by
      intro other summarised
      exact summary_unmarked text other.1 (List.fst_mem_of_mem_zipIdx summarised)
    rcases summary_run_origins _ rfl unmarked run diagnostic reported with
      old | ⟨other, summarised, origin⟩
    · cases old
    · have same := line_origin_injective sourceId (origin.symm.trans named.1)
      have above := (section_numbers text).2 other summarised line member
      omega
  rw [ownDiagnostics, reading.diagnostics, List.countP_append, early, Nat.zero_add,
    List.countP_map, List.count, List.countP_map]
  congr 1
  funext reported
  apply Bool.eq_iff_iff.mpr
  simp only [Function.comp_apply, reportOf, Bool.and_eq_true, beq_iff_eq, String.ofList_inj]
  constructor
  · intro given
    exact Prod.ext given.2 (line_origin_injective sourceId given.1)
  · intro same
    rw [same]
    exact ⟨rfl, rfl⟩

theorem occurrences_eq (lines : List NumberedLine) (line : NumberedLine) :
    occurrences ((textBlocks lines).map TextBlock.lines) line =
      List.count line (blockLines false lines) := by
  rw [block_lines_eq, occurrences, List.flatMap_def]
  rfl

theorem section_account (reading : TextReading sourceId text parsed summary)
    (run : ((summaryLines text).zipIdx 1).foldlM (readSysmonLine sourceId) {} = .ok summary) :
    SectionAccount sourceId (sectionLines text) parsed
      ((textBlocks (sectionLines text)).map TextBlock.lines) where
  made := by
    rw [reading.rules]
    exact block_rules_made sourceId _ 1
  inOrder := by
    rw [block_lines_eq, List.flatMap_def]
    rfl
  settled := by
    intro line member kept
    rw [occurrences_eq, own_diagnostics_eq reading run member]
    exact kept_line_counts (section_distinct text) member kept false
  orders := by
    rw [reading.rules]
    exact block_rules_orders 1 _
  origins := by
    refine ⟨_, ?_, header_numbers_increase text⟩
    rw [reading.rules]
    exact block_rules_origins sourceId 1 _
  determinacy := by
    rw [reading.determinacy, determinacyOf]
    cases parsed.diagnostics <;> simp

end Account

/-- Every line of the rule section is accounted for exactly when no header spells its effect in a
way that makes the parser raise. -/
theorem section_accounted_iff (sourceId text : String) :
    (∃ parsed blocks, parseSysmonCurrent sourceId text = .ok parsed ∧
        SectionAccount sourceId (sectionLines text) parsed blocks) ↔
      ¬∃ line ∈ sectionLines text, isMisspelled line.1 = true := by
  constructor
  · intro given misspelled
    obtain ⟨parsed, _, returned, _⟩ := given
    obtain ⟨raised, failed⟩ := (parse_raises_iff sourceId text).mpr misspelled
    rw [failed] at returned
    cases returned
  · intro clean
    obtain ⟨parsed, summary, returned, run, reading⟩ :=
      parse_text_run sourceId text (spelled_of_not_misspelled clean)
    exact ⟨parsed, _, returned, section_account reading run⟩

/-- A header whose effect starts with a dotless i. -/
def dotlessHeader : String :=
  "Rule configuration (version 4.90):\n" ++
    " - ProcessCreate onmatch: \u0131nclude combine rules using 'Or'"

/-- The parser raises, so that the header is in no rule and in no diagnostic. -/
theorem dotless_header_lost :
    ¬∃ parsed blocks, parseSysmonCurrent "sysmon -c" dotlessHeader = .ok parsed ∧
      SectionAccount "sysmon -c" (sectionLines dotlessHeader) parsed blocks := by
  have raised : (parseSysmonCurrent "sysmon -c" dotlessHeader).toOption = none := by
    decide +kernel
  intro given
  obtain ⟨parsed, _, returned, _⟩ := given
  rw [returned] at raised
  cases raised

end Sigmascope
