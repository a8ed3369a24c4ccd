import Sigmascope.Evaluate.SysmonSemantics
import Sigmascope.Parse.SysmonBlocks

/-!
Sysmon verdicts in terms of the text: its summary lines, and the blocks and strange
lines of its rule section.
-/

namespace Sigmascope

set_option autoImplicit false

open Sigmascope.Library Sigmascope.Library.PyText

/-- The lines in front of the rule section. -/
def summaryLines (text : String) : List Text :=
  (splitlines text.toList).takeWhile fun line => !isSectionMarker line

/-- The lines behind the marker that opens the rule section. -/
def sectionLines (text : String) : List NumberedLine :=
  (((splitlines text.toList).zipIdx 1).dropWhile fun line => !isSectionMarker line.1).tail

/-- The line that says that there are no rules is no summary line. -/
theorem no_rules_not_summary {line : Text} (noRules : isNoRules line = true) :
    networkSummary line = none := by
  have unmatched : summaryPattern.matchText line = none := by
    by_contra matched
    rw [Regex.matchText, Option.map_eq_none_iff, ← ne_eq, Option.ne_none_iff_exists'] at matched
    obtain ⟨found, run⟩ := matched
    rw [Regex.matchAt, summaryPattern, Regex.run_concat_cons] at run
    obtain ⟨spaces, rest, whole, _, dash⟩ := Regex.run_greedy_word _ _ run
    simp only [Regex.run_concat_cons] at whole dash
    have inside : '-' ∈ line := by
      cases rest with
      | nil => cases dash
      | cons char rest =>
          simp only [Regex.run] at dash
          split at dash
          · rename_i isDash
            rw [← beq_iff_eq.mp isDash, whole]
            simp
          · cases dash
    have lowered : '-' ∈ lower (strip line) :=
      mem_lower (by decide) (mem_strip inside (by decide))
    rw [isNoRules, beq_iff_eq] at noRules
    rw [noRules] at lowered
    revert lowered
    decide
  rw [networkSummary, unmatched]

section Reading

variable (sourceId text : String)

/-- What the parser makes of a text: its summary is read by the state before the section, and
its rules and further diagnostics are those of the section. -/
structure TextReading (parsed : ParseResult) (summary : SysmonState) : Prop where
  before : BeforeSection (summaryLines text) summary
  determinacy : parsed.determinacy = determinacyOf parsed.diagnostics
  gates : parsed.gates = summary.gates
  rules : parsed.rules =
    blockRules 1 ((textBlocks (sectionLines text)).map (TextBlock.toSysmon sourceId))
  diagnostics : parsed.diagnostics =
    summary.diagnostics ++ (reportedLines false (sectionLines text)).map (reportOf sourceId)

/-- The marker opens the section and leaves everything else alone. -/
theorem marker_step {seen : List Text} {state : SysmonState} (before : BeforeSection seen state)
    {line : NumberedLine} (marker : isSectionMarker line.1 = true) :
    readSysmonLine sourceId state line = .ok { state with inRules := true } := by
  have finished : state.finish = state := by
    rw [SysmonState.finish, before.closed]
  cases version : isRuleVersion line.1 with
  | true => rw [version_step version, finished]
  | false =>
      have noRules : isNoRules line.1 = true := by
        simpa [isSectionMarker, version] using marker
      simp only [readSysmonLine, version, before.outside, Bool.false_eq_true, if_false,
        Bool.not_false, if_true, readSummaryLine, no_rules_not_summary noRules, noRules]

theorem take_while_numbered (accepts : Text → Bool) (lines : List Text) (start : Nat) :
    (lines.zipIdx start).takeWhile (fun line => accepts line.1) =
      (lines.takeWhile accepts).zipIdx start := by
  induction lines generalizing start with
  | nil => rfl
  | cons line lines induction =>
      rw [List.zipIdx_cons, List.takeWhile_cons, List.takeWhile_cons]
      cases accepts line with
      | true => simp [induction]
      | false => rfl

/-- A text is its summary, a marker and its section, or a summary alone. -/
theorem numbered_lines_cases :
    ((splitlines text.toList).zipIdx 1 = (summaryLines text).zipIdx 1 ∧
        sectionLines text = []) ∨
      ∃ marker, isSectionMarker marker.1 = true ∧
        (splitlines text.toList).zipIdx 1 =
          (summaryLines text).zipIdx 1 ++ marker :: sectionLines text := by
  have front := take_while_numbered (fun line => !isSectionMarker line) (splitlines text.toList) 1
  have whole := List.takeWhile_append_dropWhile (p := fun line : NumberedLine =>
    !isSectionMarker line.1) (l := (splitlines text.toList).zipIdx 1)
  rw [front] at whole
  unfold sectionLines
  cases back : ((splitlines text.toList).zipIdx 1).dropWhile
      fun line => !isSectionMarker line.1 with
  | nil =>
      rw [back, List.append_nil] at whole
      exact Or.inl ⟨whole.symm, rfl⟩
  | cons marker rest =>
      right
      have opens := List.head_dropWhile_not (fun line : NumberedLine => !isSectionMarker line.1)
        (l := (splitlines text.toList).zipIdx 1) (by rw [back]; simp)
      simp only [back, List.head_cons, Bool.not_eq_false'] at opens
      rw [back] at whole
      exact ⟨marker, opens, whole.symm⟩

theorem summary_unmarked : ∀ line ∈ summaryLines text, isSectionMarker line = false := by
  intro line member
  simpa using List.mem_takeWhile_imp member

/-- A text whose headers are all known is read, first its summary and then its section. -/
theorem parse_text_run
    (spelled : ∀ line ∈ sectionLines text, isMisspelled line.1 = false) :
    ∃ parsed summary, parseSysmonCurrent sourceId text = .ok parsed ∧
      ((summaryLines text).zipIdx 1).foldlM (readSysmonLine sourceId) {} = .ok summary ∧
      TextReading sourceId text parsed summary := by
  obtain ⟨summary, run, before⟩ :=
    before_section_run sourceId _ (summary_unmarked text) [] {} before_section_start 1
  rw [List.nil_append] at before
  rcases numbered_lines_cases text with ⟨whole, none⟩ | ⟨marker, opens, whole⟩
  · refine ⟨sysmonResult summary, summary, ?_, run, ?_⟩
    · rw [parseSysmonCurrent, whole, run]
      rfl
    · have finished : summary.finish = summary := by
        rw [SysmonState.finish, before.closed]
      constructor
      · exact before
      · rfl
      · rw [sysmonResult, finished]
      · rw [sysmonResult, finished, none, before.noRules]
        rfl
      · rw [sysmonResult, finished, none]
        simp [reportedLines]
  · obtain ⟨last, rest, reads⟩ :=
      section_run sourceId (sectionLines text) { summary with inRules := true } rfl spelled
    refine ⟨sysmonResult last, summary, ?_, run, ?_⟩
    · rw [parseSysmonCurrent, whole, List.foldlM_append, run]
      simp only [bind, Except.bind, List.foldlM_cons]
      rw [marker_step sourceId before opens]
      simp only [rest]
      rfl
    · constructor
      · exact before
      · rfl
      · exact reads.gates
      · have rules : last.finish.rules =
            blockRules 1 ((textBlocks (sectionLines text)).map (TextBlock.toSysmon sourceId)) := by
          simpa [before.noRules, before.closed] using reads.rules
        exact rules
      · have diagnostics := reads.diagnostics
        simp only [before.closed] at diagnostics
        exact diagnostics

theorem parse_text_reading
    (spelled : ∀ line ∈ sectionLines text, isMisspelled line.1 = false) :
    ∃ parsed summary, parseSysmonCurrent sourceId text = .ok parsed ∧
      TextReading sourceId text parsed summary := by
  obtain ⟨parsed, summary, returned, _, reading⟩ := parse_text_run sourceId text spelled
  exact ⟨parsed, summary, returned, reading⟩

variable {text} in
theorem spelled_of_not_misspelled
    (clean : ¬∃ line ∈ sectionLines text, isMisspelled line.1 = true) :
    ∀ line ∈ sectionLines text, isMisspelled line.1 = false := by
  intro line member
  apply Bool.eq_false_iff.mpr
  intro misspelled
  exact clean ⟨line, member, misspelled⟩

/-- A header that is misspelled makes the parser raise, and nothing else does. -/
theorem parse_raises_iff :
    (∃ raised, parseSysmonCurrent sourceId text = .error raised) ↔
      ∃ line ∈ sectionLines text, isMisspelled line.1 = true := by
  constructor
  · intro raises
    by_contra clean
    obtain ⟨raised, failed⟩ := raises
    obtain ⟨parsed, _, returned, _⟩ :=
      parse_text_reading sourceId text (spelled_of_not_misspelled clean)
    rw [returned] at failed
    cases failed
  · intro misspelled
    obtain ⟨summary, run, before⟩ :=
      before_section_run sourceId _ (summary_unmarked text) [] {} before_section_start 1
    rcases numbered_lines_cases text with ⟨_, none⟩ | ⟨marker, opens, whole⟩
    · rw [none] at misspelled
      obtain ⟨line, member, _⟩ := misspelled
      cases member
    · obtain ⟨raised, failed⟩ := section_run_misspelled sourceId (sectionLines text)
        { summary with inRules := true } rfl misspelled
      refine ⟨raised, ?_⟩
      rw [parseSysmonCurrent, whole, List.foldlM_append, run]
      simp only [bind, Except.bind, List.foldlM_cons]
      rw [marker_step sourceId before opens]
      simp only [failed]

end Reading

/-- A block that keeps some events of its type from being logged. -/
def TextBlock.restricts (block : TextBlock) : Bool :=
  block.effect == .included || block.predicates != []

/-- The summary gives a state of the network connection feature that is not recognised. -/
def StrangeSummary (text : String) : Prop :=
  ∃ value ∈ networkStates (summaryLines text), isNetworkState value = false

section Verdict

variable {sourceId text : String} {parsed : ParseResult} {summary : SysmonState}

theorem reading_diagnostics_nil_iff (reading : TextReading sourceId text parsed summary) :
    parsed.diagnostics = [] ↔
      ¬StrangeSummary text ∧ reportedLines false (sectionLines text) = [] := by
  rw [reading.diagnostics, List.append_eq_nil_iff, List.map_eq_nil_iff, reading.before.diagnostics,
    StrangeSummary]
  push Not
  simp only [ne_eq, Bool.not_eq_false]

/-- The rules of an event type stand for the blocks whose header spells its name. -/
theorem forall_matching_iff (reading : TextReading sourceId text parsed summary)
    (eventType : String) (property : Effect → List Predicate → Prop) :
    (∀ rule ∈ matchingRules parsed eventType, property rule.effect rule.predicates) ↔
      ∀ block ∈ textBlocks (sectionLines text), block.event = eventType →
        property block.effect block.predicates := by
  have numbered : ∀ (blocks : List SysmonBlock) (accepts : SysmonBlock → Prop),
      (∀ item ∈ blocks.zipIdx 1, accepts item.1) ↔ ∀ block ∈ blocks, accepts block := by
    intro blocks accepts
    rw [← List.forall_mem_map, List.zipIdx_map_fst]
  simp only [matchingRules, reading.rules, blockRules, List.mem_filter, and_imp,
    List.forall_mem_map]
  refine (numbered _ fun block => Rule.onEvent (SysmonState.blockRule block 0) eventType = true →
    property block.effect block.predicates).trans ?_
  rw [List.forall_mem_map]
  simp only [Rule.onEvent, SysmonState.blockRule, beq_iff_eq]
  rfl

theorem text_covered_iff (reading : TextReading sourceId text parsed summary)
    (eventType : String) :
    (evaluateEventType parsed eventType).1 = .covered ↔
      ¬SaysDisabled (summaryLines text) eventType ∧ parsed.diagnostics = [] ∧
        ∀ block ∈ textBlocks (sectionLines text), block.event = eventType →
          block.restricts = false := by
  have gate := summary_gate_false_iff reading.before eventType
  have notText := summary_gate_not_text reading.before eventType "unknown"
  rw [← reading.gates] at gate notText
  have unknown : parsed.determinacy = .unknown ↔ parsed.diagnostics ≠ [] := by
    rw [reading.determinacy, determinacy_unknown_iff]
  have free : (evaluateBlocks (matchingRules parsed eventType) eventType).1 = .covered ↔
      ∀ block ∈ textBlocks (sectionLines text), block.event = eventType →
        block.restricts = false := by
    rw [logged_always_iff_verdict, Assignment.logged_always_iff]
    refine (forall_matching_iff reading eventType fun effect predicates =>
      (effect == .included) = false ∧ (predicates != []) = false).trans ?_
    simp only [TextBlock.restricts, Bool.or_eq_false_iff]
  unfold evaluateEventType
  by_cases disabled : SaysDisabled (summaryLines text) eventType
  · simp [gate.mpr disabled, disabled]
  · rw [if_neg fun isFalse => disabled (gate.mp isFalse), if_neg notText]
    by_cases clean : parsed.diagnostics = []
    · rw [if_neg fun isUnknown => unknown.mp isUnknown clean, free]
      simp [disabled, clean]
    · rw [if_pos (unknown.mpr clean)]
      simp [clean]

theorem text_not_covered_iff (reading : TextReading sourceId text parsed summary)
    (eventType : String) :
    (evaluateEventType parsed eventType).1 ≠ .covered ↔
      SaysDisabled (summaryLines text) eventType ∨ parsed.diagnostics ≠ [] ∨
        ∃ block ∈ textBlocks (sectionLines text), block.event = eventType ∧
          block.restricts = true := by
  rw [ne_eq, text_covered_iff reading]
  simp only [not_and_or, not_not, not_forall, Bool.not_eq_false]
  simp only [exists_prop, ne_eq]

/-- A result belongs to a reading of its text. -/
theorem reading_of_returned (returned : parseSysmonCurrent sourceId text = .ok parsed) :
    ∃ summary, TextReading sourceId text parsed summary := by
  have clean : ¬∃ line ∈ sectionLines text, isMisspelled line.1 = true := by
    intro misspelled
    obtain ⟨raised, failed⟩ := (parse_raises_iff sourceId text).mpr misspelled
    rw [returned] at failed
    cases failed
  obtain ⟨result, summary, read, reading⟩ :=
    parse_text_reading sourceId text (spelled_of_not_misspelled clean)
  rw [returned] at read
  cases read
  exact ⟨summary, reading⟩

end Verdict

/-- The features of the summary that stand for an event type. -/
inductive SummaryFeature where
  | networkConnection
  | imageLoading
deriving DecidableEq, Repr

namespace SummaryFeature

def key : SummaryFeature → Text
  | .networkConnection => "network connection".toList
  | .imageLoading => "image loading".toList

def eventType : SummaryFeature → String
  | .networkConnection => "NetworkConnect"
  | .imageLoading => "ImageLoad"

/-- The state that a line gives for the feature, if it is a summary line for it. -/
def summary (feature : SummaryFeature) (line : Text) : Option Text :=
  match summaryPattern.matchText line with
  | none => none
  | some captures =>
      if lower (strip (Regex.captured captures "key")) = feature.key then
        some (lower (strip (Regex.captured captures "value")))
      else none

/-- One line in front of the rule section is about the feature and calls it disabled. -/
abbrev DisabledOnce (feature : SummaryFeature) (text : String) : Prop :=
  (summaryLines text).filterMap feature.summary = ["disabled".toList]

theorem says_disabled_iff {feature : SummaryFeature} {text : String}
    (disabled : feature.DisabledOnce text) :
    SaysDisabled (summaryLines text) feature.eventType ↔ feature = .networkConnection := by
  cases feature with
  | networkConnection =>
      have states : networkStates (summaryLines text) = ["disabled".toList] := disabled
      have read : networkState (summaryLines text) = some "disabled".toList := by
        rw [networkState, states]
        rfl
      exact iff_of_true ⟨rfl, read⟩ rfl
  | imageLoading => exact iff_of_false (fun claimed => absurd claimed.1 (by decide)) (by decide)

end SummaryFeature

/-- A feature that the summary calls disabled is not reported as covered exactly when it is the
network connection feature, or the parser raises or reports something, or a block for the
event type restricts it: the state of image loading is not read. -/
theorem summary_gate_honoured_iff (sourceId text : String) (feature : SummaryFeature)
    (disabled : feature.DisabledOnce text) :
    (∀ parsed, parseSysmonCurrent sourceId text = .ok parsed →
        (evaluateEventType parsed feature.eventType).1 ≠ .covered) ↔
      feature = .networkConnection ∨
        (∃ line ∈ sectionLines text, isMisspelled line.1 = true) ∨
        StrangeSummary text ∨ reportedLines false (sectionLines text) ≠ [] ∨
        ∃ block ∈ textBlocks (sectionLines text), block.event = feature.eventType ∧
          block.restricts = true := by
  by_cases misspelled : ∃ line ∈ sectionLines text, isMisspelled line.1 = true
  · refine iff_of_true ?_ (Or.inr (Or.inl misspelled))
    intro parsed returned
    obtain ⟨raised, failed⟩ := (parse_raises_iff sourceId text).mpr misspelled
    rw [failed] at returned
    cases returned
  · obtain ⟨parsed, summary, returned, reading⟩ :=
      parse_text_reading sourceId text (spelled_of_not_misspelled misspelled)
    have strange : parsed.diagnostics ≠ [] ↔
        StrangeSummary text ∨ reportedLines false (sectionLines text) ≠ [] := by
      rw [ne_eq, reading_diagnostics_nil_iff reading, not_and_or, not_not]
    rw [returned]
    simp only [Except.ok.injEq, forall_eq', text_not_covered_iff reading,
      SummaryFeature.says_disabled_iff disabled, strange, misspelled, false_or, or_assoc]

/-- Image loading is off, and no rule is about it. -/
def imageLoadingOff : String :=
  " - Network connection: enabled\n" ++
    " - Image loading: disabled\n" ++
      "Rule configuration (version 4.90):\n"

theorem summary_gate_honoured_iff_image_loading :
    (∀ parsed, parseSysmonCurrent "sysmon -c" imageLoadingOff = .ok parsed →
        (evaluateEventType parsed SummaryFeature.imageLoading.eventType).1 ≠ .covered) ↔
      SummaryFeature.imageLoading = .networkConnection ∨
        (∃ line ∈ sectionLines imageLoadingOff, isMisspelled line.1 = true) ∨
        StrangeSummary imageLoadingOff ∨
        reportedLines false (sectionLines imageLoadingOff) ≠ [] ∨
        ∃ block ∈ textBlocks (sectionLines imageLoadingOff),
          block.event = SummaryFeature.imageLoading.eventType ∧ block.restricts = true :=
  summary_gate_honoured_iff "sysmon -c" imageLoadingOff .imageLoading (by decide +kernel)

/-- A feature that the summary calls disabled is reported as covered. -/
theorem image_loading_off_covered :
    SummaryFeature.imageLoading.DisabledOnce imageLoadingOff ∧
      ((parseSysmonCurrent "sysmon -c" imageLoadingOff).toOption.map
        fun parsed => (evaluateEventType parsed "ImageLoad").1) = some .covered := by
  decide +kernel

/-- The section holds a block with a filter under a header that names the event type, whatever
its letter case. -/
abbrev FilteredHeader (text eventType : String) : Prop :=
  ∃ block ∈ textBlocks (sectionLines text),
    lower block.event.toList = lower eventType.toList ∧ block.predicates ≠ []

/-- A filtered block keeps its event type from being reported as covered exactly when the summary
does so anyway, or a block with that very spelling of the name restricts it. -/
theorem filtered_header_reaches_iff (sourceId text eventType : String) (parsed : ParseResult)
    (returned : parseSysmonCurrent sourceId text = .ok parsed) (clean : parsed.diagnostics = [])
    (_filtered : FilteredHeader text eventType) :
    (evaluateEventType parsed eventType).1 ≠ .covered ↔
      SaysDisabled (summaryLines text) eventType ∨
        ∃ block ∈ textBlocks (sectionLines text), block.event = eventType ∧
          block.restricts = true := by
  obtain ⟨summary, reading⟩ := reading_of_returned returned
  rw [text_not_covered_iff reading, clean]
  simp only [ne_eq, not_true_eq_false, false_or]

def lowerCaseHeader : String :=
  "Rule configuration (version 4.90):\n" ++
    " - imageload onmatch: exclude combine rules using 'Or'\n" ++
      "  Image filter: is value: 'ntdll'\n"

def lowerCaseParsed : ParseResult where
  determinacy := .effective
  rules :=
    [{ effect := .excluded
       selector := .event ⟨"imageload"⟩
       predicates := [⟨"image", .contains, "ntdll"⟩]
       order := 1
       origin := lineOrigin "sysmon -c" 2
       raw := " - imageload onmatch: exclude combine rules using 'Or'\n" ++
        "  Image filter: is value: 'ntdll'" }]

theorem lower_case_header_parsed :
    parseSysmonCurrent "sysmon -c" lowerCaseHeader = .ok lowerCaseParsed := by
  decide +kernel

theorem lower_case_header_filtered : FilteredHeader lowerCaseHeader "ImageLoad" := by
  decide +kernel

theorem filtered_header_reaches_iff_lower_case :
    (evaluateEventType lowerCaseParsed "ImageLoad").1 ≠ .covered ↔
      SaysDisabled (summaryLines lowerCaseHeader) "ImageLoad" ∨
        ∃ block ∈ textBlocks (sectionLines lowerCaseHeader), block.event = "ImageLoad" ∧
          block.restricts = true :=
  filtered_header_reaches_iff "sysmon -c" lowerCaseHeader "ImageLoad" lowerCaseParsed
    lower_case_header_parsed rfl lower_case_header_filtered

/-- A filter under a header in lower case is accepted and then forgotten. -/
theorem lower_case_header_covered :
    parseSysmonCurrent "sysmon -c" lowerCaseHeader = .ok lowerCaseParsed ∧
      lowerCaseParsed.diagnostics = [] ∧ FilteredHeader lowerCaseHeader "ImageLoad" ∧
      (evaluateEventType lowerCaseParsed "ImageLoad").1 = .covered :=
  ⟨lower_case_header_parsed, rfl, lower_case_header_filtered, by decide +kernel⟩

end Sigmascope
