import Sigmascope.Parse.SysmonDump

/-!
The round trip of a configuration through the text of `sysmon -c`: the parser finds the state of
the network connections and every block with its filters, and reports nothing.
-/

namespace Sigmascope

set_option autoImplicit false

open Sigmascope.Library Sigmascope.Library.PyText

variable (sourceId : String)

/-- The rule that a block stands for when its header has the line number. -/
def ConfigBlock.rule (block : ConfigBlock) (order lineNumber : Nat) : Rule where
  effect := block.effect
  selector := .event ⟨String.ofList block.event⟩
  predicates := block.predicates
  order := order
  origin := lineOrigin sourceId lineNumber
  raw := "\n".intercalate (block.lines.map String.ofList)

/-- The rules of blocks that are printed one after the other. -/
def configRules : Nat → Nat → List ConfigBlock → List Rule
  | _, _, [] => []
  | order, lineNumber, block :: blocks =>
      block.rule sourceId order lineNumber ::
        configRules (order + 1) (lineNumber + block.lines.length) blocks

namespace SysmonConfig

def networkGate (config : SysmonConfig) : Gate :=
  ⟨"sysmon.NetworkConnect.enabled", .bool config.networkConnection,
    lineOrigin sourceId (config.banner.length + config.before.length + 1)⟩

/-- What the parser is to find in the text of a configuration. -/
def result (config : SysmonConfig) : ParseResult where
  determinacy := .effective
  gates := [config.networkGate sourceId]
  rules := configRules sourceId 1 (config.summary.length + 2) config.blocks

end SysmonConfig

section Blocks

/-- The lines of a block in the form in which the section is read. -/
def ConfigBlock.textBlock (block : ConfigBlock) (lineNumber : Nat) : TextBlock :=
  ⟨(block.header, lineNumber), block.body.zipIdx (lineNumber + 1)⟩

def configTextBlocks : Nat → List ConfigBlock → List TextBlock
  | _, [] => []
  | lineNumber, block :: blocks =>
      block.textBlock lineNumber :: configTextBlocks (lineNumber + block.lines.length) blocks

theorem block_body_lines {block : ConfigBlock} (printable : block.Printable) :
    List.Forall₂ BodyLine block.body block.predicates := by
  have each : ∀ entry ∈ block.entries, List.Forall₂ BodyLine entry.lines entry.predicates := by
    intro entry member
    have items {list : List ConfigFilter} (printable : ∀ item ∈ list, item.Printable)
        {indent : Nat} (indented : 0 < indent) :
        List.Forall₂ BodyLine (list.map (ConfigFilter.line indent))
          (list.map ConfigFilter.predicate) := by
      rw [List.forall₂_map_left_iff, List.forall₂_map_right_iff, List.forall₂_same]
      exact fun item held => filter_body_line (printable item held) indented
    cases printable.entries entry member with
    | filter printable => exact .cons (filter_body_line printable (by decide)) .nil
    | compound unlabelled whole filled printable =>
        exact .cons (compound_body_line _ unlabelled whole) (items printable (by decide))
  unfold ConfigBlock.body ConfigBlock.predicates
  generalize block.entries = entries at each ⊢
  induction entries with
  | nil => exact .nil
  | cons entry entries induction =>
      rw [List.flatMap_cons, List.flatMap_cons]
      exact List.rel_append (each entry List.mem_cons_self)
        (induction fun other member => each other (List.mem_cons_of_mem _ member))

variable {lines : List Text} {predicates : List Predicate} {first : Nat}
  {rest : List NumberedLine}

theorem body_text_blocks (body : List.Forall₂ BodyLine lines predicates) :
    textBlocks (lines.zipIdx first ++ rest) = textBlocks rest := by
  induction body generalizing first with
  | nil => rfl
  | cons line body induction =>
      have plain := (Bool.or_eq_false_iff.mp line.inside).2
      rw [List.zipIdx_cons, List.cons_append, textBlocks, if_neg (Bool.eq_false_iff.mp plain),
        induction]

theorem body_reported_lines (body : List.Forall₂ BodyLine lines predicates) :
    reportedLines true (lines.zipIdx first ++ rest) = reportedLines true rest := by
  induction body generalizing first with
  | nil => rfl
  | cons line body induction =>
      obtain ⟨unversioned, plain⟩ := Bool.or_eq_false_iff.mp line.inside
      rw [List.zipIdx_cons, List.cons_append, reportedLines,
        if_neg (Bool.eq_false_iff.mp unversioned), if_neg (Bool.eq_false_iff.mp plain),
        if_neg (Bool.eq_false_iff.mp line.kept), line.stands, Option.isSome_some, Bool.and_true,
        if_pos rfl, induction]

theorem body_lines_body (body : List.Forall₂ BodyLine lines predicates)
    (ends : rest.head?.all (fun line => isBoundary line.1) = true) :
    bodyLines (lines.zipIdx first ++ rest) = lines.zipIdx first := by
  induction body generalizing first with
  | nil =>
      cases rest with
      | nil => rfl
      | cons line rest =>
          exact body_lines_boundary (by simpa using ends)
  | cons line body induction =>
      rw [List.zipIdx_cons, List.cons_append, body_lines_kept line.inside line.kept, induction]

theorem body_predicates (body : List.Forall₂ BodyLine lines predicates) :
    ((lines.zipIdx first).filterMap fun numbered => linePredicate numbered.1) = predicates := by
  induction body generalizing first with
  | nil => rfl
  | cons line body induction =>
      simp only [List.zipIdx_cons, List.filterMap_cons, line.stands, induction]

theorem body_line_mem (body : List.Forall₂ BodyLine lines predicates) {line : Text}
    (member : line ∈ lines) : ∃ predicate, BodyLine line predicate := by
  induction body with
  | nil => cases member
  | cons own body induction =>
      rcases List.mem_cons.mp member with rfl | later
      · exact ⟨_, own⟩
      · exact induction later

variable {block : ConfigBlock}

theorem printed_unversioned (block : ConfigBlock) : isRuleVersion block.header = false := by
  rw [header_text]
  exact dash_unversioned blanks_space

theorem printed_header (printable : block.Printable) : isHeader block.header = true := by
  rw [isHeader, printed_unversioned, header_match printable]
  rfl

theorem effect_spelled (printable : block.Printable) :
    headerEffect block.header = block.effect.spelling := by
  rw [headerEffect, headerCaptures, header_match printable, Option.getD_some]
  change lower block.effect.spelling = _
  cases block.effect <;> rfl

theorem printed_spelled (printable : block.Printable) : isMisspelled block.header = false := by
  rw [isMisspelled, effect_spelled printable]
  cases block.effect <;> exact Bool.and_false _

theorem text_block_rule (printable : block.Printable) (order lineNumber : Nat) :
    SysmonState.blockRule ((block.textBlock lineNumber).toSysmon sourceId) order =
      block.rule sourceId order lineNumber := by
  have event : (block.textBlock lineNumber).event = String.ofList block.event := by
    rw [TextBlock.event, ConfigBlock.textBlock, headerCaptures, header_match printable]
    rfl
  have effect : (block.textBlock lineNumber).effect = block.effect := by
    rw [TextBlock.effect, ConfigBlock.textBlock, effect_spelled printable]
    cases block.effect <;> rfl
  have predicates : (block.textBlock lineNumber).predicates = block.predicates :=
    body_predicates (block_body_lines printable)
  rw [SysmonState.blockRule, TextBlock.toSysmon, event, effect, predicates]
  simp only [ConfigBlock.rule, ConfigBlock.lines, ConfigBlock.textBlock, List.zipIdx_map_fst]

end Blocks

section Section

variable {blocks : List ConfigBlock}

theorem section_head (printable : ∀ block ∈ blocks, block.Printable) (first : Nat) :
    ((blocks.flatMap ConfigBlock.lines).zipIdx first).head?.all
      (fun line => isBoundary line.1) = true := by
  cases blocks with
  | nil => rfl
  | cons block blocks =>
      have header := printed_header (printable block List.mem_cons_self)
      simp [ConfigBlock.lines, isBoundary, header]

theorem section_cons (block : ConfigBlock) (blocks : List ConfigBlock) (first : Nat) :
    ((block :: blocks).flatMap ConfigBlock.lines).zipIdx first =
      (block.header, first) :: (block.body.zipIdx (first + 1) ++
        (blocks.flatMap ConfigBlock.lines).zipIdx (first + block.lines.length)) := by
  rw [List.flatMap_cons, List.zipIdx_append, ConfigBlock.lines, List.zipIdx_cons,
    List.cons_append]

theorem section_text_blocks (printable : ∀ block ∈ blocks, block.Printable) (first : Nat) :
    textBlocks ((blocks.flatMap ConfigBlock.lines).zipIdx first) =
      configTextBlocks first blocks := by
  induction blocks generalizing first with
  | nil => rfl
  | cons block blocks induction =>
      have own := printable block List.mem_cons_self
      have others := fun other member => printable other (List.mem_cons_of_mem _ member)
      have body := block_body_lines own
      rw [section_cons, textBlocks, if_pos (printed_header own), body_text_blocks body,
        body_lines_body body (section_head others _), induction others]
      rfl

theorem section_reports_nothing (printable : ∀ block ∈ blocks, block.Printable) (first : Nat)
    (inBlock : Bool) :
    reportedLines inBlock ((blocks.flatMap ConfigBlock.lines).zipIdx first) = [] := by
  induction blocks generalizing first inBlock with
  | nil => rfl
  | cons block blocks induction =>
      have own := printable block List.mem_cons_self
      have header := printed_header own
      have unversioned := Bool.eq_false_iff.mp (printed_unversioned block)
      rw [section_cons, reportedLines, if_neg unversioned, if_pos header,
        body_reported_lines (block_body_lines own),
        induction fun other member => printable other (List.mem_cons_of_mem _ member)]

theorem section_spelled (printable : ∀ block ∈ blocks, block.Printable) (first : Nat) :
    ∀ line ∈ (blocks.flatMap ConfigBlock.lines).zipIdx first, isMisspelled line.1 = false := by
  intro line member
  obtain ⟨block, inside, own⟩ := List.mem_flatMap.mp (List.fst_mem_of_mem_zipIdx member)
  have printed := printable block inside
  rcases List.mem_cons.mp own with header | body
  · rw [header]
    exact printed_spelled printed
  · obtain ⟨predicate, line⟩ := body_line_mem (block_body_lines printed) body
    rw [isMisspelled, (Bool.or_eq_false_iff.mp line.inside).2, Bool.false_and]

theorem config_block_rules (printable : ∀ block ∈ blocks, block.Printable) (order first : Nat) :
    blockRules order ((configTextBlocks first blocks).map (TextBlock.toSysmon sourceId)) =
      configRules sourceId order first blocks := by
  induction blocks generalizing order first with
  | nil => rfl
  | cons block blocks induction =>
      rw [configTextBlocks, List.map_cons, blockRules, List.zipIdx_cons, List.map_cons,
        text_block_rule sourceId (printable block List.mem_cons_self), configRules]
      exact congrArg _ (induction
        (fun other member => printable other (List.mem_cons_of_mem _ member)) _ _)

end Section

section Summary

/-- A line in front of the rule section that changes nothing. -/
structure SilentLine (line : Text) : Prop where
  silent : networkSummary line = none
  unversioned : isRuleVersion line = false
  provided : isNoRules line = false

theorem silent_step {line : Text} (silent : SilentLine line) {state : SysmonState}
    (outside : state.inRules = false) (lineNumber : Nat) :
    readSysmonLine sourceId state (line, lineNumber) = .ok state := by
  simp only [readSysmonLine, silent.unversioned, outside, Bool.false_eq_true, if_false,
    Bool.not_false, if_true, readSummaryLine, silent.silent, silent.provided]

theorem silent_run {lines : List Text} (silent : ∀ line ∈ lines, SilentLine line)
    {state : SysmonState} (outside : state.inRules = false) (first : Nat) :
    (lines.zipIdx first).foldlM (readSysmonLine sourceId) state = .ok state := by
  induction lines generalizing first with
  | nil => rfl
  | cons line lines induction =>
      rw [List.zipIdx_cons, List.foldlM_cons,
        silent_step sourceId (silent line List.mem_cons_self) outside]
      exact induction (fun other member => silent other (List.mem_cons_of_mem _ member)) _

theorem setting_text (setting : ConfigSetting) :
    setting.line = blanks 1 ++ ('-' :: (blanks 1 ++ (column 31 (setting.key ++ [':']) ++
      setting.value))) := by
  simp only [ConfigSetting.line, List.append_assoc]
  rfl

/-- Every setting begins with a dash, which opens no section. -/
theorem setting_inside (setting : ConfigSetting) :
    isRuleVersion setting.line = false ∧ isNoRules setting.line = false := by
  rw [setting_text]
  refine ⟨dash_unversioned blanks_space, ?_⟩
  have dash : '-' ∈ blanks 1 ++ ('-' :: (blanks 1 ++ (column 31 (setting.key ++ [':']) ++
      setting.value))) := List.mem_append_right _ List.mem_cons_self
  exact not_no_rules dash (by decide) (by decide) (by decide)

theorem setting_silent {setting : ConfigSetting} (printable : setting.Printable) :
    SilentLine setting.line := by
  obtain ⟨unversioned, provided⟩ := setting_inside setting
  refine ⟨?_, unversioned, provided⟩
  rw [networkSummary, setting_match printable.named printable.trimmed printable.unlabelled
    printable.valueWhole]
  have other : lower (strip setting.key) ≠ "network connection".toList := by
    rw [printable.trimmed]
    exact printable.other
  exact if_neg other

theorem banner_silent {line : Text} (banner : BannerLine line) : SilentLine line :=
  ⟨banner.silent, banner.unversioned, banner.provided⟩

theorem blank_silent : SilentLine [] := ⟨rfl, by decide, by decide⟩

variable (config : SysmonConfig)

theorem network_summary :
    networkSummary config.networkSetting.line =
      some (if config.networkConnection then "enabled".toList else "disabled".toList) := by
  have trimmed : strip config.networkSetting.key = config.networkSetting.key := by
    change strip "Network connection".toList = "Network connection".toList
    decide
  have unlabelled : ':' ∉ config.networkSetting.key := by
    change ':' ∉ "Network connection".toList
    decide
  have whole : ∀ char ∈ config.networkSetting.value, isLineBreak char = false := by
    change ∀ char ∈ (if config.networkConnection then "enabled".toList else "disabled".toList), _
    cases config.networkConnection <;> exact none_of_all rfl
  have about : lower (strip config.networkSetting.key) = "network connection".toList := by
    rw [trimmed]
    rfl
  have state : lower (strip (lstrip config.networkSetting.value)) =
      if config.networkConnection then "enabled".toList else "disabled".toList := by
    change lower (strip (lstrip (if config.networkConnection then "enabled".toList
      else "disabled".toList))) = _
    cases config.networkConnection <;> decide
  rw [networkSummary, setting_match (List.cons_ne_nil _ _) trimmed unlabelled whole, ← state]
  exact if_pos about

theorem network_step {state : SysmonState} (outside : state.inRules = false) (lineNumber : Nat) :
    readSysmonLine sourceId state (config.networkSetting.line, lineNumber) =
      .ok { state with
        gates := state.gates ++ [⟨"sysmon.NetworkConnect.enabled",
          .bool config.networkConnection, lineOrigin sourceId lineNumber⟩] } := by
  obtain ⟨unversioned, provided⟩ := setting_inside config.networkSetting
  simp only [readSysmonLine, unversioned, outside, Bool.false_eq_true, if_false,
    Bool.not_false, if_true, readSummaryLine, network_summary, provided]
  cases config.networkConnection <;> rfl

variable {config}

theorem summary_run (printable : config.Printable) :
    (config.summary.zipIdx 1).foldlM (readSysmonLine sourceId) {} =
      .ok { gates := [config.networkGate sourceId] } := by
  have front : ∀ line ∈ config.banner ++ config.before.map ConfigSetting.line,
      SilentLine line := by
    intro line member
    rcases List.mem_append.mp member with banner | mapped
    · exact banner_silent (printable.banner line banner)
    · obtain ⟨setting, held, rfl⟩ := List.mem_map.mp mapped
      exact setting_silent (printable.before setting held)
  have back : ∀ line ∈ config.behind.map ConfigSetting.line ++ [[]], SilentLine line := by
    intro line member
    rcases List.mem_append.mp member with mapped | blank
    · obtain ⟨setting, held, rfl⟩ := List.mem_map.mp mapped
      exact setting_silent (printable.behind setting held)
    · rw [List.mem_singleton.mp blank]
      exact blank_silent
  have cut : config.summary = (config.banner ++ config.before.map ConfigSetting.line) ++
      config.networkSetting.line :: (config.behind.map ConfigSetting.line ++ [[]]) := by
    simp only [SysmonConfig.summary, List.append_assoc, List.cons_append, List.nil_append]
  rw [cut, List.zipIdx_append, List.foldlM_append, silent_run sourceId front rfl,
    List.zipIdx_cons]
  simp only [bind, Except.bind, List.foldlM_cons]
  rw [network_step sourceId config rfl]
  simp only [silent_run sourceId back]
  rw [SysmonConfig.networkGate, List.length_append, List.length_map, Nat.add_comm 1]
  rfl

/-- The marker opens the rule section. -/
theorem printed_marker_step (printable : config.Printable) (gates : List Gate)
    (lineNumber : Nat) :
    readSysmonLine sourceId { gates := gates } (config.marker, lineNumber) =
      .ok { gates := gates, inRules := true } := by
  unfold SysmonConfig.marker
  split
  · rfl
  · exact version_step (version_match printable.versioned printable.version)

end Summary

section RoundTrip

variable {config : SysmonConfig}

theorem column_whole {width : Nat} {word : Text} (whole : ∀ char ∈ word, isLineBreak char = false) :
    ∀ char ∈ column width word, isLineBreak char = false :=
  List.forall_mem_append.mpr ⟨whole, blanks_whole⟩

theorem setting_whole {setting : ConfigSetting}
    (keyWhole : ∀ char ∈ setting.key, isLineBreak char = false)
    (valueWhole : ∀ char ∈ setting.value, isLineBreak char = false) :
    ∀ char ∈ setting.line, isLineBreak char = false := by
  rw [setting_text]
  have key : ∀ char ∈ setting.key ++ [':'], isLineBreak char = false :=
    List.forall_mem_append.mpr ⟨keyWhole, none_of_all rfl⟩
  simp only [List.forall_mem_append, List.forall_mem_cons]
  exact ⟨blanks_whole, rfl, blanks_whole, column_whole key, valueWhole⟩

theorem header_whole {block : ConfigBlock} (printable : block.Printable) :
    ∀ char ∈ block.header, isLineBreak char = false := by
  rw [header_text]
  simp only [List.forall_mem_append, List.forall_mem_cons]
  refine ⟨blanks_whole, rfl, blanks_whole, name_whole printable.name, blanks_whole,
    none_of_all rfl, blanks_whole, ?_, blanks_whole, none_of_all rfl, rfl, ?_, rfl, by simp⟩
  · cases block.effect <;> exact none_of_all rfl
  · cases block.combination <;> exact none_of_all rfl

theorem lines_whole (printable : config.Printable) :
    ∀ line ∈ config.lines, ∀ char ∈ line, isLineBreak char = false := by
  have settings {settings : List ConfigSetting} (each : ∀ setting ∈ settings, setting.Printable) :
      ∀ line ∈ settings.map ConfigSetting.line, ∀ char ∈ line, isLineBreak char = false :=
    List.forall_mem_map.mpr fun setting member =>
      setting_whole (each setting member).keyWhole (each setting member).valueWhole
  have network : ∀ char ∈ config.networkSetting.line, isLineBreak char = false := by
    apply setting_whole
    · change ∀ char ∈ "Network connection".toList, _
      exact none_of_all rfl
    · change ∀ char ∈ (if config.networkConnection then "enabled".toList
        else "disabled".toList), _
      cases config.networkConnection <;> exact none_of_all rfl
  have marker : ∀ char ∈ config.marker, isLineBreak char = false := by
    unfold SysmonConfig.marker
    split
    · exact none_of_all rfl
    · simp only [List.forall_mem_append]
      exact ⟨⟨none_of_all rfl, printable.versionWhole⟩, none_of_all rfl⟩
  have blocks : ∀ line ∈ config.blocks.flatMap ConfigBlock.lines,
      ∀ char ∈ line, isLineBreak char = false := by
    intro line member
    obtain ⟨block, held, own⟩ := List.mem_flatMap.mp member
    have printed := printable.blocks block held
    rcases List.mem_cons.mp own with rfl | body
    · exact header_whole printed
    · obtain ⟨predicate, read⟩ := body_line_mem (block_body_lines printed) body
      exact read.whole
  simp only [SysmonConfig.lines, SysmonConfig.summary, List.forall_mem_append,
    List.forall_mem_singleton]
  refine ⟨⟨⟨⟨⟨⟨?_, settings printable.before⟩, network⟩, settings printable.behind⟩, ?_⟩, marker⟩,
    blocks⟩
  · exact fun line member => (printable.banner line member).whole
  · simp

/-- The parser reads a printed configuration back: the state of the network connections, every
block with its event type, its effect, its filters and its place in the text, and no complaint. -/
theorem parse_config_text (printable : config.Printable) (ending : LineEnd) :
    parseSysmonCurrent sourceId (config.text ending) = .ok (config.result sourceId) := by
  have split : splitlines (config.text ending).toList = config.lines := by
    rw [SysmonConfig.text, String.toList_ofList]
    exact splitlines_terminated (lines_whole printable) ending
  have numbered : config.lines.zipIdx 1 = config.summary.zipIdx 1 ++
      (config.marker, config.summary.length + 1) ::
        (config.blocks.flatMap ConfigBlock.lines).zipIdx (config.summary.length + 2) := by
    rw [SysmonConfig.lines, List.append_assoc, List.zipIdx_append, List.singleton_append,
      List.zipIdx_cons, Nat.add_comm 1]
  obtain ⟨last, run, reads⟩ := section_run sourceId
    ((config.blocks.flatMap ConfigBlock.lines).zipIdx (config.summary.length + 2))
    { gates := [config.networkGate sourceId], inRules := true } rfl
    (section_spelled printable.blocks _)
  have rules : last.finish.rules =
      configRules sourceId 1 (config.summary.length + 2) config.blocks := by
    rw [reads.rules, section_text_blocks printable.blocks]
    exact config_block_rules sourceId printable.blocks 1 _
  have diagnostics : last.finish.diagnostics = [] := by
    rw [reads.diagnostics, section_reports_nothing printable.blocks]
    rfl
  have result : sysmonResult last = config.result sourceId := by
    rw [sysmonResult, rules, diagnostics, reads.gates]
    rfl
  rw [parseSysmonCurrent, split, numbered, List.foldlM_append, summary_run sourceId printable]
  simp only [bind, Except.bind, List.foldlM_cons]
  rw [printed_marker_step sourceId printable]
  simp only [run, result]
  rfl

def portFilter : ConfigFilter := ⟨"DestinationPort".toList, "is".toList, "443".toList⟩

def imageFilter : ConfigFilter :=
  ⟨"Image".toList, "end with".toList, "\\power'shell value: .exe".toList⟩

/-- An include group with one filter and an exclude group with a compound rule. -/
def filteredConfig : SysmonConfig where
  banner := ["Current configuration:".toList]
  before := [⟨"Service name".toList, "Sysmon64".toList⟩]
  networkConnection := true
  behind := []
  version := "4.90".toList
  blocks :=
    [⟨"NetworkConnect".toList, .included, .any, [.filter portFilter]⟩,
      ⟨"ProcessCreate".toList, .excluded, .all, [.compound "0001".toList .all [imageFilter]]⟩]

theorem port_filter_printable : portFilter.Printable where
  named := by decide
  name := List.all_eq_true.mp rfl
  stated := by decide
  trimmed := by decide
  unlabelled := by decide
  conditionWhole := none_of_all rfl
  valueWhole := none_of_all rfl

theorem image_filter_printable : imageFilter.Printable where
  named := by decide
  name := List.all_eq_true.mp rfl
  stated := by decide
  trimmed := by decide
  unlabelled := by decide
  conditionWhole := none_of_all rfl
  valueWhole := none_of_all rfl

theorem filtered_config_printable : filteredConfig.Printable where
  banner := by
    intro line member
    rw [List.mem_singleton.mp member]
    exact ⟨rfl, by decide +kernel, by decide +kernel, none_of_all rfl⟩
  before := by
    intro setting member
    rw [List.mem_singleton.mp member]
    exact ⟨by decide, by decide, by decide, by decide, none_of_all rfl, none_of_all rfl⟩
  behind := by
    intro setting member
    cases member
  versioned := by decide
  version := by decide
  versionWhole := none_of_all rfl
  blocks := by
    intro block member
    simp only [filteredConfig, List.mem_cons, List.not_mem_nil, or_false] at member
    rcases member with rfl | rfl
    · refine ⟨rfl, by decide, List.all_eq_true.mp rfl, ?_⟩
      intro entry held
      rw [List.mem_singleton.mp held]
      exact .filter port_filter_printable
    · refine ⟨rfl, by decide, List.all_eq_true.mp rfl, ?_⟩
      intro entry held
      rw [List.mem_singleton.mp held]
      refine .compound (by decide) (none_of_all rfl) (List.cons_ne_nil _ _) ?_
      intro item inside
      rw [List.mem_singleton.mp inside]
      exact image_filter_printable

theorem parse_config_text_filtered :
    parseSysmonCurrent "sysmon -c" (filteredConfig.text .returnFeed) =
      .ok (filteredConfig.result "sysmon -c") :=
  parse_config_text "sysmon -c" filtered_config_printable .returnFeed

end RoundTrip

end Sigmascope
