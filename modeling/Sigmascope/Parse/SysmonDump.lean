import Sigmascope.Library.RegexSpans
import Sigmascope.Parse.SysmonBlocks

/-!
What `sysmon -c` prints for a configuration: a summary of the settings, a line with the schema
version, and a block for each rule group with its filters indented below. Each kind of line is
read back by the pattern that is meant for it, and by no pattern that is tried before.
-/

namespace Sigmascope

set_option autoImplicit false

open Sigmascope.Library Sigmascope.Library.PyText

section Writing

/-- How the filters of a group are combined. -/
inductive Combination where
  | all
  | any
deriving DecidableEq, Repr

def Combination.spelling : Combination → Text
  | .all => "And".toList
  | .any => "Or".toList

def Effect.spelling : Effect → Text
  | .included => "include".toList
  | .excluded => "exclude".toList

def blanks (width : Nat) : Text := List.replicate width ' '

/-- A word in a column of the width; a blank follows it in any case. -/
def column (width : Nat) (word : Text) : Text := word ++ blanks (max 1 (width - word.length))

structure ConfigFilter where
  field : Text
  condition : Text
  value : Text
deriving DecidableEq, Repr

def ConfigFilter.line (indent : Nat) (item : ConfigFilter) : Text :=
  blanks indent ++ column 31 item.field ++ "filter: ".toList ++ column 13 item.condition ++
    "value: '".toList ++ item.value ++ ['\'']

def ConfigFilter.predicate (item : ConfigFilter) : Predicate where
  field := String.ofList (lower item.field)
  op := .contains
  value := String.ofList (strip item.value)

/-- The heading of a compound rule, without its indentation. -/
def compoundText (name : Text) (combination : Combination) : Text :=
  "Compound Rule ".toList ++ name ++ "   combine using ".toList ++ combination.spelling

inductive ConfigEntry where
  | filter (item : ConfigFilter)
  | compound (name : Text) (combination : Combination) (items : List ConfigFilter)
deriving DecidableEq, Repr

def ConfigEntry.lines : ConfigEntry → List Text
  | .filter item => [item.line 8]
  | .compound name combination items =>
      (blanks 8 ++ compoundText name combination) :: items.map (ConfigFilter.line 12)

def ConfigEntry.predicates : ConfigEntry → List Predicate
  | .filter item => [item.predicate]
  | .compound name combination items =>
      ⟨"compound_rule", .contains, String.ofList (compoundText name combination)⟩ ::
        items.map ConfigFilter.predicate

/-- A rule group for the events of a type. -/
structure ConfigBlock where
  event : Text
  effect : Effect
  combination : Combination
  entries : List ConfigEntry
deriving DecidableEq, Repr

namespace ConfigBlock

def header (block : ConfigBlock) : Text :=
  " - ".toList ++ column 35 block.event ++ "onmatch: ".toList ++ block.effect.spelling ++
    "   combine rules using '".toList ++ block.combination.spelling ++ ['\'']

def body (block : ConfigBlock) : List Text := block.entries.flatMap ConfigEntry.lines

def lines (block : ConfigBlock) : List Text := block.header :: block.body

def predicates (block : ConfigBlock) : List Predicate :=
  block.entries.flatMap ConfigEntry.predicates

end ConfigBlock

/-- A line of the summary. -/
structure ConfigSetting where
  key : Text
  value : Text
deriving DecidableEq, Repr

def ConfigSetting.line (setting : ConfigSetting) : Text :=
  " - ".toList ++ column 31 (setting.key ++ [':']) ++ setting.value

/-- A configuration with what is printed around it. -/
structure SysmonConfig where
  banner : List Text
  before : List ConfigSetting
  networkConnection : Bool
  behind : List ConfigSetting
  version : Text
  blocks : List ConfigBlock

namespace SysmonConfig

def networkSetting (config : SysmonConfig) : ConfigSetting :=
  ⟨"Network connection".toList,
    if config.networkConnection then "enabled".toList else "disabled".toList⟩

def summary (config : SysmonConfig) : List Text :=
  config.banner ++ config.before.map ConfigSetting.line ++ [config.networkSetting.line] ++
    config.behind.map ConfigSetting.line ++ [[]]

/-- The line that opens the rule section. -/
def marker (config : SysmonConfig) : Text :=
  if config.blocks = [] then "No rules installed".toList
  else "Rule configuration (version ".toList ++ config.version ++ "):".toList

def lines (config : SysmonConfig) : List Text :=
  config.summary ++ [config.marker] ++ config.blocks.flatMap ConfigBlock.lines

def text (config : SysmonConfig) (ending : LineEnd) : String :=
  String.ofList (config.lines.flatMap fun line => line ++ ending.spelling)

end SysmonConfig

end Writing

section Printable

def isNameChar (char : Char) : Bool := isAsciiLetter char || isAsciiDigit char

structure ConfigFilter.Printable (item : ConfigFilter) : Prop where
  named : item.field ≠ []
  name : ∀ char ∈ item.field, isNameChar char = true
  stated : item.condition ≠ []
  trimmed : strip item.condition = item.condition
  unlabelled : ':' ∉ item.condition
  conditionWhole : ∀ char ∈ item.condition, isLineBreak char = false
  valueWhole : ∀ char ∈ item.value, isLineBreak char = false

/-- A compound rule has at least one filter. -/
inductive ConfigEntry.Printable : ConfigEntry → Prop where
  | filter {item : ConfigFilter} (printable : item.Printable) : Printable (.filter item)
  | compound {name : Text} {combination : Combination} {items : List ConfigFilter}
      (unlabelled : ':' ∉ name) (whole : ∀ char ∈ name, isLineBreak char = false)
      (filled : items ≠ []) (printable : ∀ item ∈ items, item.Printable) :
      Printable (.compound name combination items)

structure ConfigBlock.Printable (block : ConfigBlock) : Prop where
  letter : block.event.head?.any isAsciiLetter = true
  long : 2 ≤ block.event.length
  name : ∀ char ∈ block.event, isNameChar char = true
  entries : ∀ entry ∈ block.entries, entry.Printable

/-- A setting that is not about the network connections. -/
structure ConfigSetting.Printable (setting : ConfigSetting) : Prop where
  named : setting.key ≠ []
  trimmed : strip setting.key = setting.key
  unlabelled : ':' ∉ setting.key
  other : lower setting.key ≠ "network connection".toList
  keyWhole : ∀ char ∈ setting.key, isLineBreak char = false
  valueWhole : ∀ char ∈ setting.value, isLineBreak char = false

/-- A line in front of the settings does not look like one, and opens no section. -/
structure BannerLine (line : Text) : Prop where
  silent : networkSummary line = none
  unversioned : isRuleVersion line = false
  provided : isNoRules line = false
  whole : ∀ char ∈ line, isLineBreak char = false

structure SysmonConfig.Printable (config : SysmonConfig) : Prop where
  banner : ∀ line ∈ config.banner, BannerLine line
  before : ∀ setting ∈ config.before, setting.Printable
  behind : ∀ setting ∈ config.behind, setting.Printable
  versioned : config.version ≠ []
  version : ')' ∉ config.version
  versionWhole : ∀ char ∈ config.version, isLineBreak char = false
  blocks : ∀ block ∈ config.blocks, block.Printable

end Printable

section Characters

variable {char : Char}

theorem name_char_code (name : isNameChar char = true) :
    48 ≤ char.toNat ∧ char.toNat ≤ 122 ∧ char ≠ ':' := by
  simp only [isNameChar, isAsciiLetter, isAsciiDigit, Bool.or_eq_true, Bool.and_eq_true,
    decide_eq_true_eq, code_le] at name
  have codes : 'a'.toNat = 97 ∧ 'z'.toNat = 122 ∧ 'A'.toNat = 65 ∧ 'Z'.toNat = 90 ∧
    '0'.toNat = 48 ∧ '9'.toNat = 57 ∧ ':'.toNat = 58 := by decide
  refine ⟨by omega, by omega, ?_⟩
  rintro rfl
  omega

theorem name_char_solid (name : isNameChar char = true) : isSpace char = false := by
  obtain ⟨low, high, _⟩ := name_char_code name
  exact solid_of_code (by omega) (by omega)

/-- The lower case of a name is without blanks, as the name is. -/
theorem lower_name_char (name : isNameChar char = true) :
    char.toNat < 0x80 ∧ char.toLower ≠ ' ' := by
  obtain ⟨low, high, _⟩ := name_char_code name
  have code : ' '.toNat = 32 := by decide
  refine ⟨by omega, ?_⟩
  intro blank
  have same := lower_sign (by decide) blank
  subst same
  omega

theorem blanks_space {width : Nat} : ∀ char ∈ blanks width, isSpace char = true := by
  intro char member
  rw [List.eq_of_mem_replicate member]
  decide

theorem blanks_filled {width : Nat} (wide : 0 < width) : blanks width ≠ [] := by
  rw [blanks, ne_eq, List.replicate_eq_nil_iff]
  omega

theorem blanks_head {width : Nat} (wide : 0 < width) {accepts : Char → Bool} {rest : Text}
    (refused : accepts ' ' = false) :
    (blanks width ++ rest).head?.all (fun char => !accepts char) = true := by
  obtain ⟨less, rfl⟩ := Nat.exists_eq_succ_of_ne_zero (Nat.ne_of_gt wide)
  simp [blanks, List.replicate_succ, refused]

theorem blanks_unlabelled {width : Nat} : ':' ∉ blanks width := by
  intro member
  exact absurd (blanks_space ':' member) (by decide)

theorem differs_of_absent {sign : Char} {word : Text} (absent : sign ∉ word) :
    ∀ char ∈ word, (char != sign) = true := by
  intro char member
  apply bne_iff_ne.mpr
  rintro rfl
  exact absent member

theorem whole_any {word : Text} (whole : ∀ char ∈ word, isLineBreak char = false) :
    ∀ char ∈ word, Regex.anyButNewline char = true := by
  apply differs_of_absent
  intro member
  exact absurd (whole '\n' member) (by decide)

end Characters

section Patterns

theorem head_solid {word rest : Text} (filled : word ≠ [])
    (solid : ∀ char ∈ word, isSpace char = false) :
    (word ++ rest).head?.all (fun char => !isSpace char) = true := by
  obtain ⟨char, word, rfl⟩ := List.exists_cons_of_ne_nil filled
  simp [solid char List.mem_cons_self]

theorem trimmed_last {word front back : Text} (trimmed : strip word = word)
    (cut : word = front ++ back) (filled : back ≠ []) : ∃ char ∈ back, isSpace char = false := by
  have behind := ((strip_eq_self_iff word).mp trimmed).2
  have whole : word ≠ [] := by
    rw [cut]
    exact List.append_ne_nil_of_right_ne_nil front filled
  have last := List.rdropWhile_eq_self_iff.mp behind whole
  refine ⟨back.getLast filled, List.getLast_mem filled, ?_⟩
  simpa only [cut, List.getLast_append_of_ne_nil _ filled, Bool.not_eq_true] using last

/-- Only white space stands at the end of a line. -/
theorem line_end_space {spaces rest : Text} (inside : ∀ char ∈ spaces, isSpace char = true)
    (ended : rest = [] ∨ rest = ['\n']) : ∀ char ∈ spaces ++ rest, isSpace char = true := by
  refine List.forall_mem_append.mpr ⟨inside, ?_⟩
  rcases ended with rfl | rfl
  · simp
  · exact List.all_eq_true.mp rfl

/-- The end of a value is at the last quote. -/
theorem refuses_early_end {β : Type} {next : Cursor → Captures → Option β} {back : Text}
    (filled : back ≠ []) :
    Regex.Refuses [Regex.optional isQuote, .greedy isSpace, .lineEnd] next (back ++ ['\'']) := by
  apply Regex.refuses_of_spans
  intro word rest cut spans
  obtain ⟨quote, later, rfl, optional, spans⟩ := Regex.spans_concat_cons.mp spans
  obtain ⟨spaces, none, rfl, inside, ends⟩ := Regex.spans_concat_cons.mp spans
  obtain ⟨rfl, ended⟩ := ends
  have width : quote.length ≤ 1 := by
    rcases optional with ⟨char, rfl, _⟩ | rfl <;> simp
  have blank := line_end_space inside ended
  rw [List.append_nil, List.append_assoc] at cut
  by_cases empty : spaces ++ rest = []
  · have lengths := congrArg List.length cut
    rw [empty, List.append_nil, List.length_append, List.length_singleton] at lengths
    have long := List.length_pos_of_ne_nil filled
    omega
  · have last := congrArg List.getLast? cut
    rw [List.getLast?_append_of_ne_nil _ empty, List.getLast?_append_of_ne_nil _ (by simp),
      List.getLast?_singleton] at last
    have space := blank '\'' (List.mem_of_getLast? last.symm)
    exact absurd space (by decide)

theorem filter_text (item : ConfigFilter) (indent : Nat) :
    item.line indent =
      blanks indent ++ (item.field ++ (blanks (max 1 (31 - item.field.length)) ++
        ("filter:".toList ++ (blanks 1 ++ (item.condition ++
          (blanks (max 1 (13 - item.condition.length)) ++ ("value:".toList ++ (blanks 1 ++
            ('\'' :: (item.value ++ ['\''])))))))))) := by
  simp only [ConfigFilter.line, column, List.append_assoc]
  rfl

theorem filter_match {item : ConfigFilter} (printable : item.Printable) {indent : Nat}
    (indented : 0 < indent) :
    sysmonFilter.matchText (item.line indent) =
      some [("value", item.value), ("field", item.field)] := by
  rw [filter_text]
  obtain ⟨named, name, stated, trimmed, unlabelled, conditionWhole, valueWhole⟩ := printable
  obtain ⟨field, condition, value⟩ := item
  dsimp only at *
  obtain ⟨first, field, rfl⟩ := List.exists_cons_of_ne_nil named
  obtain ⟨start, condition, rfl⟩ := List.exists_cons_of_ne_nil stated
  refine Regex.match_of_leads [] ?_
  refine Regex.leads_plus _ (blanks_filled indented) blanks_space
    (head_solid named fun char member => name_char_solid (name char member)) ?_
  refine Regex.leads_group (Regex.leads_reluctant_plus ?_ ?_ (Regex.leads_kept _ rfl ?_))
  · intro char member
    exact bne_iff_ne.mpr (name_char_code (name char member)).2.2
  · intro front back cut filled
    have inside : ∀ char ∈ back, isNameChar char = true := by
      intro char member
      exact name char (List.mem_cons_of_mem _ (cut ▸ List.mem_append_right front member))
    obtain ⟨char, member⟩ := List.exists_mem_of_ne_nil back filled
    refine Regex.refuses_kept (Regex.refuses_label "filter".toList rfl (none_of_all rfl)
      (by decide) ?_ blanks_unlabelled ⟨char, member, name_char_solid (inside char member)⟩)
    intro colon
    exact (name_char_code (inside ':' colon)).2.2 rfl
  refine Regex.leads_plus _ (blanks_filled (by omega)) blanks_space rfl ?_
  refine Regex.leads_written "filter:" ?_
  refine Regex.leads_greedy _ blanks_space (by simpa using trimmed_head trimmed) ?_
  refine Regex.leads_reluctant_plus (whole_any conditionWhole) ?_ ?_
  · intro front back cut filled
    have whole : start :: condition = (start :: front) ++ back := congrArg (start :: ·) cut
    have solid := trimmed_last trimmed whole filled
    refine Regex.refuses_label "value".toList rfl (none_of_all rfl) (by decide) ?_ blanks_unlabelled
      solid
    intro colon
    exact unlabelled (List.mem_cons_of_mem _ (cut ▸ List.mem_append_right front colon))
  refine Regex.leads_plus _ (blanks_filled (by omega)) blanks_space rfl ?_
  refine Regex.leads_written "value:" ?_
  refine Regex.leads_greedy _ blanks_space rfl ?_
  refine Regex.leads_first (Regex.leads_single (by decide) ?_)
  refine Regex.leads_group (Regex.leads_reluctant _ (whole_any valueWhole) ?_
    (Regex.leads_kept _ rfl ?_))
  · intro front back _ filled
    exact Regex.refuses_kept (refuses_early_end filled)
  refine Regex.leads_first (Regex.leads_single (by decide) ?_)
  refine Regex.leads_greedy [] (by simp) rfl ?_
  exact Regex.leads_line_end (Regex.leads_nil fun _ => rfl)

/-- The end of a header, behind its effect. -/
theorem leads_combination (combination : Combination) (found : Captures) :
    Regex.Leads
      [Regex.greedyPlus isSpace, Regex.literalIgnoringCase "combine rules using ",
        .single isQuote, Regex.anyOf (["And", "Or"].map Regex.literalIgnoringCase),
        .single isQuote]
      (fun after found => some (found, after.rest))
      (blanks 3 ++ ("combine rules using ".toList ++
        ('\'' :: (combination.spelling ++ ['\'']))))
      found (found, []) := by
  refine Regex.leads_plus _ (blanks_filled (by decide)) blanks_space rfl ?_
  refine Regex.leads_written "combine rules using " (Regex.leads_single (by decide) ?_)
  have close : Regex.Leads [.single isQuote] (fun after found => some (found, after.rest)) ['\'']
      found (found, []) := Regex.leads_single (by decide) (Regex.leads_nil fun _ => rfl)
  cases combination with
  | all => exact Regex.leads_first (Regex.leads_written "And" close)
  | any =>
      exact Regex.leads_second (Regex.refuses_literal rfl (by decide))
        (Regex.leads_written "Or" close)

theorem header_text (block : ConfigBlock) :
    block.header =
      blanks 1 ++ ('-' :: (blanks 1 ++ (block.event ++
        (blanks (max 1 (35 - block.event.length)) ++ ("onmatch:".toList ++ (blanks 1 ++
          (block.effect.spelling ++ (blanks 3 ++ ("combine rules using ".toList ++
            ('\'' :: (block.combination.spelling ++ ['\'']))))))))))) := by
  change " - ".toList ++ column 35 block.event ++ "onmatch: ".toList ++ block.effect.spelling ++
    "   combine rules using '".toList ++ block.combination.spelling ++ ['\''] = _
  simp only [column, List.append_assoc]
  rfl

theorem header_match {block : ConfigBlock} (printable : block.Printable) :
    ruleHeader.matchText block.header =
      some [("effect", block.effect.spelling), ("event", block.event)] := by
  rw [header_text]
  obtain ⟨letter, long, name, _⟩ := printable
  obtain ⟨event, effect, combination, entries⟩ := block
  dsimp only at *
  obtain ⟨first, rest, rfl⟩ :=
    List.exists_cons_of_length_pos (Nat.lt_of_lt_of_le Nat.zero_lt_two long)
  have more : rest ≠ [] := by
    rintro rfl
    simp at long
  have part : ∀ char ∈ rest, isEventPart char = true := by
    intro char member
    have named := name char (List.mem_cons_of_mem _ member)
    rw [isNameChar, Bool.or_eq_true] at named
    simp only [isEventPart, Regex.letterIgnoringCase, Bool.or_eq_true]
    tauto
  refine Regex.match_of_leads [] ?_
  refine Regex.leads_greedy _ blanks_space rfl (Regex.leads_single (by decide) ?_)
  refine Regex.leads_greedy _ blanks_space ?_ ?_
  · simp [name_char_solid (name first List.mem_cons_self)]
  refine Regex.leads_group (Regex.leads_seq (Regex.leads_single ?_ (Regex.leads_plus _ more part
    (blanks_head (by omega) (by decide)) (Regex.leads_kept (first :: rest) rfl ?_))))
  · simp only [List.head?_cons, Option.any_some] at letter
    simp [Regex.letterIgnoringCase, letter]
  refine Regex.leads_plus _ (blanks_filled (by omega)) blanks_space rfl ?_
  refine Regex.leads_written "onmatch:" ?_
  refine Regex.leads_greedy _ blanks_space ?_ (Regex.leads_group ?_)
  · cases effect <;> rfl
  have close := leads_combination combination
  cases effect with
  | included =>
      exact Regex.leads_first (Regex.leads_written "include"
        (Regex.leads_kept _ rfl (close _)))
  | excluded =>
      exact Regex.leads_second (Regex.refuses_literal rfl (by decide))
        (Regex.leads_written "exclude" (Regex.leads_kept _ rfl (close _)))

theorem version_match {version : Text} (versioned : version ≠ []) (absent : ')' ∉ version) :
    isRuleVersion ("Rule configuration (version ".toList ++ version ++ "):".toList) = true := by
  have found : ruleVersion.matchText
      ("Rule configuration (version ".toList ++ (version ++ ("):".toList ++ []))) = some [] := by
    refine Regex.match_of_leads [] ?_
    refine Regex.leads_greedy [] (by simp) rfl ?_
    refine Regex.leads_written "Rule configuration (version " ?_
    refine Regex.leads_plus version versioned (differs_of_absent absent) rfl ?_
    refine Regex.leads_written "):" (Regex.leads_greedy [] (by simp) rfl ?_)
    exact Regex.leads_line_end (Regex.leads_nil fun _ => rfl)
  rw [isRuleVersion, List.append_assoc, ← List.append_nil "):".toList, found]
  rfl

/-- The value of a setting comes back without the blanks in front of it. -/
theorem setting_match {setting : ConfigSetting} (named : setting.key ≠ [])
    (trimmed : strip setting.key = setting.key) (unlabelled : ':' ∉ setting.key)
    (whole : ∀ char ∈ setting.value, isLineBreak char = false) :
    summaryPattern.matchText setting.line =
      some [("value", lstrip setting.value), ("key", setting.key)] := by
  have cut := List.takeWhile_append_dropWhile (p := isSpace) (l := setting.value)
  have text : setting.line = blanks 1 ++ ('-' :: (blanks 1 ++ (setting.key ++ (':' ::
      ((blanks (max 1 (31 - (setting.key ++ [':']).length)) ++ setting.value.takeWhile isSpace) ++
        (lstrip setting.value ++ [])))))) := by
    rw [List.append_nil, List.append_assoc, lstrip, cut]
    simp only [ConfigSetting.line, column, List.append_assoc]
    rfl
  rw [text]
  obtain ⟨key, value⟩ := setting
  dsimp only at *
  refine Regex.match_of_leads [] ?_
  refine Regex.leads_greedy _ blanks_space rfl (Regex.leads_single (by decide) ?_)
  refine Regex.leads_greedy _ blanks_space ?_ (Regex.leads_group (Regex.leads_plus _ named
    (differs_of_absent unlabelled) rfl (Regex.leads_kept key rfl ?_)))
  · obtain ⟨first, key, rfl⟩ := List.exists_cons_of_ne_nil named
    simpa using trimmed_head trimmed
  refine Regex.leads_single (by decide) (Regex.leads_greedy _ ?_ ?_ (Regex.leads_group
    (Regex.leads_greedy _ ?_ rfl (Regex.leads_kept _ rfl ?_))))
  · intro char member
    rcases List.mem_append.mp member with blank | space
    · exact blanks_space char blank
    · exact List.mem_takeWhile_imp space
  · rw [List.append_nil, lstrip]
    cases back : value.dropWhile isSpace with
    | nil => rfl
    | cons char rest =>
        have solid := List.head_dropWhile_not isSpace (l := value) (by rw [back]; simp)
        simpa [back] using solid
  · intro char member
    exact whole_any whole char ((List.dropWhile_suffix isSpace).subset member)
  exact Regex.leads_line_end (Regex.leads_nil fun _ => rfl)

end Patterns

section Shapes

variable {line : Text}

/-- The first visible character of a line. -/
theorem first_solid {front other rest tail : Text} {first second : Char}
    (blank : ∀ char ∈ front, isSpace char = true) (otherBlank : ∀ char ∈ other, isSpace char = true)
    (solid : isSpace first = false) (otherSolid : isSpace second = false)
    (same : front ++ first :: rest = other ++ second :: tail) : first = second := by
  have stripped := congrArg lstrip same
  simp only [lstrip] at stripped
  rw [List.dropWhile_append_of_pos blank, List.dropWhile_append_of_pos otherBlank] at stripped
  have left := lstrip_cons solid rest
  have right := lstrip_cons otherSolid tail
  rw [lstrip] at left right
  rw [left, right] at stripped
  exact (List.cons.inj stripped).1

/-- What a line with the schema version looks like. -/
structure VersionShape (line : Text) : Prop where
  first : ∃ spaces char rest, line = spaces ++ char :: rest ∧
    (∀ other ∈ spaces, isSpace other = true) ∧ Regex.ignoringCase 'R' char = true
  labelled : ':' ∈ line
  last : ∃ char, line.getLast? = some char ∧ (isSpace char = true ∨ char = ':')

theorem version_shape (version : isRuleVersion line = true) : VersionShape line := by
  obtain ⟨word, rest, cut, spans⟩ := Regex.match_spans version
  obtain ⟨spaces, others, rfl, inside, spans⟩ := Regex.spans_concat_cons.mp spans
  obtain ⟨literal, others, rfl, heading, spans⟩ := Regex.spans_concat_cons.mp spans
  obtain ⟨middle, others, rfl, _, spans⟩ := Regex.spans_concat_cons.mp spans
  obtain ⟨close, others, rfl, closing, spans⟩ := Regex.spans_concat_cons.mp spans
  obtain ⟨blank, none, rfl, behind, rfl, ended⟩ := Regex.spans_concat_cons.mp spans
  obtain ⟨first, tail, rfl, same⟩ := Regex.spans_initial rfl heading
  obtain ⟨paren, rfl, _, _⟩ := Regex.spans_label [')'] rfl (none_of_all rfl) closing
  have whole : line = (spaces ++ first :: tail ++ middle ++ paren) ++ ':' :: (blank ++ rest) := by
    simp [cut]
  refine ⟨⟨spaces, first, _, by simpa using cut, inside, same⟩, ?_, ?_⟩
  · rw [whole]
    simp
  · have space := line_end_space behind ended
    rw [whole, List.getLast?_append_of_ne_nil _ (by simp), List.getLast?_cons]
    cases final : (blank ++ rest).getLast? with
    | none => exact ⟨':', rfl, Or.inr rfl⟩
    | some char => exact ⟨char, rfl, Or.inl (space char (List.mem_of_getLast? final))⟩

/-- A line that begins with a dash has no schema version. -/
theorem dash_unversioned {spaces rest : Text} (blank : ∀ char ∈ spaces, isSpace char = true) :
    isRuleVersion (spaces ++ '-' :: rest) = false := by
  apply Bool.eq_false_iff.mpr
  intro version
  obtain ⟨others, char, tail, cut, otherBlank, letter⟩ := (version_shape version).first
  have same := first_solid blank otherBlank (by decide)
    (Regex.ignoring_case_solid (by decide) letter) cut
  rw [← same] at letter
  exact absurd letter (by decide)

theorem header_shape (header : isHeader line = true) : ∃ spaces rest, line = spaces ++ '-' :: rest ∧
    ∀ char ∈ spaces, isSpace char = true := by
  have matched : (ruleHeader.matchText line).isSome = true := (Bool.and_eq_true_iff.mp header).2
  obtain ⟨word, rest, cut, spans⟩ := Regex.match_spans matched
  obtain ⟨spaces, others, rfl, inside, spans⟩ := Regex.spans_concat_cons.mp spans
  obtain ⟨dash, others, rfl, ⟨char, rfl, same⟩, _⟩ := Regex.spans_concat_cons.mp spans
  cases beq_iff_eq.mp same
  exact ⟨spaces, others ++ rest, by simp [cut], inside⟩

/-- A line that begins with another visible character is no header. -/
theorem not_header {spaces rest : Text} {char : Char}
    (blank : ∀ other ∈ spaces, isSpace other = true) (solid : isSpace char = false)
    (apart : char ≠ '-') : isHeader (spaces ++ char :: rest) = false := by
  apply Bool.eq_false_iff.mpr
  intro header
  obtain ⟨others, tail, cut, otherBlank⟩ := header_shape header
  exact apart (first_solid blank otherBlank solid (by decide) cut)

/-- A visible character that is missing in the announcement of no rules. -/
theorem not_no_rules {char : Char} (member : char ∈ line) (solid : isSpace char = false)
    (ascii : char.toNat < 0x80) (foreign : char.toLower ∉ "no rules installed".toList) :
    isNoRules line = false := by
  apply Bool.eq_false_iff.mpr
  intro noRules
  rw [isNoRules, beq_iff_eq] at noRules
  apply foreign
  rw [← noRules]
  exact mem_lower ascii (mem_strip member solid)

theorem not_skipped {char : Char} (member : char ∈ line) (solid : isSpace char = false)
    (ascii : char.toNat < 0x80) (foreign : char.toLower ∉ "no rules installed".toList) :
    isSkipped line = false := by
  rw [isSkipped, not_no_rules member solid ascii foreign, Bool.or_false]
  exact decide_eq_false (strip_visible member solid)

end Shapes

section Lines

/-- A line of a block with the predicate that it stands for. -/
structure BodyLine (line : Text) (predicate : Predicate) : Prop where
  inside : isBoundary line = false
  kept : isSkipped line = false
  stands : linePredicate line = some predicate
  whole : ∀ char ∈ line, isLineBreak char = false

theorem blanks_whole {width : Nat} : ∀ char ∈ blanks width, isLineBreak char = false := by
  intro char member
  rw [List.eq_of_mem_replicate member]
  decide

theorem name_whole {word : Text} (name : ∀ char ∈ word, isNameChar char = true) :
    ∀ char ∈ word, isLineBreak char = false := fun char member =>
  line_break_space (name_char_solid (name char member))

theorem lower_name {word : Text} (name : ∀ char ∈ word, isNameChar char = true) :
    (lower word).map (fun char => if char = ' ' then '_' else char) = lower word := by
  rw [lower_ascii fun char member => (lower_name_char (name char member)).1, List.map_map]
  apply List.map_congr_left
  intro char member
  exact if_neg (lower_name_char (name char member)).2

theorem filter_body_line {item : ConfigFilter} (printable : item.Printable) {indent : Nat}
    (indented : 0 < indent) : BodyLine (item.line indent) item.predicate := by
  have text := filter_text item indent
  have quoted : '\'' ∈ item.line indent := by
    rw [text]
    simp
  constructor
  · obtain ⟨first, field, named⟩ := List.exists_cons_of_ne_nil printable.named
    have letter := printable.name first (by rw [named]; exact List.mem_cons_self)
    have plain : isHeader (item.line indent) = false := by
      rw [text, named, List.cons_append]
      apply not_header blanks_space (name_char_solid letter)
      rintro rfl
      exact absurd letter (by decide)
    have unversioned : isRuleVersion (item.line indent) = false := by
      apply Bool.eq_false_iff.mpr
      intro version
      obtain ⟨last, final, ends⟩ := (version_shape version).last
      rw [ConfigFilter.line, List.getLast?_append_of_ne_nil _ (by simp), List.getLast?_singleton,
        Option.some.injEq] at final
      subst final
      revert ends
      decide
    rw [isBoundary, unversioned, plain, Bool.or_false]
  · exact not_skipped quoted (by decide) (by decide) (by decide)
  · have field : strip item.field = item.field :=
      strip_solid fun char member => name_char_solid (printable.name char member)
    rw [linePredicate, filter_match printable indented]
    change some (Predicate.mk (String.ofList ((lower (strip item.field)).map _)) .contains _) = _
    rw [field, lower_name printable.name]
    rfl
  · rw [text]
    simp only [List.forall_mem_append, List.forall_mem_cons]
    exact ⟨blanks_whole, name_whole printable.name, blanks_whole, none_of_all rfl, blanks_whole,
      printable.conditionWhole, blanks_whole, none_of_all rfl, blanks_whole, rfl,
      printable.valueWhole, rfl, by simp⟩

theorem compound_text (name : Text) (combination : Combination) :
    compoundText name combination =
      'C' :: ("ompound Rule ".toList ++ (name ++ ("   combine using ".toList ++
        combination.spelling))) := by
  change "Compound Rule ".toList ++ name ++ "   combine using ".toList ++ combination.spelling = _
  simp only [List.append_assoc]
  rfl

theorem compound_trimmed (name : Text) (combination : Combination) :
    strip (compoundText name combination) = compoundText name combination := by
  apply strip_solid_ends
  · rw [compound_text]
    rfl
  · change (_ ++ combination.spelling).getLast?.all _ = true
    rw [List.getLast?_append_of_ne_nil _ (by cases combination <;> decide)]
    cases combination <;> decide

theorem unlabelled_not_filter {line : Text} (colonless : ':' ∉ line) :
    sysmonFilter.matchText line = none := by
  rw [← Option.not_isSome_iff_eq_none]
  intro matched
  obtain ⟨word, rest, cut, spans⟩ := Regex.match_spans matched
  obtain ⟨_, others, rfl, _, spans⟩ := Regex.spans_concat_cons.mp spans
  obtain ⟨_, others, rfl, _, spans⟩ := Regex.spans_concat_cons.mp spans
  obtain ⟨_, others, rfl, _, spans⟩ := Regex.spans_concat_cons.mp spans
  obtain ⟨label, others, rfl, spelled, _⟩ := Regex.spans_concat_cons.mp spans
  obtain ⟨front, rfl, _, _⟩ := Regex.spans_label "filter".toList rfl (none_of_all rfl) spelled
  apply colonless
  rw [cut]
  simp

theorem compound_contained (name : Text) (combination : Combination) :
    containsText "compound rule".toList (lower (blanks 8 ++ compoundText name combination)) =
      true := by
  have text : blanks 8 ++ compoundText name combination = (blanks 8 ++ "Compound Rule".toList) ++
      (" ".toList ++ (name ++ ("   combine using ".toList ++ combination.spelling))) := by
    rw [compound_text]
    rfl
  have ascii : ∀ char ∈ blanks 8 ++ "Compound Rule".toList, char.toNat < 0x80 := by
    have checked : (blanks 8 ++ "Compound Rule".toList).all
        (fun char => decide (char.toNat < 0x80)) = true := rfl
    exact fun char member => of_decide_eq_true (List.all_eq_true.mp checked char member)
  rw [text, lower, lower_from_ascii ascii, List.map_append]
  exact contains_text_infix _ _ _

theorem compound_body_line {name : Text} (combination : Combination) (unlabelled : ':' ∉ name)
    (whole : ∀ char ∈ name, isLineBreak char = false) :
    BodyLine (blanks 8 ++ compoundText name combination)
      ⟨"compound_rule", .contains, String.ofList (compoundText name combination)⟩ := by
  have colonless : ':' ∉ blanks 8 ++ compoundText name combination := by
    rw [compound_text]
    simp only [List.mem_append, List.mem_cons, not_or]
    refine ⟨blanks_unlabelled, by decide, by decide, unlabelled, by decide, ?_⟩
    cases combination <;> decide
  constructor
  · have unversioned : isRuleVersion (blanks 8 ++ compoundText name combination) = false := by
      apply Bool.eq_false_iff.mpr
      intro version
      exact colonless (version_shape version).labelled
    rw [isBoundary, unversioned, compound_text, not_header blanks_space (by decide) (by decide),
      Bool.or_false]
  · have capital : 'C' ∈ blanks 8 ++ compoundText name combination := by
      rw [compound_text]
      exact List.mem_append_right _ List.mem_cons_self
    exact not_skipped capital (by decide) (by decide) (by decide)
  · have stripped : strip (blanks 8 ++ compoundText name combination) =
        compoundText name combination := by
      rw [← List.append_nil (blanks 8 ++ _), strip_padded blanks_space (by simp), compound_trimmed]
    rw [linePredicate, unlabelled_not_filter colonless]
    dsimp only
    rw [if_pos (compound_contained name combination), stripped]
  · rw [compound_text]
    simp only [List.forall_mem_append, List.forall_mem_cons]
    refine ⟨blanks_whole, rfl, none_of_all rfl, whole, none_of_all rfl, ?_⟩
    cases combination <;> exact none_of_all rfl

end Lines

end Sigmascope
