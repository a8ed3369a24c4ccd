import Mathlib.Data.Finset.Lattice.Lemmas
import Sigmascope.Parse.FilterExpression
import Sigmascope.Parse.SplitOptions

/-!
The lines that `auditctl -l` prints, one for each loaded rule, and what the parser
makes of them. A rule is written as a list of options; its clean values are the
ones that cannot be taken for something else on the line.
-/

namespace Sigmascope

set_option autoImplicit false

open Sigmascope.Library Sigmascope.Library.PyText

/-- One option of a syscall rule after its action. -/
inductive RuleItem where
  | filter (predicate : Predicate)
  | syscalls (names : List String)
  | key (value : String)

inductive ListedRule where
  | syscallRule (effect : Effect) (scope : String) (listFirst : Bool) (items : List RuleItem)
  | watch (path perms : String) (key : Option String)

def actionName : Effect → String
  | .included => "always"
  | .excluded => "never"

/-- The action and the filter list, in either of the two orders. -/
def actionText (effect : Effect) (scope : String) (listFirst : Bool) : Text :=
  if listFirst then scope.toList ++ ',' :: (actionName effect).toList
  else (actionName effect).toList ++ ',' :: scope.toList

namespace RuleItem

def option : RuleItem → LineOption
  | .filter predicate => ⟨'F', filterText predicate⟩
  | .syscalls names => ⟨'S', [','].intercalate (names.map String.toList)⟩
  | .key value => ⟨'k', value.toList⟩

def predicates : RuleItem → List Predicate
  | .filter predicate =>
      [{ predicate with value := normaliseValue predicate.field predicate.value }]
  | .syscalls _ => []
  | .key value => [⟨"key", .eq, value⟩]

def names : RuleItem → List String
  | .syscalls names => names
  | _ => []

end RuleItem

namespace ListedRule

def options : ListedRule → List LineOption
  | .syscallRule effect scope listFirst items =>
      ⟨'a', actionText effect scope listFirst⟩ :: items.map RuleItem.option
  | .watch path perms key =>
      ⟨'w', path.toList⟩ :: ⟨'p', perms.toList⟩ ::
        key.toList.map fun value => ⟨'k', value.toList⟩

def line (listed : ListedRule) : Text := lineText listed.options

def effect : ListedRule → Effect
  | .syscallRule effect _ _ _ => effect
  | .watch _ _ _ => .included

def scope : ListedRule → String
  | .syscallRule _ scope _ _ => scope
  | .watch _ _ _ => "exit"

def names : ListedRule → List String
  | .syscallRule _ _ _ items => items.flatMap RuleItem.names
  | .watch _ _ _ => []

/-- A watch stands for filters on its path and its permissions. -/
def predicates : ListedRule → List Predicate
  | .syscallRule _ _ _ items => items.flatMap RuleItem.predicates
  | .watch path perms key =>
      ⟨"path", .eq, path⟩ :: ⟨"perm", .eq, perms⟩ ::
        key.toList.map fun value => ⟨"key", .eq, value⟩

/-- The rule that the parser is to recover. -/
def rule (listed : ListedRule) (order : Nat) (origin : Origin) : Rule where
  effect := listed.effect
  selector := .syscall ⟨listed.names.toFinset, listed.scope⟩
  predicates := listed.predicates
  order := order
  origin := origin
  raw := String.ofList listed.line

end ListedRule

/-- A value that stays one value on a line; it may be empty. -/
structure PlainValue (value : String) : Prop where
  trimmed : strip value.toList = value.toList
  whole : ∀ char ∈ value.toList, isLineBreak char = false
  free : FreeOfOptions value.toList

/-- A word without blanks and commas. -/
structure CleanWord (word : String) : Prop where
  nonempty : word.toList ≠ []
  solid : ∀ char ∈ word.toList, isSpace char = false
  comma : ',' ∉ word.toList

/-- The name of a filter list is a lower-case word that is no action. -/
structure CleanScope (scope : String) : Prop extends CleanWord scope where
  lowered : lower scope.toList = scope.toList
  noAction : actions.lookup scope = none

def RuleItem.Plain : RuleItem → Prop
  | .filter predicate => CleanFilter predicate ∧ FreeOfOptions predicate.value.toList
  | .syscalls names =>
      names ≠ [] ∧ ∀ name ∈ names, CleanWord name ∧ isOptionWord name.toList = false
  | .key value => PlainValue value

def ListedRule.Plain : ListedRule → Prop
  | .syscallRule _ scope _ items => CleanScope scope ∧ ∀ item ∈ items, item.Plain
  | .watch path perms key => PlainValue path ∧ PlainValue perms ∧ ∀ value ∈ key, PlainValue value

section Options

theorem option_word_short {word : Text} (short : isOptionWord word = true) :
    ∃ letter, word = ['-', letter] ∧ isAsciiLetter letter = true := by
  unfold isOptionWord at short
  split at short
  · rename_i letter
    exact ⟨letter, rfl, short⟩
  · cases short

/-- A word with a comma is no option. -/
theorem comma_no_option {word : Text} (comma : ',' ∈ word) : isOptionWord word = false := by
  by_contra option
  obtain ⟨letter, rfl, isLetter⟩ := option_word_short (by simpa using option)
  have same : letter = ',' := by simpa [eq_comm] using comma
  rw [same] at isLetter
  revert isLetter
  decide

theorem solid_free {text : Text} (nonempty : text ≠ [])
    (solid : ∀ char ∈ text, isSpace char = false) (plain : isOptionWord text = false) :
    FreeOfOptions text := by
  intro word member
  rw [words_solid nonempty solid, List.mem_singleton] at member
  rw [member]
  exact plain

theorem solid_option_clean {letter : Char} {value : Text} (isLetter : isAsciiLetter letter = true)
    (nonempty : value ≠ []) (solid : ∀ char ∈ value, isSpace char = false)
    (plain : isOptionWord value = false) : LineOption.Clean ⟨letter, value⟩ where
  letter := isLetter
  trimmed := strip_solid solid
  whole := fun char member => line_break_space (solid char member)
  free := solid_free nonempty solid plain

theorem value_option_clean {letter : Char} {value : String}
    (isLetter : isAsciiLetter letter = true) (plain : PlainValue value) :
    LineOption.Clean ⟨letter, value.toList⟩ where
  letter := isLetter
  trimmed := plain.trimmed
  whole := plain.whole
  free := plain.free

theorem action_name_clean (effect : Effect) : CleanWord (actionName effect) := by
  cases effect <;> exact ⟨by decide, none_of_all (by decide), by decide⟩

theorem action_text_solid (effect : Effect) {scope : String} (listFirst : Bool)
    (clean : CleanScope scope) :
    ∀ char ∈ actionText effect scope listFirst, isSpace char = false := by
  intro char member
  have action := (action_name_clean effect).solid
  cases listFirst <;>
    simp only [actionText, Bool.false_eq_true, if_false, if_true, List.mem_append,
      List.mem_cons] at member
  · rcases member with name | rfl | list
    · exact action char name
    · decide
    · exact clean.solid char list
  · rcases member with list | rfl | name
    · exact clean.solid char list
    · decide
    · exact action char name

theorem action_option_clean (effect : Effect) {scope : String} (listFirst : Bool)
    (clean : CleanScope scope) : LineOption.Clean ⟨'a', actionText effect scope listFirst⟩ := by
  apply solid_option_clean (by decide)
  · cases listFirst <;> simp [actionText]
  · exact action_text_solid effect listFirst clean
  · apply comma_no_option
    cases listFirst <;> simp [actionText]

theorem field_part_solid {char : Char} (part : isFieldPart char = true) :
    isSpace char = false := by
  simp only [isFieldPart, Bool.or_eq_true, beq_iff_eq] at part
  rcases part with (letter | digit) | rfl
  · exact ascii_letter_solid letter
  · simp only [isAsciiDigit, Bool.and_eq_true, decide_eq_true_eq, code_le] at digit
    have codes : '0'.toNat = 48 ∧ '9'.toNat = 57 := by decide
    apply solid_of_code <;> omega
  · decide

theorem op_spelling_solid (op : PredicateOp) : ∀ char ∈ opSpelling op, isSpace char = false := by
  cases op <;> exact none_of_all (by decide)

/-- Field and comparison form one word, which goes on with the value. -/
theorem filter_front_solid {predicate : Predicate} (clean : CleanFilter predicate) :
    ∀ char ∈ predicate.field.toList ++ opSpelling predicate.op, isSpace char = false := by
  intro char member
  rcases List.mem_append.mp member with field | op
  · exact field_part_solid (clean.part char field)
  · exact op_spelling_solid predicate.op char op

theorem filter_front_head {predicate : Predicate} (clean : CleanFilter predicate) :
    ∃ first rest, predicate.field.toList = first :: rest ∧ first ≠ '-' := by
  have start := clean.start
  cases field : predicate.field.toList with
  | nil =>
      rw [field] at start
      cases start
  | cons first rest =>
      refine ⟨first, rest, rfl, ?_⟩
      intro same
      subst same
      rw [field] at start
      exact absurd (show isFieldStart '-' = true from start) (by decide)

theorem filter_option_clean {predicate : Predicate} (clean : CleanFilter predicate)
    (free : FreeOfOptions predicate.value.toList) :
    LineOption.Clean ⟨'F', filterText predicate⟩ := by
  obtain ⟨first, rest, field, notDash⟩ := filter_front_head clean
  have front := filter_front_solid clean
  have nonempty : predicate.field.toList ++ opSpelling predicate.op ≠ [] := by
    rw [field]
    simp
  constructor
  · exact (by decide : isAsciiLetter 'F' = true)
  · by_cases empty : predicate.value.toList = []
    · rw [filterText, empty, List.append_nil]
      exact strip_solid front
    · rw [strip_eq_self_iff]
      constructor
      · rw [filterText, field]
        apply lstrip_cons
        exact front first (by rw [field]; simp)
      · exact rstrip_append empty ((strip_eq_self_iff _).mp clean.trimmed).2 _
  · intro char member
    rcases List.mem_append.mp member with inFront | inValue
    · exact line_break_space (front char inFront)
    · exact clean.whole char inValue
  · intro word member
    rw [filterText, words_solid_append _ _ nonempty front (trimmed_head clean.trimmed),
      List.mem_cons] at member
    rcases member with rfl | later
    · rw [field]
      by_contra option
      obtain ⟨letter, same, _⟩ := option_word_short (by simpa using option)
      exact notDash (List.cons.inj same).1
    · exact free word (List.mem_of_mem_tail later)

theorem names_text_solid {names : List String} (clean : ∀ name ∈ names, CleanWord name) :
    ∀ char ∈ [','].intercalate (names.map String.toList), isSpace char = false := by
  intro char member
  rcases mem_joined member with ⟨part, inside, own⟩ | comma
  · obtain ⟨name, given, rfl⟩ := List.mem_map.mp inside
    exact (clean name given).solid char own
  · rw [List.mem_singleton.mp comma]
    decide

theorem names_option_clean {names : List String} (provided : names ≠ [])
    (clean : ∀ name ∈ names, CleanWord name ∧ isOptionWord name.toList = false) :
    LineOption.Clean ⟨'S', [','].intercalate (names.map String.toList)⟩ := by
  apply solid_option_clean (by decide)
  · cases names with
    | nil => exact absurd rfl provided
    | cons name names =>
        have own := (clean name List.mem_cons_self).1.nonempty
        cases names with
        | nil => simpa using own
        | cons next names => simp [List.intercalate_cons_cons]
  · exact names_text_solid fun name member => (clean name member).1
  · cases names with
    | nil => exact absurd rfl provided
    | cons name names =>
        cases names with
        | nil => simpa using (clean name List.mem_cons_self).2
        | cons next names =>
            apply comma_no_option
            simp [List.intercalate_cons_cons]

theorem item_option_clean {item : RuleItem} (plain : item.Plain) : item.option.Clean := by
  cases item with
  | filter predicate => exact filter_option_clean plain.1 plain.2
  | syscalls names => exact names_option_clean plain.1 plain.2
  | key value => exact value_option_clean (by decide) plain

theorem listed_options_clean {listed : ListedRule} (plain : listed.Plain) :
    ∀ option ∈ listed.options, option.Clean := by
  cases listed with
  | syscallRule effect scope listFirst items =>
      intro option member
      rcases List.mem_cons.mp member with rfl | later
      · exact action_option_clean effect listFirst plain.1
      · obtain ⟨item, inside, rfl⟩ := List.mem_map.mp later
        exact item_option_clean (plain.2 item inside)
  | watch path perms key =>
      obtain ⟨pathClean, permsClean, keyClean⟩ := plain
      intro option member
      rcases List.mem_cons.mp member with rfl | later
      · exact value_option_clean (by decide) pathClean
      · rcases List.mem_cons.mp later with rfl | last
        · exact value_option_clean (by decide) permsClean
        · obtain ⟨value, inside, rfl⟩ := List.mem_map.mp last
          exact value_option_clean (by decide) (keyClean value (Option.mem_toList.mp inside))

end Options

section Read

variable {origin : Origin} {state : RuleState}

/-- The two characters of an option are what stands before the first blank of its token. -/
theorem partition_option {option : LineOption} (clean : option.Clean) :
    ∃ found, partition ' ' (strip option.text) = (['-', option.letter], found, option.value) := by
  have absent : ' ' ∉ ['-', option.letter] := by
    have letter := clean.letter
    intro member
    simp only [List.mem_cons, List.not_mem_nil, or_false] at member
    rcases member with dash | same
    · revert dash
      decide
    · rw [← same] at letter
      revert letter
      decide
  rw [option_text_strip clean]
  split
  · rename_i empty
    rw [partition_absent absent, empty]
    exact ⟨false, rfl⟩
  · exact ⟨true, partition_at absent option.value⟩

theorem read_action {effect : Effect} {scope : String} (listFirst : Bool)
    (clean : CleanScope scope) :
    readToken origin state (strip (LineOption.text ⟨'a', actionText effect scope listFirst⟩)) =
      { state with effect := some effect, scope := scope } := by
  have option := action_option_clean effect listFirst clean
  have action := action_name_clean effect
  have scopeStrip := strip_solid clean.solid
  have actionStrip := strip_solid action.solid
  have actionLower : lower (actionName effect).toList = (actionName effect).toList := by
    cases effect <;> decide
  have actionFound : actions.lookup (actionName effect) = some effect := by
    cases effect <;> rfl
  obtain ⟨found, token⟩ := partition_option option
  rw [readToken, token]
  simp only [option.trimmed, true_or, if_true]
  cases listFirst with
  | false =>
      have cut := partition_at action.comma scope.toList
      simp only [readAction, actionText, Bool.false_eq_true, if_false, cut, Bool.not_true,
        scopeStrip, actionStrip, actionLower, clean.lowered, String.ofList_toList, actionFound,
        clean.noAction]
  | true =>
      have cut := partition_at clean.comma (actionName effect).toList
      simp only [readAction, actionText, Bool.false_eq_true, if_false, if_true, cut,
        Bool.not_true, scopeStrip, actionStrip, actionLower, clean.lowered,
        String.ofList_toList, actionFound, clean.noAction]

theorem syscall_names_text {names : List String} (provided : names ≠ [])
    (clean : ∀ name ∈ names, CleanWord name) :
    syscallNames ([','].intercalate (names.map String.toList)) = names := by
  have pieces : ([','].intercalate (names.map String.toList)).splitOn ',' =
      names.map String.toList := by
    apply List.splitOn_intercalate
    · intro piece member
      obtain ⟨name, inside, rfl⟩ := List.mem_map.mp member
      exact (clean name inside).comma
    · simpa using provided
  rw [syscallNames, pieces, List.map_map, List.filterMap_map]
  have kept : ∀ name ∈ names, (if strip name.toList = [] then none
      else some (String.ofList (strip name.toList))) = some name := by
    intro name member
    rw [strip_solid (clean name member).solid, if_neg (clean name member).nonempty,
      String.ofList_toList]
  calc names.filterMap _ = names.filterMap some := List.filterMap_congr kept
    _ = names := List.filterMap_some

/-- What one option of a syscall rule adds to the state. -/
theorem read_item {item : RuleItem} (plain : item.Plain) :
    readToken origin state (strip item.option.text) =
      { state with
        syscalls := state.syscalls ∪ item.names.toFinset
        predicates := state.predicates ++ item.predicates } := by
  have option := item_option_clean plain
  obtain ⟨found, token⟩ := partition_option option
  rw [readToken, token]
  simp only [option.trimmed]
  cases item with
  | filter predicate =>
      have parsed := parse_filter_text plain.1
      simp [RuleItem.option, RuleItem.names, RuleItem.predicates, parsed]
  | syscalls names =>
      have read := syscall_names_text plain.1 fun name member => (plain.2 name member).1
      simp [RuleItem.option, RuleItem.names, RuleItem.predicates, read]
  | key value => simp [RuleItem.option, RuleItem.names, RuleItem.predicates]

theorem read_items {items : List RuleItem} (plain : ∀ item ∈ items, item.Plain) :
    (items.map fun item => strip item.option.text).foldl (readToken origin) state =
      { state with
        syscalls := state.syscalls ∪ (items.flatMap RuleItem.names).toFinset
        predicates := state.predicates ++ items.flatMap RuleItem.predicates } := by
  induction items generalizing state with
  | nil => simp
  | cons item items induction =>
      have rest := fun next : RuleState => @induction next
        fun other member => plain other (List.mem_cons_of_mem _ member)
      rw [List.map_cons, List.foldl_cons, read_item (plain item List.mem_cons_self), rest]
      simp [Finset.union_assoc]

theorem read_key {value : String} (plain : PlainValue value) :
    readToken origin state (strip (LineOption.text ⟨'k', value.toList⟩)) =
      { state with predicates := state.predicates ++ [⟨"key", .eq, value⟩] } := by
  have read := @read_item origin state (.key value) plain
  simpa [RuleItem.names, RuleItem.predicates, RuleItem.option] using read

theorem read_watch_path {value : String} (plain : PlainValue value) :
    readToken origin state (strip (LineOption.text ⟨'w', value.toList⟩)) =
      { state with watchPath := some value } := by
  obtain ⟨found, token⟩ := partition_option (@value_option_clean 'w' value (by decide) plain)
  rw [readToken, token]
  simp [plain.trimmed]

theorem read_watch_perms {value : String} (plain : PlainValue value) :
    readToken origin state (strip (LineOption.text ⟨'p', value.toList⟩)) =
      { state with watchPerms := some value } := by
  obtain ⟨found, token⟩ := partition_option (@value_option_clean 'p' value (by decide) plain)
  rw [readToken, token]
  simp [plain.trimmed]

end Read

section Line

variable {listed : ListedRule}

theorem listed_options_nonempty (listed : ListedRule) : listed.options ≠ [] := by
  cases listed <;> exact List.cons_ne_nil _ _

/-- A printed rule is read back without a diagnostic. -/
theorem parse_listed_rule (plain : listed.Plain) (order : Nat) (origin : Origin) :
    parseRule listed.line (lineTokens listed.line) order origin =
      (some (listed.rule order origin), []) := by
  have tokens := line_tokens listed.options (listed_options_clean plain)
    (listed_options_nonempty listed)
  rw [parseRule, ListedRule.line, tokens]
  cases listed with
  | syscallRule effect scope listFirst items =>
      have itemsRead := fun state : RuleState => @read_items origin state items plain.2
      simp only [ListedRule.options, List.map_cons, List.foldl_cons, List.map_map,
        read_action listFirst plain.1]
      rw [show (fun option => strip option.text) ∘ RuleItem.option =
        fun item => strip item.option.text from rfl, itemsRead]
      simp [closeWatch, closeRule, ListedRule.rule, ListedRule.effect, ListedRule.names,
        ListedRule.scope, ListedRule.predicates, ListedRule.line, ListedRule.options]
  | watch path perms key =>
      obtain ⟨pathPlain, permsPlain, keyPlain⟩ := plain
      simp only [ListedRule.options, List.map_cons, List.foldl_cons, read_watch_path pathPlain,
        read_watch_perms permsPlain]
      cases key with
      | none =>
          simp [closeWatch, closeRule, ListedRule.rule, ListedRule.effect, ListedRule.names,
            ListedRule.scope, ListedRule.predicates, ListedRule.line, ListedRule.options]
      | some value =>
          have keyRead := fun state : RuleState =>
            @read_key origin state value (keyPlain value rfl)
          simp [keyRead, closeWatch, closeRule, ListedRule.rule, ListedRule.effect,
            ListedRule.names, ListedRule.scope, ListedRule.predicates, ListedRule.line,
            ListedRule.options]

theorem listed_line_dash (listed : ListedRule) : '-' ∈ listed.line := by
  obtain ⟨first, rest, options⟩ := List.exists_cons_of_ne_nil (listed_options_nonempty listed)
  rw [ListedRule.line, options]
  cases rest with
  | nil => simp [lineText, LineOption.text]
  | cons next rest => simp [line_text_cons, LineOption.text]

/-- One round of the line loop on a printed rule. -/
theorem read_listed_line (plain : listed.Plain) (sourceId : String) (rules : List Rule)
    (lineNumber : Nat) :
    readRuleLine sourceId (rules, []) (listed.line, lineNumber) =
      (rules ++ [listed.rule (rules.length + 1) (lineOrigin sourceId lineNumber)], []) := by
  have visible := strip_visible (listed_line_dash listed) (by decide)
  rw [readRuleLine, if_neg visible, parse_listed_rule plain]
  rfl

end Line

/-- What `auditctl -l` prints for the loaded rules. -/
def listingText : List ListedRule → String
  | [] => "No rules\n"
  | rules => String.ofList (rules.flatMap fun listed => listed.line ++ ['\n'])

/-- The parsed rules of a listing, in order and numbered from one. -/
def listedRules (sourceId : String) (rules : List ListedRule) : List Rule :=
  (rules.zipIdx 1).map fun numbered => numbered.1.rule numbered.2 (lineOrigin sourceId numbered.2)

section Listing

variable (sourceId : String)

theorem read_listed_lines (rules : List ListedRule) (plain : ∀ listed ∈ rules, listed.Plain)
    (done : List Rule) :
    ((rules.map ListedRule.line).zipIdx (done.length + 1)).foldl (readRuleLine sourceId)
        (done, []) =
      (done ++ (rules.zipIdx (done.length + 1)).map fun numbered =>
        numbered.1.rule numbered.2 (lineOrigin sourceId numbered.2), []) := by
  induction rules generalizing done with
  | nil => simp
  | cons listed rules induction =>
      have step := read_listed_line (plain listed List.mem_cons_self) sourceId done
        (done.length + 1)
      have rest := induction (fun other member => plain other (List.mem_cons_of_mem _ member))
        (done ++ [listed.rule (done.length + 1) (lineOrigin sourceId (done.length + 1))])
      rw [List.length_append, List.length_singleton] at rest
      rw [List.map_cons, List.zipIdx_cons, List.foldl_cons, step, rest]
      simp [List.zipIdx_cons]

theorem splitlines_listing (rules : List ListedRule) (plain : ∀ listed ∈ rules, listed.Plain) :
    splitlines (rules.flatMap fun listed => listed.line ++ ['\n']) =
      rules.map ListedRule.line := by
  induction rules with
  | nil => rfl
  | cons listed rules induction =>
      have whole := line_text_whole (listed_options_clean (plain listed List.mem_cons_self))
      rw [List.flatMap_cons, List.append_assoc, List.singleton_append, ListedRule.line,
        splitlines_line whole,
        induction fun other member => plain other (List.mem_cons_of_mem _ member)]
      rfl

/-- A printed listing with at least one rule is parsed back in full. -/
theorem parse_listing {rules : List ListedRule} (provided : rules ≠ [])
    (plain : ∀ listed ∈ rules, listed.Plain) :
    parseAuditdRules sourceId (listingText rules) =
      { determinacy := .effective, rules := listedRules sourceId rules } := by
  have text : (listingText rules).toList =
      rules.flatMap fun listed => listed.line ++ ['\n'] := by
    cases rules with
    | nil => exact absurd rfl provided
    | cons listed rules => simp only [listingText, String.toList_ofList]
  have read := read_listed_lines sourceId rules plain []
  simp only [List.length_nil, Nat.zero_add, List.nil_append] at read
  rw [parseAuditdRules, text, splitlines_listing rules plain, read]
  rfl

end Listing

end Sigmascope
