import Mathlib.Data.List.Sort
import Mathlib.Data.String.Basic
import Sigmascope.Library.Dict
import Sigmascope.Library.PlaceValue
import Sigmascope.Library.PyText

/-!
JSON without numbers and null. The writer is `json.dumps` of Python with an indentation:
it keeps to ASCII and writes what is above the basic plane as two surrogates. The reader
takes any layout and any spelling of a string. What is written is read back.
-/

namespace Sigmascope.Library

set_option autoImplicit false

open Sigmascope.Library.PyText

inductive Json where
  | bool (value : Bool)
  | string (text : String)
  | array (items : List Json)
  | object (members : List (String × Json))
deriving BEq

namespace Json

inductive Token where
  | openArray
  | closeArray
  | openObject
  | closeObject
  | comma
  | colon
  | bool (value : Bool)
  | string (text : String)

section Writer

/-- `\uXXXX` -/
def unitEscape (code : Nat) : Text := '\\' :: 'u' :: (places 16 4 code).map hexDigit

def highSurrogate (code : Nat) : Nat := 0xd800 + (code - 0x10000) / 0x400

def lowSurrogate (code : Nat) : Nat := 0xdc00 + (code - 0x10000) % 0x400

/-- `ESCAPE_DCT` with the fallback of `py_encode_basestring_ascii`. -/
def escapeChar (char : Char) : Text :=
  if char = '"' then ['\\', '"']
  else if char = '\\' then ['\\', '\\']
  else if char = '\n' then ['\\', 'n']
  else if char = '\r' then ['\\', 'r']
  else if char = '\t' then ['\\', 't']
  else if char = '\x0c' then ['\\', 'f']
  else if char = '\x08' then ['\\', 'b']
  else if ' ' ≤ char ∧ char ≤ '~' then [char]
  else if char.toNat < 0x10000 then unitEscape char.toNat
  else unitEscape (highSurrogate char.toNat) ++ unitEscape (lowSurrogate char.toNat)

def quote (text : Text) : Text := '"' :: text.flatMap escapeChar ++ ['"']

variable (indent : Nat)

def newline (level : Nat) : Text := '\n' :: List.replicate (indent * level) ' '

mutual

/-- A value on a level of the indentation. -/
def dump (level : Nat) : Json → Text
  | .bool true => ['t', 'r', 'u', 'e']
  | .bool false => ['f', 'a', 'l', 's', 'e']
  | .string text => quote text.toList
  | .array [] => ['[', ']']
  | .array (item :: items) =>
      '[' :: newline indent (level + 1) ++ dump (level + 1) item ++ dumpItems level items
  | .object [] => ['\x7b', '\x7d']
  | .object ((key, value) :: members) =>
      '\x7b' :: newline indent (level + 1) ++ quote key.toList ++ [':', ' '] ++
        dump (level + 1) value ++ dumpMembers level members

/-- The items behind the first one, with the closing bracket. -/
def dumpItems (level : Nat) : List Json → Text
  | [] => newline indent level ++ [']']
  | item :: items =>
      ',' :: newline indent (level + 1) ++ dump (level + 1) item ++ dumpItems level items

/-- The members behind the first one, with the closing bracket. -/
def dumpMembers (level : Nat) : List (String × Json) → Text
  | [] => newline indent level ++ ['\x7d']
  | (key, value) :: members =>
      ',' :: newline indent (level + 1) ++ quote key.toList ++ [':', ' '] ++
        dump (level + 1) value ++ dumpMembers level members

end

def keyOrder (first second : String × Json) : Prop := first.1 ≤ second.1

instance : DecidableRel keyOrder := fun first second =>
  inferInstanceAs (Decidable (first.1 ≤ second.1))

mutual

/-- `sort_keys` -/
def sortKeys : Json → Json
  | .bool value => .bool value
  | .string text => .string text
  | .array items => .array (sortItems items)
  | .object members => .object ((sortMembers members).insertionSort keyOrder)

def sortItems : List Json → List Json
  | [] => []
  | item :: items => item.sortKeys :: sortItems items

def sortMembers : List (String × Json) → List (String × Json)
  | [] => []
  | (key, value) :: members => (key, value.sortKeys) :: sortMembers members

end

/-- `json.dumps` with `indent` and `sort_keys`. -/
def dumps (value : Json) : Text := dump indent 0 value.sortKeys

end Writer

section Scanner

def hexDigitValue (char : Char) : Option Nat :=
  if '0' ≤ char ∧ char ≤ '9' then some (char.toNat - '0'.toNat)
  else if 'a' ≤ char ∧ char ≤ 'f' then some (char.toNat - 'a'.toNat + 10)
  else if 'A' ≤ char ∧ char ≤ 'F' then some (char.toNat - 'A'.toNat + 10)
  else none

/-- The characters that stand for another one behind a backslash. -/
def shortEscape : Char → Option Char
  | '"' => some '"'
  | '\\' => some '\\'
  | '/' => some '/'
  | 'n' => some '\n'
  | 'r' => some '\r'
  | 't' => some '\t'
  | 'f' => some '\x0c'
  | 'b' => some '\x08'
  | _ => none

def punctuation : Char → Option Token
  | '[' => some .openArray
  | ']' => some .closeArray
  | '\x7b' => some .openObject
  | '\x7d' => some .closeObject
  | ',' => some .comma
  | ':' => some .colon
  | _ => none

def isLayout (char : Char) : Bool :=
  char == ' ' || char == '\n' || char == '\r' || char == '\t'

/-- Where the scanner is: between two tokens, in a literal, or in a string, perhaps in an
escape, with the first of two surrogates. -/
inductive Scanner where
  | between
  | literal (awaited : Text) (value : Bool)
  | quoted (text : Text)
  | escaped (text : Text) (high : Option Nat)
  | unit (text : Text) (high : Option Nat) (digits : List Nat)
  | half (text : Text) (high : Nat)

def isHigh (code : Nat) : Bool := 0xd800 ≤ code && code < 0xdc00

def isLow (code : Nat) : Bool := 0xdc00 ≤ code && code < 0xe000

/-- The end of a `\uXXXX`. -/
def finishUnit (text : Text) (high : Option Nat) (code : Nat) : Option Scanner :=
  match high with
  | none =>
      if isHigh code then some (.half text code)
      else if isLow code then none
      else some (.quoted (text ++ [Char.ofNat code]))
  | some high =>
      if isLow code then
        some (.quoted
          (text ++ [Char.ofNat (0x10000 + (high - 0xd800) * 0x400 + (code - 0xdc00))]))
      else none

def step (state : Scanner) (char : Char) : Option (Scanner × Option Token) :=
  match state with
  | .between =>
      if char = '"' then some (.quoted [], none)
      else if char = 't' then some (.literal ['r', 'u', 'e'] true, none)
      else if char = 'f' then some (.literal ['a', 'l', 's', 'e'] false, none)
      else if isLayout char then some (.between, none)
      else (punctuation char).map fun token => (.between, some token)
  | .literal awaited value =>
      if awaited.head? ≠ some char then none
      else if awaited.tail = [] then some (.between, some (.bool value))
      else some (.literal awaited.tail value, none)
  | .quoted text =>
      if char = '"' then some (.between, some (.string (String.ofList text)))
      else if char = '\\' then some (.escaped text none, none)
      else if char < ' ' then none
      else some (.quoted (text ++ [char]), none)
  | .escaped text high =>
      if char = 'u' then some (.unit text high [], none)
      else if high = none then
        (shortEscape char).map fun meant => (.quoted (text ++ [meant]), none)
      else none
  | .unit text high digits =>
      match hexDigitValue char with
      | none => none
      | some digit =>
          if digits.length < 3 then some (.unit text high (digits ++ [digit]), none)
          else
            (finishUnit text high (placeValue 16 (digits ++ [digit]))).map fun next =>
              (next, none)
  | .half text high => if char = '\\' then some (.escaped text (some high), none) else none

def scan : Scanner → Text → Option (List Token)
  | .between, [] => some []
  | _, [] => none
  | state, char :: rest =>
      match step state char with
      | none => none
      | some (next, token) => (scan next rest).map (token.toList ++ ·)

end Scanner

section Reader

mutual

def readValue : Nat → List Token → Option (Json × List Token)
  | _ + 1, .bool value :: rest => some (.bool value, rest)
  | _ + 1, .string text :: rest => some (.string text, rest)
  | _ + 1, .openArray :: .closeArray :: rest => some (.array [], rest)
  | fuel + 1, .openArray :: rest =>
      (readItems fuel rest).map fun (items, rest) => (.array items, rest)
  | _ + 1, .openObject :: .closeObject :: rest => some (.object [], rest)
  | fuel + 1, .openObject :: rest =>
      (readMembers fuel rest).map fun (members, rest) => (.object members, rest)
  | _, _ => none

/-- The items of an array up to its closing bracket. -/
def readItems : Nat → List Token → Option (List Json × List Token)
  | 0, _ => none
  | fuel + 1, tokens =>
      match readValue fuel tokens with
      | some (item, .closeArray :: rest) => some ([item], rest)
      | some (item, .comma :: rest) =>
          (readItems fuel rest).map fun (items, rest) => (item :: items, rest)
      | _ => none

/-- The members of an object up to its closing bracket. -/
def readMembers : Nat → List Token → Option (List (String × Json) × List Token)
  | fuel + 1, .string key :: .colon :: tokens =>
      match readValue fuel tokens with
      | some (value, .closeObject :: rest) => some ([(key, value)], rest)
      | some (value, .comma :: rest) =>
          (readMembers fuel rest).map fun (members, rest) => ((key, value) :: members, rest)
      | _ => none
  | _, _ => none

end

/-- The only value of a text. -/
def read (text : Text) : Option Json :=
  match scan .between text with
  | none => none
  | some tokens =>
      match readValue tokens.length tokens with
      | some (value, []) => some value
      | _ => none

end Reader

section ScanBack

variable {state : Scanner} (next : Scanner) {char : Char} {rest : Text}

theorem scan_silent (stepped : step state char = some (next, none)) :
    scan state (char :: rest) = scan next rest := by
  rw [scan, stepped]
  change (scan next rest).map (fun tokens => tokens) = _
  exact Option.map_id'

theorem scan_token {next : Scanner} {token : Token}
    (stepped : step state char = some (next, some token)) :
    scan state (char :: rest) = (scan next rest).map (token :: ·) := by
  rw [scan, stepped]
  rfl

theorem hex_digit_read (digit : Nat) (small : digit < 16) :
    hexDigitValue (hexDigit digit) = some digit := by
  have all : ∀ digit : Fin 16, hexDigitValue (hexDigit digit) = some digit.val := by decide
  exact all ⟨digit, small⟩

theorem scan_unit_digit {text : Text} {high : Option Nat} {digits : List Nat} {digit : Nat}
    (small : digit < 16) (early : digits.length < 3) :
    scan (.unit text high digits) (hexDigit digit :: rest) =
      scan (.unit text high (digits ++ [digit])) rest := by
  apply scan_silent
  simp only [step, hex_digit_read digit small, if_pos early]

theorem places_four (code : Nat) :
    ∃ one two three four, places 16 4 code = [one, two, three, four] := by
  have length : (places 16 4 code).length = 4 := length_places 4 code
  match places 16 4 code, length with
  | [one, two, three, four], _ => exact ⟨one, two, three, four, rfl⟩

/-- An escape is read as the number that was written. -/
theorem scan_unit_escape {text : Text} {high : Option Nat} {code : Nat} (small : code < 0x10000)
    (begun : step state '\\' = some (.escaped text high, none))
    (finished : finishUnit text high code = some next) :
    scan state (unitEscape code ++ rest) = scan next rest := by
  obtain ⟨one, two, three, four, digits⟩ := places_four code
  have value : placeValue 16 [one, two, three, four] = code := by
    rw [← digits, place_value_places]
    exact Nat.mod_eq_of_lt small
  have digit : ∀ place ∈ [one, two, three, four], place < 16 := by
    intro place member
    rw [← digits] at member
    exact places_lt (by decide) member
  have fourth : step (.unit text high [one, two, three]) (hexDigit four) = some (next, none) := by
    have held : [one, two, three] ++ [four] = [one, two, three, four] := rfl
    have last : ¬[one, two, three].length < 3 := by simp
    simp only [step, hex_digit_read four (digit four (by simp)), if_neg last, held, value,
      finished, Option.map_some]
  rw [unitEscape, digits]
  simp only [List.map_cons, List.map_nil, List.cons_append, List.nil_append]
  rw [scan_silent _ begun, scan_silent (.unit text high []) (by simp [step]),
    scan_unit_digit (digit one (by simp)) (by simp),
    scan_unit_digit (digit two (by simp)) (by simp),
    scan_unit_digit (digit three (by simp)) (by simp)]
  exact scan_silent next fourth

theorem quoted_backslash (text : Text) :
    step (.quoted text) '\\' = some (.escaped text none, none) := by simp [step]

theorem half_backslash (text : Text) (high : Nat) :
    step (.half text high) '\\' = some (.escaped text (some high), none) := by simp [step]

/-- A character is no surrogate. -/
theorem char_not_surrogate (char : Char) :
    isHigh char.toNat = false ∧ isLow char.toNat = false := by
  have valid := char.valid
  simp only [isHigh, isLow, Bool.and_eq_false_iff, decide_eq_false_iff_not]
  rcases valid with low | ⟨high, _⟩
  · have : char.toNat < 0xd800 := low
    omega
  · have : 0xdfff < char.toNat := high
    omega

theorem scan_surrogates (text : Text) (large : ¬char.toNat < 0x10000) :
    scan (.quoted text)
        (unitEscape (highSurrogate char.toNat) ++ (unitEscape (lowSurrogate char.toNat) ++ rest)) =
      scan (.quoted (text ++ [char])) rest := by
  have bound : char.toNat < 0x110000 := by
    rcases char.valid with low | ⟨_, high⟩
    · have : char.toNat < 0xd800 := low
      omega
    · exact high
  have high : isHigh (highSurrogate char.toNat) = true := by
    rw [isHigh, Bool.and_eq_true, decide_eq_true_iff, decide_eq_true_iff, highSurrogate]
    omega
  have low : isLow (lowSurrogate char.toNat) = true := by
    rw [isLow, Bool.and_eq_true, decide_eq_true_iff, decide_eq_true_iff, lowSurrogate]
    omega
  have together : 0x10000 + (highSurrogate char.toNat - 0xd800) * 0x400 +
      (lowSurrogate char.toNat - 0xdc00) = char.toNat := by
    simp only [highSurrogate, lowSurrogate]
    omega
  rw [scan_unit_escape (.half text (highSurrogate char.toNat)) _ (quoted_backslash text)]
  · apply scan_unit_escape _ _ (half_backslash text _)
    · simp only [finishUnit, if_pos low, together, Char.ofNat_toNat]
    · simp only [lowSurrogate]
      omega
  · simp only [finishUnit, if_pos high]
  · simp only [highSurrogate]
    omega

/-- Every character is read as itself. -/
theorem scan_escape_char (text : Text) (char : Char) (rest : Text) :
    scan (.quoted text) (escapeChar char ++ rest) = scan (.quoted (text ++ [char])) rest := by
  have short : ∀ letter, letter ≠ 'u' → shortEscape letter = some char →
      scan (.quoted text) ('\\' :: letter :: rest) = scan (.quoted (text ++ [char])) rest := by
    intro letter plain meant
    rw [scan_silent _ (quoted_backslash text)]
    apply scan_silent
    simp only [step, if_neg plain, if_true, meant, Option.map_some]
  unfold escapeChar
  split
  · rename_i same
    subst same
    exact short '"' (by decide) rfl
  rename_i notQuote
  split
  · rename_i same
    subst same
    exact short '\\' (by decide) rfl
  rename_i notBackslash
  split
  · rename_i same
    subst same
    exact short 'n' (by decide) rfl
  split
  · rename_i same
    subst same
    exact short 'r' (by decide) rfl
  split
  · rename_i same
    subst same
    exact short 't' (by decide) rfl
  split
  · rename_i same
    subst same
    exact short 'f' (by decide) rfl
  split
  · rename_i same
    subst same
    exact short 'b' (by decide) rfl
  split
  · rename_i printable
    apply scan_silent
    simp only [step, if_neg notQuote, if_neg notBackslash, if_neg (not_lt.mpr printable.1)]
  split
  · rename_i basic
    apply scan_unit_escape _ basic (quoted_backslash text)
    obtain ⟨notHigh, notLow⟩ := char_not_surrogate char
    simp [finishUnit, notHigh, notLow]
  · rename_i large
    rw [List.append_assoc]
    exact scan_surrogates text large

theorem scan_quoted (before text rest : Text) :
    scan (.quoted before) (text.flatMap escapeChar ++ '"' :: rest) =
      (scan .between rest).map (.string (String.ofList (before ++ text)) :: ·) := by
  induction text generalizing before with
  | nil =>
      rw [List.append_nil]
      exact scan_token (by simp [step])
  | cons char text induction =>
      rw [List.flatMap_cons, List.append_assoc, scan_escape_char, induction, List.append_assoc]
      rfl

theorem scan_quote (text rest : Text) :
    scan .between (quote text ++ rest) =
      (scan .between rest).map (.string (String.ofList text) :: ·) := by
  have opened : step .between '"' = some (.quoted [], none) := by simp [step]
  change scan .between ('"' :: (text.flatMap escapeChar ++ ['"'] ++ rest)) = _
  rw [scan_silent _ opened, List.append_assoc]
  exact scan_quoted [] text rest

theorem scan_layout {layout : Text} (blank : ∀ char ∈ layout, isLayout char = true)
    (rest : Text) : scan .between (layout ++ rest) = scan .between rest := by
  induction layout with
  | nil => rfl
  | cons char layout induction =>
      have first := blank char List.mem_cons_self
      rw [List.cons_append, scan_silent .between, induction]
      · intro other member
        exact blank other (List.mem_cons_of_mem _ member)
      · have notQuote : char ≠ '"' := by
          rintro rfl
          revert first
          decide
        have notTrue : char ≠ 't' := by
          rintro rfl
          revert first
          decide
        have notFalse : char ≠ 'f' := by
          rintro rfl
          revert first
          decide
        simp only [step, if_neg notQuote, if_neg notTrue, if_neg notFalse, if_pos first]

theorem newline_layout (indent level : Nat) :
    ∀ char ∈ newline indent level, isLayout char = true := by
  intro char member
  rcases List.mem_cons.mp member with rfl | space
  · rfl
  · rw [(List.mem_replicate.mp space).2]
    rfl

end ScanBack

section Structure

/-- Induction over a value, with every item and every member at once. -/
@[elab_as_elim]
theorem by_parts {motive : Json → Prop} (bool : ∀ value, motive (.bool value))
    (string : ∀ text, motive (.string text))
    (array : ∀ items, (∀ item ∈ items, motive item) → motive (.array items))
    (object : ∀ members, (∀ member ∈ members, motive member.2) → motive (.object members))
    (value : Json) : motive value := by
  refine @Json.rec motive (fun items => ∀ item ∈ items, motive item)
    (fun members => ∀ member ∈ members, motive member.2) (fun member => motive member.2)
    bool string array object ?_ ?_ ?_ ?_ ?_ value
  · intro item none
    cases none
  · intro item items first rest other member
    rcases List.mem_cons.mp member with rfl | later
    · exact first
    · exact rest other later
  · intro member none
    cases none
  · intro head members first rest other member
    rcases List.mem_cons.mp member with rfl | later
    · exact first
    · exact rest other later
  · intro key value held
    exact held

mutual

/-- The tokens of a value in the order of its members. -/
def tokens : Json → List Token
  | .bool value => [.bool value]
  | .string text => [.string text]
  | .array [] => [.openArray, .closeArray]
  | .array (item :: items) => .openArray :: item.tokens ++ itemTokens items
  | .object [] => [.openObject, .closeObject]
  | .object ((key, value) :: members) =>
      .openObject :: .string key :: .colon :: value.tokens ++ memberTokens members

def itemTokens : List Json → List Token
  | [] => [.closeArray]
  | item :: items => .comma :: item.tokens ++ itemTokens items

def memberTokens : List (String × Json) → List Token
  | [] => [.closeObject]
  | (key, value) :: members =>
      .comma :: .string key :: .colon :: value.tokens ++ memberTokens members

end

/-- The text has the tokens, whatever follows it. -/
def ScansAs (text : Text) (tokens : List Token) : Prop :=
  ∀ rest, scan .between (text ++ rest) = (scan .between rest).map (tokens ++ ·)

theorem scans_as_append {first second : Text} {front back : List Token}
    (scansFirst : ScansAs first front) (scansSecond : ScansAs second back) :
    ScansAs (first ++ second) (front ++ back) := by
  intro rest
  rw [List.append_assoc, scansFirst, scansSecond, Option.map_map]
  apply congrArg (Option.map · (scan .between rest))
  funext tokens
  exact (List.append_assoc front back tokens).symm

theorem scans_as_layout {layout : Text} (blank : ∀ char ∈ layout, isLayout char = true) :
    ScansAs layout [] := by
  intro rest
  rw [scan_layout blank rest]
  exact Option.map_id'.symm

theorem scans_as_quote (text : String) : ScansAs (quote text.toList) [.string text] := by
  intro rest
  rw [scan_quote, String.ofList_toList]
  rfl

theorem scans_as_single {char : Char} {token : Token} (punctuated : punctuation char = some token)
    (plain : char ≠ '"' ∧ char ≠ 't' ∧ char ≠ 'f' ∧ isLayout char = false) :
    ScansAs [char] [token] := by
  intro rest
  apply scan_token
  simp [step, plain, punctuated]

variable (indent level : Nat)

theorem scans_as_newline : ScansAs (newline indent level) [] :=
  scans_as_layout (newline_layout indent level)

theorem scans_as_colon : ScansAs [':', ' '] [.colon] :=
  scans_as_append (scans_as_single rfl (by decide))
    (scans_as_layout (List.forall_mem_singleton.mpr (by decide)))

theorem scans_as_bool (value : Bool) : ScansAs (dump indent level (.bool value)) [.bool value] := by
  intro rest
  cases value <;> simp [dump, scan, step, Function.comp_def]

/-- The value has its tokens on every level. -/
def Scans (value : Json) : Prop := ∀ level, ScansAs (dump indent level value) value.tokens

variable {indent}

theorem scans_as_items {items : List Json} (scans : ∀ item ∈ items, Scans indent item) :
    ScansAs (dumpItems indent level items) (itemTokens items) := by
  induction items with
  | nil =>
      exact scans_as_append (scans_as_newline indent level) (scans_as_single rfl (by decide))
  | cons item items induction =>
      have first := scans item List.mem_cons_self (level + 1)
      have rest := induction fun other member => scans other (List.mem_cons_of_mem _ member)
      have comma : ScansAs [','] [.comma] := scans_as_single rfl (by decide)
      have opened := scans_as_append comma (scans_as_newline indent (level + 1))
      exact scans_as_append (scans_as_append opened first) rest

/-- A key with its value. -/
theorem scans_as_member (key : String) {value : Json} (scans : Scans indent value) :
    ScansAs (newline indent (level + 1) ++ quote key.toList ++ [':', ' '] ++
      dump indent (level + 1) value) (.string key :: .colon :: value.tokens) := by
  have named := scans_as_append (scans_as_newline indent (level + 1)) (scans_as_quote key)
  exact scans_as_append (scans_as_append named scans_as_colon) (scans (level + 1))

theorem scans_as_members {members : List (String × Json)}
    (scans : ∀ member ∈ members, Scans indent member.2) :
    ScansAs (dumpMembers indent level members) (memberTokens members) := by
  induction members with
  | nil =>
      exact scans_as_append (scans_as_newline indent level) (scans_as_single rfl (by decide))
  | cons member members induction =>
      obtain ⟨key, value⟩ := member
      have first := scans_as_member level key (scans (key, value) List.mem_cons_self)
      have rest := induction fun other later => scans other (List.mem_cons_of_mem _ later)
      have comma : ScansAs [','] [.comma] := scans_as_single rfl (by decide)
      have whole := scans_as_append (scans_as_append comma first) rest
      simpa only [dumpMembers, memberTokens, List.cons_append, List.nil_append, List.append_assoc]
        using whole

/-- What is written has the tokens of the value. -/
theorem scans_dump (value : Json) : Scans indent value := by
  induction value using by_parts with
  | bool value => exact fun level => scans_as_bool indent level value
  | string text => exact fun level => scans_as_quote text
  | array items held =>
      intro level
      have opening : ScansAs ['['] [.openArray] := scans_as_single rfl (by decide)
      cases items with
      | nil => exact scans_as_append opening (scans_as_single rfl (by decide))
      | cons item items =>
          have first := held item List.mem_cons_self (level + 1)
          have rest := scans_as_items level fun other member =>
            held other (List.mem_cons_of_mem _ member)
          have opened := scans_as_append opening (scans_as_newline indent (level + 1))
          exact scans_as_append (scans_as_append opened first) rest
  | object members held =>
      intro level
      have opening : ScansAs ['\x7b'] [.openObject] := scans_as_single rfl (by decide)
      rcases members with _ | ⟨⟨key, value⟩, members⟩
      · exact scans_as_append opening (scans_as_single rfl (by decide))
      · have first := scans_as_member level key (held (key, value) List.mem_cons_self)
        have rest := scans_as_members level fun other member =>
          held other (List.mem_cons_of_mem _ member)
        have whole := scans_as_append (scans_as_append opening first) rest
        simpa only [dump, tokens, List.cons_append, List.nil_append, List.append_assoc]
          using whole

end Structure

section ReadBack

/-- The value is read from its tokens when there is fuel for them. -/
def ReadsBack (value : Json) : Prop :=
  ∀ fuel rest, value.tokens.length ≤ fuel →
    readValue fuel (value.tokens ++ rest) = some (value, rest)

theorem tokens_length (value : Json) : 0 < value.tokens.length := by
  cases value with
  | bool value => simp [tokens]
  | string text => simp [tokens]
  | array items => cases items <;> simp [tokens]
  | object members => rcases members with _ | ⟨⟨key, value⟩, members⟩ <;> simp [tokens]

theorem read_items_back {item : Json} {items : List Json} (first : ReadsBack item)
    (others : ∀ other ∈ items, ReadsBack other) (fuel : Nat) (rest : List Token)
    (enough : (item.tokens ++ itemTokens items).length ≤ fuel) :
    readItems fuel (item.tokens ++ itemTokens items ++ rest) = some (item :: items, rest) := by
  induction items generalizing item fuel with
  | nil =>
      cases fuel with
      | zero => simp [itemTokens] at enough
      | succ fuel =>
          have read := first fuel (.closeArray :: rest) (by simpa [itemTokens] using enough)
          rw [List.append_assoc, readItems]
          simp only [itemTokens, List.cons_append, List.nil_append, read]
  | cons next items induction =>
      cases fuel with
      | zero => simp [itemTokens] at enough
      | succ fuel =>
          have filled := tokens_length item
          simp only [itemTokens, List.length_append, List.length_cons] at enough
          have read := first fuel (itemTokens (next :: items) ++ rest) (by omega)
          have more := induction (others next List.mem_cons_self)
            (fun other member => others other (List.mem_cons_of_mem _ member)) fuel
            (by simp only [List.length_append]; omega)
          rw [List.append_assoc, readItems, read]
          simp only [itemTokens, List.cons_append]
          rw [more]
          rfl

theorem read_members_back {key : String} {value : Json} {members : List (String × Json)}
    (first : ReadsBack value) (others : ∀ member ∈ members, ReadsBack member.2) (fuel : Nat)
    (rest : List Token)
    (enough : (.string key :: .colon :: value.tokens ++ memberTokens members).length ≤ fuel) :
    readMembers fuel (.string key :: .colon :: value.tokens ++ memberTokens members ++ rest) =
      some ((key, value) :: members, rest) := by
  induction members generalizing key value fuel with
  | nil =>
      cases fuel with
      | zero => simp at enough
      | succ fuel =>
          have read := first fuel (.closeObject :: rest) (by simp [memberTokens] at enough; omega)
          simp only [memberTokens, List.cons_append, List.append_assoc, List.nil_append,
            readMembers]
          rw [read]
  | cons next members induction =>
      obtain ⟨nextKey, nextValue⟩ := next
      cases fuel with
      | zero => simp at enough
      | succ fuel =>
          simp only [memberTokens, List.length_append, List.length_cons] at enough
          have read := first fuel (memberTokens ((nextKey, nextValue) :: members) ++ rest)
            (by omega)
          have more := @induction nextKey nextValue (others _ List.mem_cons_self)
            (fun other member => others other (List.mem_cons_of_mem _ member)) fuel
            (by simp only [List.length_append, List.length_cons]; omega)
          simp only [List.cons_append, List.append_assoc, readMembers]
          rw [read]
          simp only [memberTokens, List.cons_append] at more ⊢
          rw [more]
          rfl

/-- No value begins with the closing bracket of an array. -/
theorem tokens_head (value : Json) (more rest : List Token) :
    value.tokens ++ more ≠ .closeArray :: rest := by
  intro closed
  cases value with
  | bool value => cases closed
  | string text => cases closed
  | array items => cases items <;> cases closed
  | object members => rcases members with _ | ⟨⟨key, value⟩, members⟩ <;> cases closed

theorem reads_back (value : Json) : ReadsBack value := by
  induction value using by_parts with
  | bool value =>
      intro fuel rest enough
      cases fuel with
      | zero => simp [tokens] at enough
      | succ fuel => simp [tokens, readValue]
  | string text =>
      intro fuel rest enough
      cases fuel with
      | zero => simp [tokens] at enough
      | succ fuel => simp [tokens, readValue]
  | array items held =>
      intro fuel rest enough
      cases fuel with
      | zero => exact absurd (tokens_length (.array items)) (not_lt.mpr enough)
      | succ fuel =>
          cases items with
          | nil => simp [tokens, readValue]
          | cons item items =>
              have read := read_items_back (held item List.mem_cons_self)
                (fun other member => held other (List.mem_cons_of_mem _ member)) fuel rest
                (by simpa [tokens] using enough)
              rw [tokens, List.cons_append, List.cons_append, readValue, read]
              · rfl
              · intro other
                rw [List.append_assoc]
                exact tokens_head item _ other
  | object members held =>
      intro fuel rest enough
      cases fuel with
      | zero => exact absurd (tokens_length (.object members)) (not_lt.mpr enough)
      | succ fuel =>
          rcases members with _ | ⟨⟨key, value⟩, members⟩
          · simp [tokens, readValue]
          · have read := @read_members_back key value members (held _ List.mem_cons_self)
              (fun other member => held other (List.mem_cons_of_mem _ member)) fuel rest
              (by simpa [tokens] using enough)
            rw [tokens]
            simp only [List.cons_append] at read ⊢
            rw [readValue, read]
            · rfl
            · intro other closed
              cases closed

/-- What is written is read back, whatever layout is behind it. -/
theorem read_dump (indent : Nat) (value : Json) {layout : Text}
    (blank : ∀ char ∈ layout, isLayout char = true) :
    read (dump indent 0 value ++ layout) = some value := by
  have back := reads_back value value.tokens.length [] le_rfl
  rw [List.append_nil] at back
  have empty : scan .between layout = some [] := by
    rw [← List.append_nil layout, scan_layout blank]
    rfl
  rw [read, scans_dump value 0 layout, empty]
  simp only [Option.map_some, List.append_nil, back]

end ReadBack

section Fields

def members : Json → List (String × Json)
  | .object members => members
  | _ => []

def field (value : Json) (name : String) : Option Json := value.members.lookup name

def items : Json → Option (List Json)
  | .array items => some items
  | _ => none

def text : Json → Option String
  | .string text => some text
  | _ => none

def truth : Json → Option Bool
  | .bool value => some value
  | _ => none

def textField (value : Json) (name : String) : Option String := (value.field name).bind text

def listField {Value : Type} (value : Json) (name : String) (readItem : Json → Option Value) :
    Option (List Value) :=
  ((value.field name).bind items).bind fun items => items.mapM readItem

theorem sort_items_map (items : List Json) : sortItems items = items.map sortKeys := by
  induction items with
  | nil => rfl
  | cons item items induction => rw [sortItems, induction, List.map_cons]

theorem sort_members_map (members : List (String × Json)) :
    sortMembers members = members.map fun member => (member.1, member.2.sortKeys) := by
  induction members with
  | nil => rfl
  | cons member members induction => rw [sortMembers, induction, List.map_cons]

theorem sort_members_keys (members : List (String × Json)) :
    (sortMembers members).map Prod.fst = members.map Prod.fst := by
  rw [sort_members_map, List.map_map]
  rfl

theorem sorted_members_perm (members : List (String × Json)) :
    (Json.object members).sortKeys.members.Perm (sortMembers members) := by
  rw [sortKeys]
  exact List.perm_insertionSort keyOrder _

theorem sort_members_lookup (members : List (String × Json)) (name : String) :
    (sortMembers members).lookup name = (members.lookup name).map sortKeys := by
  induction members with
  | nil => rfl
  | cons member members induction =>
      obtain ⟨key, value⟩ := member
      rw [sortMembers, List.lookup_cons, List.lookup_cons, induction]
      split <;> rfl

/-- The order of the members does not matter to who asks for one. -/
theorem sorted_field {members : List (String × Json)}
    (distinct : (members.map Prod.fst).Nodup) (name : String) :
    (Json.object members).sortKeys.field name =
      ((Json.object members).field name).map sortKeys := by
  have unique : ((Json.object members).sortKeys.members.map Prod.fst).Nodup := by
    rw [((sorted_members_perm members).map Prod.fst).nodup_iff, sort_members_keys]
    exact distinct
  rw [field, Dict.lookup_perm (sorted_members_perm members) unique, sort_members_lookup]
  rfl

theorem text_field_sorted {members : List (String × Json)} {name text : String}
    (distinct : (members.map Prod.fst).Nodup)
    (present : members.lookup name = some (.string text)) :
    (Json.object members).sortKeys.textField name = some text := by
  rw [textField, sorted_field distinct, field, Json.members, present]
  rfl

theorem map_m_back {Value Item : Type} {write : Value → Item} {readItem : Item → Option Value}
    {values : List Value} (back : ∀ value ∈ values, readItem (write value) = some value) :
    (values.map write).mapM readItem = some values := by
  induction values with
  | nil => rfl
  | cons value values induction =>
      have rest := induction fun other member => back other (List.mem_cons_of_mem _ member)
      rw [List.map_cons, List.mapM_cons, back value List.mem_cons_self, rest]
      rfl

theorem list_field_sorted {Value : Type} {members : List (String × Json)} {name : String}
    {values : List Value} {write : Value → Json} {readItem : Json → Option Value}
    (distinct : (members.map Prod.fst).Nodup)
    (present : members.lookup name = some (.array (values.map write)))
    (back : ∀ value ∈ values, readItem (write value).sortKeys = some value) :
    (Json.object members).sortKeys.listField name readItem = some values := by
  rw [listField, sorted_field distinct, field, Json.members, present]
  change ((Json.array (values.map write)).sortKeys.items.bind fun items => items.mapM readItem) = _
  rw [sortKeys, sort_items_map, List.map_map]
  exact map_m_back back

/-- Members in order stay where they are. -/
theorem sorted_members_stay {members : List (String × Json)}
    (ordered : members.Pairwise keyOrder) :
    (Json.object members).sortKeys.members =
      members.map fun member => (member.1, member.2.sortKeys) := by
  rw [sortKeys, sort_members_map]
  apply List.Pairwise.insertionSort_eq
  exact List.Pairwise.map _ (fun _ _ before => before) ordered

end Fields

end Json

end Sigmascope.Library
