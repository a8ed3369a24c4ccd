import Mathlib.Data.List.DropRight
import Mathlib.Data.List.Infix
import Sigmascope.Library.Unicode

/-!
Python `str` operations on a list of characters. Each definition follows the
documented behaviour of the built-in method it is named after, with the white
space, line boundaries, digits, case mappings and printable characters of Unicode.
-/

namespace Sigmascope.Library.PyText

set_option autoImplicit false

abbrev Text := List Char

/-- White space of `str.isspace`. The pattern `\s` of a `str` regular expression
accepts the same characters. -/
def isSpace (char : Char) : Bool :=
  let code := char.toNat
  (0x09 ≤ code && code ≤ 0x0d) || (0x1c ≤ code && code ≤ 0x20) ||
    code == 0x85 || code == 0xa0 || code == 0x1680 ||
    (0x2000 ≤ code && code ≤ 0x200a) || code == 0x2028 || code == 0x2029 ||
    code == 0x202f || code == 0x205f || code == 0x3000

/-- The line boundaries that `str.splitlines` recognises. -/
def isLineBreak (char : Char) : Bool :=
  let code := char.toNat
  (0x0a ≤ code && code ≤ 0x0d) || (0x1c ≤ code && code ≤ 0x1e) ||
    code == 0x85 || code == 0x2028 || code == 0x2029

/-- First code points of the runs of ten decimal digits. -/
def decimalZeros : List Nat :=
  [0x30, 0x660, 0x6f0, 0x7c0, 0x966, 0x9e6, 0xa66, 0xae6, 0xb66, 0xbe6, 0xc66,
    0xce6, 0xd66, 0xde6, 0xe50, 0xed0, 0xf20, 0x1040, 0x1090, 0x17e0, 0x1810,
    0x1946, 0x19d0, 0x1a80, 0x1a90, 0x1b50, 0x1bb0, 0x1c40, 0x1c50, 0xa620,
    0xa8d0, 0xa900, 0xa9d0, 0xa9f0, 0xaa50, 0xabf0, 0xff10, 0x104a0, 0x10d30,
    0x11066, 0x110f0, 0x11136, 0x111d0, 0x112f0, 0x11450, 0x114d0, 0x11650,
    0x116c0, 0x11730, 0x118e0, 0x11950, 0x11c50, 0x11d50, 0x11da0, 0x16a60,
    0x16ac0, 0x16b50, 0x1d7ce, 0x1d7d8, 0x1d7e2, 0x1d7ec, 0x1d7f6, 0x1e140,
    0x1e2f0, 0x1e950, 0x1fbf0]

/-- Runs of characters that are digits without being decimal, such as superscripts. -/
def otherDigits : List (Nat × Nat) :=
  [(0xb2, 0xb3), (0xb9, 0xb9), (0x1369, 0x1371), (0x19da, 0x19da),
    (0x2070, 0x2070), (0x2074, 0x2079), (0x2080, 0x2089), (0x2460, 0x2468),
    (0x2474, 0x247c), (0x2488, 0x2490), (0x24ea, 0x24ea), (0x24f5, 0x24fd),
    (0x24ff, 0x24ff), (0x2776, 0x277e), (0x2780, 0x2788), (0x278a, 0x2792),
    (0x10a40, 0x10a43), (0x10e60, 0x10e68), (0x11052, 0x1105a), (0x1f100, 0x1f10a)]

/-- The value of a decimal digit of any script. -/
def decimalValue (char : Char) : Option Nat :=
  (decimalZeros.find? fun first => first ≤ char.toNat && char.toNat < first + 10).map
    fun first => char.toNat - first

def isDigitChar (char : Char) : Bool :=
  (decimalValue char).isSome ||
    otherDigits.any fun run => run.1 ≤ char.toNat && char.toNat ≤ run.2

/-- `str.isdigit`: every character is a digit, and there is one. -/
def isDigit (text : String) : Bool :=
  !text.toList.isEmpty && text.toList.all isDigitChar

/-- A text of which no character has a property, found by evaluation. -/
theorem none_of_all {property : Char → Bool} {text : Text}
    (checked : text.all (fun char => !property char) = true) :
    ∀ char ∈ text, property char = false := by
  intro char member
  simpa using List.all_eq_true.mp checked char member

def isAsciiLetter (char : Char) : Bool :=
  ('a' ≤ char && char ≤ 'z') || ('A' ≤ char && char ≤ 'Z')

def isAsciiDigit (char : Char) : Bool := '0' ≤ char && char ≤ '9'

theorem code_le {left right : Char} : left ≤ right ↔ left.toNat ≤ right.toNat := Iff.rfl

/-- No white space has a code between those of the space and of the delete character. -/
theorem solid_of_code {char : Char} (above : 0x20 < char.toNat) (below : char.toNat < 0x80) :
    isSpace char = false := by
  simp only [isSpace, Bool.or_eq_false_iff, Bool.and_eq_false_iff, decide_eq_false_iff_not,
    beq_eq_false_iff_ne]
  omega

/-- Every line boundary is white space. -/
theorem line_break_space {char : Char} (solid : isSpace char = false) :
    isLineBreak char = false := by
  simp only [isSpace, isLineBreak, Bool.or_eq_false_iff, Bool.and_eq_false_iff,
    decide_eq_false_iff_not, beq_eq_false_iff_ne] at solid ⊢
  omega

theorem ascii_letter_solid {char : Char} (letter : isAsciiLetter char = true) :
    isSpace char = false := by
  simp only [isAsciiLetter, Bool.or_eq_true, Bool.and_eq_true, decide_eq_true_eq, code_le] at letter
  have codes : 'a'.toNat = 97 ∧ 'z'.toNat = 122 ∧ 'A'.toNat = 65 ∧ 'Z'.toNat = 90 := by decide
  apply solid_of_code <;> omega

/-- The lower case of a character that has the same one everywhere. -/
def lowerChar (char : Char) : Text :=
  if char.toNat < 0x80 then [char.toLower]
  else if char = '\u0130' then ['i', '\u0307']
  else [Unicode.moveIn Unicode.lowerRanges char]

/-- The first character that is not ignored for the case is a cased one. -/
def meetsCased (text : Text) : Bool :=
  (text.dropWhile (Unicode.isIn Unicode.ignorableRanges)).head?.any
    (Unicode.isIn Unicode.casedRanges)

/-- `str.lower` behind a text that is given in reverse: the capital sigma becomes a final one
at the end of a word. -/
def lowerFrom (front : Text) : Text → Text
  | [] => []
  | char :: back =>
      (if char = '\u03a3' then
        if meetsCased front && !meetsCased back then ['\u03c2'] else ['\u03c3']
      else lowerChar char) ++ lowerFrom (char :: front) back

def lower (text : Text) : Text := lowerFrom [] text

section Lowering

theorem lower_char_ascii {char : Char} (ascii : char.toNat < 0x80) :
    lowerChar char = [char.toLower] := if_pos ascii

/-- What is in lower case behind text of ASCII. -/
theorem lower_from_ascii {text : Text} (ascii : ∀ char ∈ text, char.toNat < 0x80)
    (front back : Text) :
    lowerFrom front (text ++ back) =
      text.map Char.toLower ++ lowerFrom (text.reverse ++ front) back := by
  induction text generalizing front with
  | nil => rfl
  | cons char text induction =>
      have low := ascii char List.mem_cons_self
      have other : char ≠ '\u03a3' := by
        rintro rfl
        exact absurd low (by decide)
      rw [List.cons_append, lowerFrom, if_neg other, lower_char_ascii low,
        induction (fun other member => ascii other (List.mem_cons_of_mem _ member))]
      simp

theorem lower_ascii {text : Text} (ascii : ∀ char ∈ text, char.toNat < 0x80) :
    lower text = text.map Char.toLower := by
  have whole := lower_from_ascii ascii [] []
  simpa [lower, lowerFrom] using whole

theorem mem_lower {char : Char} {text : Text} (ascii : char.toNat < 0x80) (member : char ∈ text) :
    char.toLower ∈ lower text := by
  have found : ∀ front, char.toLower ∈ lowerFrom front text := by
    induction text with
    | nil => cases member
    | cons first text induction =>
        intro front
        rw [lowerFrom, List.mem_append]
        rcases List.mem_cons.mp member with rfl | later
        · have other : char ≠ '\u03a3' := by
            rintro rfl
            exact absurd ascii (by decide)
          left
          rw [if_neg other, lower_char_ascii ascii]
          exact List.mem_cons_self
        · exact Or.inr (induction later _)
  exact found []

end Lowering

/-- Only a letter becomes another character in lower case. -/
theorem lower_sign {char sign : Char} (plain : isAsciiLetter sign = false)
    (lowered : char.toLower = sign) : char = sign := by
  subst lowered
  unfold Char.toLower at plain ⊢
  split
  · rename_i upper
    rw [dif_pos upper] at plain
    have low := UInt32.le_iff_toNat_le.mp upper.1
    have high := UInt32.le_iff_toNat_le.mp upper.2
    simp only [isAsciiLetter, Bool.or_eq_false_iff, Bool.and_eq_false_iff,
      decide_eq_false_iff_not, code_le] at plain
    simp at plain low high
    omega
  · rfl

theorem to_lower_solid (char : Char) : isSpace char.toLower = isSpace char := by
  unfold Char.toLower
  split
  · rename_i upper
    have low := UInt32.le_iff_toNat_le.mp upper.1
    have high := UInt32.le_iff_toNat_le.mp upper.2
    have visible : isSpace char = false := by
      apply solid_of_code
      · simpa using Nat.lt_of_lt_of_le (by decide) low
      · simpa using Nat.lt_of_le_of_lt high (by decide)
    rw [visible]
    apply solid_of_code
    · simp at low high ⊢
      omega
    · simp at low high ⊢
      omega
  · rfl

def upperChar (char : Char) : Text :=
  if char.toNat < 0x80 then [char.toUpper]
  else
    match Unicode.upperSequences.lookup char.toNat with
    | some codes => codes.map Char.ofNat
    | none => [Unicode.moveIn Unicode.upperRanges char]

def upper (text : Text) : Text := text.flatMap upperChar

theorem upper_ascii {text : Text} (ascii : ∀ char ∈ text, char.toNat < 0x80) :
    upper text = text.map Char.toUpper := by
  rw [upper, List.map_eq_flatMap]
  apply List.flatMap_congr
  intro char member
  exact if_pos (ascii char member)

def lstrip (text : Text) : Text := text.dropWhile isSpace

def rstrip (text : Text) : Text := text.rdropWhile isSpace

def strip (text : Text) : Text := rstrip (lstrip text)

/-- `str.strip(chars)` for a set of characters. -/
def stripChars (chars : List Char) (text : Text) : Text :=
  (text.dropWhile (chars.contains ·)).rdropWhile (chars.contains ·)

/-- `str.partition` at one separator character: what stands before it, whether it
occurs, and what stands after it. -/
def partition (separator : Char) : Text → Text × Bool × Text
  | [] => ([], false, [])
  | char :: rest =>
      if char = separator then ([], true, rest)
      else
        let (before, found, after) := partition separator rest
        (char :: before, found, after)

/-- `str.split()` without arguments: the maximal runs that are not white space. -/
def words : Text → List Text
  | [] => []
  | char :: rest =>
      if isSpace char then words rest
      else
        match rest with
        | [] => [[char]]
        | next :: _ =>
            if isSpace next then [char] :: words rest
            else
              match words rest with
              | [] => [[char]]
              | word :: others => (char :: word) :: others

/-- `str.splitlines()`: a final boundary does not open an empty line, and a
carriage return with its line feed is one boundary. -/
def splitlines : Text → List Text
  | [] => []
  | '\r' :: '\n' :: rest => [] :: splitlines rest
  | char :: rest =>
      if isLineBreak char then [] :: splitlines rest
      else
        match splitlines rest with
        | [] => [[char]]
        | line :: lines => (char :: line) :: lines

/-- How a program ends its lines: with a line feed, and on Windows with a carriage return before
it. -/
inductive LineEnd where
  | feed
  | returnFeed
deriving DecidableEq, Repr

def LineEnd.spelling : LineEnd → Text
  | .feed => ['\n']
  | .returnFeed => ['\r', '\n']

/-- The number of digits beyond which `int` refuses a decimal string. -/
def maxStrDigits : Nat := 4300

/-- Digits with single underscores between them, most significant first. -/
def parseDigits : Text → Option (List Nat)
  | [] => none
  | char :: rest =>
      match decimalValue char with
      | none => none
      | some digit =>
          match rest with
          | [] => some [digit]
          | '_' :: tail => (parseDigits tail).map (digit :: ·)
          | next :: tail => (parseDigits (next :: tail)).map (digit :: ·)

def parseMagnitude (text : Text) : Option Nat := do
  let digits ← parseDigits text
  if digits.length ≤ maxStrDigits then
    some (digits.foldl (fun total digit => 10 * total + digit) 0)
  else none

/-- `int(text)` in base ten; `none` stands for `ValueError`. -/
def parseInt (text : Text) : Option Int :=
  match strip text with
  | '-' :: digits => (parseMagnitude digits).map fun value => -(value : Int)
  | '+' :: digits => (parseMagnitude digits).map fun value => (value : Int)
  | digits => (parseMagnitude digits).map fun value => (value : Int)

def hexDigit (value : Nat) : Char := "0123456789abcdef".toList.getD value '0'

/-- The last hexadecimal digits of a number. -/
def hexDigits : Nat → Nat → Text
  | 0, _ => []
  | width + 1, value => hexDigits width (value / 16) ++ [hexDigit (value % 16)]

/-- One character inside `repr` of a string quoted with `quote`. Unprintable characters are
escaped. -/
def reprChar (quote char : Char) : Text :=
  if char = quote || char = '\\' then ['\\', char]
  else if char = '\n' then ['\\', 'n']
  else if char = '\r' then ['\\', 'r']
  else if char = '\t' then ['\\', 't']
  else if 0x20 ≤ char.toNat && char.toNat < 0x7f then [char]
  else if Unicode.isIn Unicode.unprintableRanges char then
    if char.toNat < 0x100 then '\\' :: 'x' :: hexDigits 2 char.toNat
    else if char.toNat < 0x10000 then '\\' :: 'u' :: hexDigits 4 char.toNat
    else '\\' :: 'U' :: hexDigits 8 char.toNat
  else [char]

/-- `repr` of a string: single quotes unless only double quotes avoid an escape. -/
def pyRepr (text : Text) : String :=
  let quote := if text.contains '\'' && !text.contains '"' then '"' else '\''
  String.ofList (quote :: text.flatMap (reprChar quote) ++ [quote])

/-- `needle in text` for strings. -/
def containsText (needle text : Text) : Bool := text.tails.any (needle.isPrefixOf ·)

theorem contains_text_infix (needle front back : Text) :
    containsText needle (front ++ needle ++ back) = true := by
  rw [containsText, List.any_eq_true]
  refine ⟨needle ++ back, ?_, ?_⟩
  · rw [List.mem_tails, List.append_assoc]
    exact List.suffix_append front (needle ++ back)
  · exact List.isPrefixOf_iff_prefix.mpr (List.prefix_append needle back)

/-- The rest of `str.replace`, behind the characters that are replaced already. -/
def replaceFrom (old new : Text) : Nat → Text → Text
  | _, [] => []
  | skipped + 1, _ :: rest => replaceFrom old new skipped rest
  | 0, char :: rest =>
      if old.isPrefixOf (char :: rest) then new ++ replaceFrom old new (old.length - 1) rest
      else char :: replaceFrom old new 0 rest

/-- `text.replace(old, new)` for a text `old` that is not empty. -/
def replace (old new text : Text) : Text := replaceFrom old new 0 text

section Replacing

variable {old new : Text}

theorem replace_from_skip (skipped back : Text) :
    replaceFrom old new skipped.length (skipped ++ back) = replaceFrom old new 0 back := by
  induction skipped with
  | nil => rfl
  | cons char skipped induction => exact induction

/-- The first place where the text occurs. -/
theorem replace_first {char : Char} {more front back : Text} (absent : char ∉ front) :
    replace (char :: more) new (front ++ (char :: more ++ back)) =
      front ++ new ++ replace (char :: more) new back := by
  unfold replace
  induction front with
  | nil =>
      have found : (char :: more).isPrefixOf (char :: (more ++ back)) = true := by
        rw [List.isPrefixOf_iff_prefix]
        exact List.prefix_append (char :: more) back
      rw [List.nil_append, List.cons_append, replaceFrom, if_pos found, List.nil_append,
        List.length_cons, Nat.add_sub_cancel, replace_from_skip]
  | cons first front induction =>
      obtain ⟨apart, absent⟩ := not_or.mp (mt List.mem_cons.mpr absent)
      have missed : (char :: more).isPrefixOf (first :: (front ++ (char :: more ++ back))) =
          false := by
        simp [List.isPrefixOf, apart]
      rw [List.cons_append, replaceFrom, missed]
      exact congrArg (first :: ·) (induction absent)

end Replacing

section Stripping

/-- A text is its own stripped form when neither end is white space. -/
theorem strip_eq_self_iff (text : Text) :
    strip text = text ↔ lstrip text = text ∧ rstrip text = text := by
  constructor
  · intro trimmed
    have suffix : lstrip text <:+ text := List.dropWhile_suffix _
    have prefixed : strip text <+: lstrip text := List.rdropWhile_prefix _ _
    rw [trimmed] at prefixed
    have front : lstrip text = text :=
      suffix.eq_of_length (Nat.le_antisymm suffix.length_le prefixed.length_le)
    rw [strip, front] at trimmed
    exact ⟨front, trimmed⟩
  · intro given
    rcases given with ⟨front, back⟩
    rw [strip, front, back]

theorem mem_lstrip {text : Text} {char : Char} (member : char ∈ text)
    (solid : isSpace char = false) : char ∈ lstrip text := by
  rw [← List.takeWhile_append_dropWhile (p := isSpace) (l := text), List.mem_append] at member
  rcases member with space | kept
  · have passed := List.mem_takeWhile_imp space
    rw [solid] at passed
    cases passed
  · exact kept

/-- A visible character stays. -/
theorem mem_strip {text : Text} {char : Char} (member : char ∈ text)
    (solid : isSpace char = false) : char ∈ strip text := by
  have front := mem_lstrip member solid
  have back := mem_lstrip (List.mem_reverse.mpr front) solid
  exact List.mem_reverse.mpr back

/-- A text with a visible character is not blank. -/
theorem strip_visible {text : Text} {char : Char} (member : char ∈ text)
    (solid : isSpace char = false) : strip text ≠ [] :=
  List.ne_nil_of_mem (mem_strip member solid)

theorem trimmed_head {text : Text} (trimmed : strip text = text) :
    text.head?.all (fun char => !isSpace char) = true := by
  have front := ((strip_eq_self_iff text).mp trimmed).1
  cases text with
  | nil => rfl
  | cons char rest =>
      have solid := List.dropWhile_eq_self_iff.mp front (by simp)
      simpa using solid

theorem rstrip_append {text : Text} (nonempty : text ≠ []) (trimmed : rstrip text = text)
    (front : Text) : rstrip (front ++ text) = front ++ text := by
  have last := List.rdropWhile_eq_self_iff.mp trimmed nonempty
  apply List.rdropWhile_eq_self_iff.mpr
  intro appended
  rw [List.getLast_append_of_ne_nil appended nonempty]
  exact last

theorem rstrip_append_space (text : Text) {char : Char} (space : isSpace char = true) :
    rstrip (text ++ [char]) = rstrip text :=
  List.rdropWhile_concat_pos _ _ _ space

theorem rstrip_append_blank (text : Text) {back : Text}
    (blank : ∀ char ∈ back, isSpace char = true) : rstrip (text ++ back) = rstrip text := by
  induction back using List.reverseRecOn with
  | nil => rw [List.append_nil]
  | append_singleton back last induction =>
      have space := blank last (List.mem_append_right _ List.mem_cons_self)
      rw [← List.append_assoc, rstrip_append_space _ space]
      exact induction fun char member => blank char (List.mem_append_left _ member)

/-- Blanks around a text make no difference. -/
theorem strip_padded {front back : Text} (frontBlank : ∀ char ∈ front, isSpace char = true)
    (backBlank : ∀ char ∈ back, isSpace char = true) (text : Text) :
    strip (front ++ text ++ back) = strip text := by
  have start : lstrip (front ++ text ++ back) = lstrip (text ++ back) := by
    rw [List.append_assoc]
    exact List.dropWhile_append_of_pos frontBlank
  rw [strip, start, strip, lstrip, List.dropWhile_append]
  split
  · rename_i empty
    have nothing : lstrip text = [] := List.isEmpty_iff.mp empty
    have rest : back.dropWhile isSpace = [] := List.dropWhile_eq_nil_iff.mpr backBlank
    rw [nothing, rest]
  · exact rstrip_append_blank _ backBlank

theorem lstrip_cons {char : Char} (solid : isSpace char = false) (rest : Text) :
    lstrip (char :: rest) = char :: rest :=
  List.dropWhile_cons_of_neg (by simp [solid])

theorem strip_solid_ends {text : Text}
    (first : text.head?.all (fun char => !isSpace char) = true)
    (last : text.getLast?.all (fun char => !isSpace char) = true) : strip text = text := by
  apply (strip_eq_self_iff text).mpr
  constructor
  · cases text with
    | nil => rfl
    | cons char rest => exact lstrip_cons (by simpa using first) rest
  · apply List.rdropWhile_eq_self_iff.mpr
    intro filled
    rw [List.getLast?_eq_some_getLast filled] at last
    simpa using last

theorem strip_solid {text : Text} (solid : ∀ char ∈ text, isSpace char = false) :
    strip text = text := by
  rw [strip_eq_self_iff]
  constructor
  · cases text with
    | nil => rfl
    | cons char rest => exact lstrip_cons (solid char List.mem_cons_self) rest
  · apply List.rdropWhile_eq_self_iff.mpr
    intro nonempty
    simp [solid _ (List.getLast_mem nonempty)]

end Stripping

section Words

theorem words_nil : words [] = [] := by
  unfold words
  rfl

theorem words_single {char : Char} (solid : isSpace char = false) : words [char] = [[char]] := by
  rw [words.eq_def]
  simp only [solid, Bool.false_eq_true, if_false]

theorem words_pair (first second : Char) (rest : Text) :
    words (first :: second :: rest) =
      if isSpace first then words (second :: rest)
      else if isSpace second then [first] :: words (second :: rest)
      else
        match words (second :: rest) with
        | [] => [[first]]
        | word :: others => (first :: word) :: others := by
  unfold words
  rfl

/-- A word reaches up to the next white space. -/
theorem words_cons_solid {char : Char} (solid : isSpace char = false) (rest : Text) :
    words (char :: rest) =
      (char :: rest.takeWhile fun next => !isSpace next) ::
        words (rest.dropWhile fun next => !isSpace next) := by
  induction rest generalizing char with
  | nil => simp [words_single solid, words_nil]
  | cons next tail induction =>
      rw [words_pair]
      cases space : isSpace next with
      | true => simp [solid, space]
      | false => simp [solid, space, induction space]

theorem words_cons_space {char : Char} (space : isSpace char = true) (rest : Text) :
    words (char :: rest) = words rest := by
  cases rest with
  | nil =>
      rw [words.eq_def]
      simp only [space, if_true]
  | cons next rest => rw [words_pair, if_pos space]

/-- Blank texts have no words. -/
theorem words_nil_iff (text : Text) : words text = [] ↔ ∀ char ∈ text, isSpace char = true := by
  induction text with
  | nil => simp [words_nil]
  | cons char rest induction =>
      rw [List.forall_mem_cons]
      cases space : isSpace char with
      | true => rw [words_cons_space space, induction, eq_self, true_and]
      | false => simp [words_cons_solid space]

theorem words_solid_space {first second : Char} (solid : isSpace first = false)
    (space : isSpace second = true) (rest : Text) :
    words (first :: second :: rest) = [first] :: words (second :: rest) := by
  rw [words_pair]
  simp only [solid, space, Bool.false_eq_true, if_false, if_true]

theorem words_solid_solid {first second : Char} (solid : isSpace first = false)
    (next : isSpace second = false) {rest word : Text} {others : List Text}
    (tail : words (second :: rest) = word :: others) :
    words (first :: second :: rest) = (first :: word) :: others := by
  rw [words_pair]
  simp only [solid, next, tail, Bool.false_eq_true, if_false]

/-- White space separates the words on its two sides. -/
theorem words_append_space (before rest : Text) {char : Char} (space : isSpace char = true) :
    words (before ++ char :: rest) = words before ++ words rest := by
  induction before with
  | nil => exact words_cons_space space rest
  | cons first before induction =>
      cases firstSpace : isSpace first with
      | true =>
          rw [List.cons_append, words_cons_space firstSpace, words_cons_space firstSpace,
            induction]
      | false =>
          cases before with
          | nil =>
              rw [List.singleton_append, words_solid_space firstSpace space,
                words_cons_space space]
              rw [words_single firstSpace]
              rfl
          | cons second before =>
              simp only [List.cons_append] at induction ⊢
              cases secondSpace : isSpace second with
              | true =>
                  rw [words_solid_space firstSpace secondSpace, induction,
                    words_solid_space firstSpace secondSpace]
                  rfl
              | false =>
                  have front := words_cons_solid secondSpace before
                  rw [front] at induction
                  rw [words_solid_solid firstSpace secondSpace induction,
                    words_solid_solid firstSpace secondSpace front]
                  rfl

/-- A run without white space is joined to the first word of what follows. -/
theorem words_solid_append (word rest : Text) (nonempty : word ≠ [])
    (solid : ∀ char ∈ word, isSpace char = false)
    (joined : rest.head?.all (fun char => !isSpace char) = true) :
    words (word ++ rest) = (word ++ (words rest).headD []) :: (words rest).tail := by
  induction word with
  | nil => exact absurd rfl nonempty
  | cons first word induction =>
      have own := solid first List.mem_cons_self
      cases word with
      | nil =>
          cases rest with
          | nil =>
              rw [List.append_nil, words_single own, words_nil]
              rfl
          | cons next rest =>
              have nextSolid : isSpace next = false := by simpa using joined
              have tail := words_cons_solid nextSolid rest
              rw [List.singleton_append, words_solid_solid own nextSolid tail, tail]
              rfl
      | cons second word =>
          have tail := induction (List.cons_ne_nil _ _)
            fun char member => solid char (List.mem_cons_of_mem _ member)
          have secondSolid := solid second (by simp)
          exact words_solid_solid own secondSolid tail

theorem words_solid {text : Text} (nonempty : text ≠ [])
    (solid : ∀ char ∈ text, isSpace char = false) : words text = [text] := by
  have whole := words_solid_append text [] nonempty solid rfl
  simpa only [words_nil, List.append_nil, List.headD_nil, List.tail_nil] using whole

end Words

section Numbers

theorem number_digits (number : Nat) : (toString number).toList = Nat.toDigits 10 number := by
  rw [Nat.toString_eq_repr, Nat.toList_repr]

theorem number_solid (number : Nat) : ∀ char ∈ (toString number).toList, isSpace char = false := by
  intro char member
  rw [number_digits] at member
  have digit := Nat.isDigit_of_mem_toDigits (by decide) (by decide) member
  rw [Char.isDigit, Bool.and_eq_true, decide_eq_true_eq, decide_eq_true_eq] at digit
  have bounds : '0'.toNat ≤ char.toNat ∧ char.toNat ≤ '9'.toNat := digit
  have codes : '0'.toNat = 48 ∧ '9'.toNat = 57 := by decide
  apply solid_of_code <;> omega

theorem number_injective {first second : Nat} (same : toString first = toString second) :
    first = second := by
  have digits : Nat.toDigits 10 first = Nat.toDigits 10 second := by
    rw [← number_digits, same, number_digits]
  rw [← Nat.ofDigitChars_ten_toDigits (n := first), digits, Nat.ofDigitChars_ten_toDigits]

/-- A label with a number behind it tells the numbers apart. -/
theorem number_label_injective {label : String} {first second : Nat}
    (same : label ++ toString first = label ++ toString second) : first = second :=
  number_injective ((String.append_right_inj label).mp same)

end Numbers

/-- A character of a joined text comes from one of the parts or from the separator. -/
theorem mem_joined {separator : Text} {parts : List Text} {char : Char}
    (member : char ∈ separator.intercalate parts) :
    (∃ part ∈ parts, char ∈ part) ∨ char ∈ separator := by
  induction parts with
  | nil => cases member
  | cons part parts induction =>
      cases parts with
      | nil =>
          rw [List.intercalate_singleton] at member
          exact Or.inl ⟨part, List.mem_cons_self, member⟩
      | cons next parts =>
          rw [List.intercalate_cons_cons, List.mem_append, List.mem_append] at member
          rcases member with (own | between) | later
          · exact Or.inl ⟨part, List.mem_cons_self, own⟩
          · exact Or.inr between
          · rcases induction later with ⟨other, inside, own⟩ | between
            · exact Or.inl ⟨other, List.mem_cons_of_mem _ inside, own⟩
            · exact Or.inr between

theorem partition_at {separator : Char} {before : Text} (absent : separator ∉ before)
    (after : Text) :
    partition separator (before ++ separator :: after) = (before, true, after) := by
  induction before with
  | nil => simp [partition]
  | cons char before induction =>
      have apart : char ≠ separator := by
        intro same
        subst same
        exact absent List.mem_cons_self
      have rest := induction fun member => absent (List.mem_cons_of_mem _ member)
      simp [partition, apart, rest]

theorem partition_absent {separator : Char} {text : Text} (absent : separator ∉ text) :
    partition separator text = (text, false, []) := by
  induction text with
  | nil => rfl
  | cons char text induction =>
      have apart : char ≠ separator := by
        intro same
        subst same
        exact absent List.mem_cons_self
      have rest := induction fun member => absent (List.mem_cons_of_mem _ member)
      simp [partition, apart, rest]

theorem splitlines_cons_plain {char : Char} (plain : isLineBreak char = false) (rest : Text) :
    splitlines (char :: rest) =
      match splitlines rest with
      | [] => [[char]]
      | line :: lines => (char :: line) :: lines := by
  have notReturn : char ≠ '\r' := by
    intro same
    subst same
    revert plain
    decide
  rw [splitlines, plain]
  · rfl
  · intro _ carriage
    exact absurd carriage notReturn

/-- A line without line boundaries is read back up to its end. -/
theorem splitlines_ended {line : Text} (whole : ∀ char ∈ line, isLineBreak char = false)
    (ending : LineEnd) (rest : Text) :
    splitlines (line ++ (ending.spelling ++ rest)) = line :: splitlines rest := by
  induction line with
  | nil => cases ending <;> rfl
  | cons char line induction =>
      have plain := whole char List.mem_cons_self
      have tail := induction fun other member => whole other (List.mem_cons_of_mem _ member)
      rw [List.cons_append, splitlines_cons_plain plain, tail]

theorem splitlines_line {line : Text} (whole : ∀ char ∈ line, isLineBreak char = false)
    (rest : Text) : splitlines (line ++ '\n' :: rest) = line :: splitlines rest :=
  splitlines_ended whole .feed rest

/-- A text without line boundaries is one line. -/
theorem splitlines_single {line : Text} (whole : ∀ char ∈ line, isLineBreak char = false)
    (nonempty : line ≠ []) : splitlines line = [line] := by
  induction line with
  | nil => exact absurd rfl nonempty
  | cons char line induction =>
      have plain := whole char List.mem_cons_self
      rw [splitlines_cons_plain plain]
      by_cases last : line = []
      · rw [last]
        rfl
      · rw [induction (fun other member => whole other (List.mem_cons_of_mem _ member)) last]

/-- Lines joined with line feeds come back, but for an empty line at the end. -/
theorem splitlines_joined_blank {lines : List Text}
    (whole : ∀ line ∈ lines, ∀ char ∈ line, isLineBreak char = false) :
    ∃ blank : List Text, (∀ line ∈ blank, line = []) ∧
      splitlines (['\n'].intercalate lines) ++ blank = lines := by
  induction lines with
  | nil => exact ⟨[], by simp, rfl⟩
  | cons line lines induction =>
      have ownWhole := whole line List.mem_cons_self
      cases lines with
      | nil =>
          rw [List.intercalate_singleton]
          by_cases empty : line = []
          · subst empty
            exact ⟨[[]], by simp, rfl⟩
          · exact ⟨[], by simp, by rw [splitlines_single ownWhole empty, List.append_nil]⟩
      | cons next lines =>
          obtain ⟨blank, empty, rest⟩ := induction fun other member =>
            whole other (List.mem_cons_of_mem _ member)
          refine ⟨blank, empty, ?_⟩
          rw [List.intercalate_cons_cons, List.append_assoc, List.singleton_append,
            splitlines_line ownWhole, List.cons_append, rest]

/-- Lines joined with line feeds come back, when none is empty. -/
theorem splitlines_joined {lines : List Text}
    (whole : ∀ line ∈ lines, ∀ char ∈ line, isLineBreak char = false)
    (nonempty : ∀ line ∈ lines, line ≠ []) : splitlines (['\n'].intercalate lines) = lines := by
  obtain ⟨blank, empty, rest⟩ := splitlines_joined_blank whole
  cases blank with
  | nil => rwa [List.append_nil] at rest
  | cons line blank =>
      have member : line ∈ lines := by
        rw [← rest]
        exact List.mem_append_right _ List.mem_cons_self
      exact absurd (empty line List.mem_cons_self) (nonempty line member)

/-- Lines that are all ended alike come back. -/
theorem splitlines_terminated {lines : List Text}
    (whole : ∀ line ∈ lines, ∀ char ∈ line, isLineBreak char = false) (ending : LineEnd) :
    splitlines (lines.flatMap fun line => line ++ ending.spelling) = lines := by
  induction lines with
  | nil => rfl
  | cons line lines induction =>
      rw [List.flatMap_cons, List.append_assoc,
        splitlines_ended (whole line List.mem_cons_self),
        induction fun other member => whole other (List.mem_cons_of_mem _ member)]

theorem splitlines_cons_break {char : Char} (boundary : isLineBreak char = true) {rest : Text}
    (single : char = '\r' → rest.head? ≠ some '\n') :
    splitlines (char :: rest) = [] :: splitlines rest := by
  rw [splitlines, if_pos boundary]
  intro tail carriage feed
  subst feed
  exact single carriage rfl

theorem splitlines_break_head {char : Char} (boundary : isLineBreak char = true) (rest : Text) :
    ∃ lines, splitlines (char :: rest) = [] :: lines := by
  by_cases pair : char = '\r' ∧ rest.head? = some '\n'
  · obtain ⟨carriage, feed⟩ := pair
    obtain ⟨tail, split⟩ := List.head?_eq_some_iff.mp feed
    rw [carriage, split, splitlines]
    exact ⟨_, rfl⟩
  · exact ⟨_, splitlines_cons_break boundary fun carriage feed => pair ⟨carriage, feed⟩⟩

theorem splitlines_filled {text : Text} (filled : text ≠ []) : splitlines text ≠ [] := by
  cases text with
  | nil => exact absurd rfl filled
  | cons char rest =>
      by_cases boundary : isLineBreak char = true
      · obtain ⟨lines, split⟩ := splitlines_break_head boundary rest
        rw [split]
        exact List.cons_ne_nil _ _
      · rw [splitlines_cons_plain (Bool.not_eq_true _ ▸ boundary)]
        split <;> exact List.cons_ne_nil _ _

/-- A text that ends a line. -/
def EndsLine (text : Text) : Prop := text.getLast?.all isLineBreak = true

/-- A text that goes on behind the end of a line. -/
def BeginsAfterLine (text : Text) : Prop := text.head?.all isLineBreak = true

theorem ends_line_tail {char : Char} {tail : Text} (ends : EndsLine (char :: tail)) :
    EndsLine tail := by
  cases tail with
  | nil => rfl
  | cons next tail =>
      rw [EndsLine, List.getLast?_cons_cons] at ends
      exact ends

theorem splitlines_front {front rest : Text} (ends : EndsLine front)
    (feedless : rest.head? ≠ some '\n') :
    splitlines (front ++ rest) = splitlines front ++ splitlines rest := by
  induction front using splitlines.induct with
  | case1 => rfl
  | case2 tail induction =>
      have later := induction (ends_line_tail (ends_line_tail ends))
      rw [List.cons_append, List.cons_append, splitlines, splitlines, later]
      rfl
  | case3 char tail notPair boundary induction =>
      have later := induction (ends_line_tail ends)
      have own : char = '\r' → tail.head? ≠ some '\n' := by
        intro carriage feed
        obtain ⟨others, split⟩ := List.head?_eq_some_iff.mp feed
        exact notPair others carriage split
      have joined : char = '\r' → (tail ++ rest).head? ≠ some '\n' := by
        intro carriage
        cases tail with
        | nil => exact feedless
        | cons next tail => exact own carriage
      rw [List.cons_append, splitlines_cons_break boundary joined,
        splitlines_cons_break boundary own, later]
      rfl
  | case4 char tail notPair plain empty induction =>
      have bare : tail = [] := by
        by_contra filled
        exact splitlines_filled filled empty
      subst bare
      exact absurd ends plain
  | case5 char tail notPair plain line lines split induction =>
      have inner : isLineBreak char = false := by simpa using plain
      rw [List.cons_append, splitlines_cons_plain inner, splitlines_cons_plain inner,
        induction (ends_line_tail ends), split]
      rfl

/-- A line goes on up to the next boundary. -/
theorem splitlines_back {line back : Text} (whole : ∀ char ∈ line, isLineBreak char = false)
    (nonempty : line ≠ []) (begins : BeginsAfterLine back) :
    splitlines (line ++ back) = line :: (splitlines back).tail := by
  induction line with
  | nil => exact absurd rfl nonempty
  | cons char line induction =>
      have plain := whole char List.mem_cons_self
      rw [List.cons_append, splitlines_cons_plain plain]
      cases line with
      | nil =>
          cases back with
          | nil => rfl
          | cons boundary back =>
              have starts : isLineBreak boundary = true := begins
              obtain ⟨lines, split⟩ := splitlines_break_head starts back
              rw [List.nil_append, split]
              rfl
      | cons next line =>
          rw [induction (fun other member => whole other (List.mem_cons_of_mem _ member))
            (List.cons_ne_nil _ _)]

/-- A line of a text can be exchanged for another one without touching the rest. -/
theorem splitlines_exchange {front back line : Text} (ends : EndsLine front)
    (begins : BeginsAfterLine back) (whole : ∀ char ∈ line, isLineBreak char = false)
    (nonempty : line ≠ []) :
    splitlines (front ++ (line ++ back)) =
      splitlines front ++ line :: (splitlines back).tail := by
  rw [splitlines_front ends, splitlines_back whole nonempty begins]
  obtain ⟨first, rest, split⟩ := List.exists_cons_of_ne_nil nonempty
  rw [split, List.cons_append, List.head?_cons]
  intro feed
  have plain := whole first (by rw [split]; exact List.mem_cons_self)
  rw [Option.some.inj feed] at plain
  revert plain
  decide

end Sigmascope.Library.PyText
