import Sigmascope.Collect.GuidText
import Sigmascope.Parse.AuditpolCsv

/-!
One gate key for each subcategory. A GUID reaches a key from a cell of the report
table, from the structure of the native query and from the catalogue; the three
spellings differ in their blanks and in the case of their digits.
-/

namespace Sigmascope

set_option autoImplicit false

open Sigmascope.Library Sigmascope.Library.PyText

def hexAlphabet : Text := "0123456789abcdefABCDEF".toList

def digitValue (char : Char) : Nat := (hexValue char).getD 0

section Digits

theorem mem_hex_alphabet {char : Char} (digit : isHexDigit char = true) : char ∈ hexAlphabet := by
  have checked : ∀ code < 128, isHexDigit (Char.ofNat code) = true →
      Char.ofNat code ∈ hexAlphabet := by decide
  have small : char.toNat < 128 := by
    simp only [isHexDigit, isAsciiDigit, Bool.or_eq_true, Bool.and_eq_true, decide_eq_true_eq,
      code_le] at digit
    have codes : 'f'.toNat = 102 ∧ 'F'.toNat = 70 ∧ '9'.toNat = 57 := by decide
    omega
  have own := checked char.toNat small
  rw [Char.ofNat_toNat] at own
  exact own digit

theorem hex_digit_value {char : Char} (digit : char ∈ hexAlphabet) :
    hexValue char = some (digitValue char) ∧ digitValue char < 16 := by
  have checked : hexAlphabet.all (fun char =>
      hexValue char == some (digitValue char) && decide (digitValue char < 16)) = true := by
    decide
  have own := List.all_eq_true.mp checked char digit
  rwa [Bool.and_eq_true, beq_iff_eq, decide_eq_true_eq] at own

/-- A digit that is written out again only differs in its case. -/
theorem hex_digit_upper {char : Char} (digit : char ∈ hexAlphabet) :
    upperChar (hexDigit (digitValue char)) = upperChar char := by
  have checked : hexAlphabet.all (fun char =>
      upperChar (hexDigit (digitValue char)) == upperChar char) = true := by
    decide
  exact beq_iff_eq.mp (List.all_eq_true.mp checked char digit)

/-- The characters that the readers of a GUID look for, besides its digits and dashes. -/
def guidMarks : Text := "+xX_u\x7b\x7d".toList

theorem hex_digit_plain {char : Char} (digit : char ∈ '-' :: hexAlphabet) :
    isSpace char = false ∧ char ∉ guidMarks := by
  have checked : ('-' :: hexAlphabet).all (fun char =>
      !isSpace char && !guidMarks.contains char) = true := by
    decide
  have own := List.all_eq_true.mp checked char digit
  rw [Bool.and_eq_true, Bool.not_eq_true', Bool.not_eq_true'] at own
  refine ⟨own.1, ?_⟩
  intro marked
  rw [List.contains_iff_mem.mpr marked] at own
  cases own.2

theorem dash_no_digit : '-' ∉ hexAlphabet := by decide

variable {digits : Text} (hex : ∀ char ∈ digits, char ∈ hexAlphabet)
include hex

theorem parse_hex_digits (filled : digits ≠ []) :
    parseHexDigits digits = some (digits.map digitValue) := by
  induction digits with
  | nil => exact absurd rfl filled
  | cons char rest induction =>
      have own := (hex_digit_value (hex char List.mem_cons_self)).1
      have others : ∀ other ∈ rest, other ∈ hexAlphabet :=
        fun other member => hex other (List.mem_cons_of_mem _ member)
      cases rest with
      | nil => simp [parseHexDigits, own]
      | cons next tail =>
          have apart : next ≠ '_' := by
            intro same
            have plain := (hex_digit_plain
              (List.mem_cons_of_mem _ (others next List.mem_cons_self))).2
            rw [same] at plain
            exact plain (by decide)
          have later := induction others (List.cons_ne_nil _ _)
          rw [parseHexDigits, own]
          simp only
          rw [later]
          rfl

/-- What `int(text, 16)` looks for in front of the digits is not there. -/
theorem parse_hex_int (filled : digits ≠ []) :
    parseHexInt digits = some ((placeValue 16 (digits.map digitValue) : Nat) : Int) := by
  have plain : ∀ char ∈ digits, isSpace char = false ∧ char ∉ guidMarks :=
    fun char member => hex_digit_plain (List.mem_cons_of_mem _ (hex char member))
  have absent : ∀ char ∈ guidMarks, char ∉ digits :=
    fun char listed member => (plain char member).2 listed
  have noDash : '-' ∉ digits := fun member => dash_no_digit (hex '-' member)
  have magnitude : parseHexMagnitude digits = some (placeValue 16 (digits.map digitValue)) := by
    have unmarked : ∀ rest, digits ≠ '0' :: 'x' :: rest ∧ digits ≠ '0' :: 'X' :: rest := by
      intro rest
      constructor
      · intro same
        exact absent 'x' (by decide) (same ▸ List.mem_cons_of_mem _ List.mem_cons_self)
      · intro same
        exact absent 'X' (by decide) (same ▸ List.mem_cons_of_mem _ List.mem_cons_self)
    unfold parseHexMagnitude
    split
    · exact absurd rfl (unmarked _).1
    · exact absurd rfl (unmarked _).2
    · exact absurd rfl (unmarked _).1
    · exact absurd rfl (unmarked _).2
    · exact congrArg (Option.map (placeValue 16)) (parse_hex_digits hex filled)
  have stripped : strip digits = digits := strip_solid fun char member => (plain char member).1
  rw [parseHexInt, stripped]
  split
  · exact absurd List.mem_cons_self noDash
  · exact absurd List.mem_cons_self (absent '+' (by decide))
  · rw [magnitude]
    rfl

theorem digit_values_small : ∀ value ∈ digits.map digitValue, value < 16 := by
  intro value member
  obtain ⟨char, listed, rfl⟩ := List.mem_map.mp member
  exact (hex_digit_value (hex char listed)).2

theorem hex_text_digits :
    hexText digits.length (placeValue 16 (digits.map digitValue)) =
      digits.map fun char => hexDigit (digitValue char) := by
  have back := places_place_value (by decide : 0 < 16) (digit_values_small hex)
  rw [List.length_map] at back
  rw [hex_text_places, back, List.map_map]
  rfl

end Digits

section Groups

theorem digit_groups {digits : Text} (whole : digits.length = 32) :
    ∃ first second third fourth rest, digits = first ++ (second ++ (third ++ (fourth ++ rest))) ∧
      first.length = 8 ∧ second.length = 4 ∧ third.length = 4 ∧ fourth.length = 4 := by
  refine ⟨digits.take 8, (digits.drop 8).take 4, (digits.drop 12).take 4,
    (digits.drop 16).take 4, digits.drop 20, ?_, ?_⟩
  · rw [show digits.drop 20 = (digits.drop 16).drop 4 by rw [List.drop_drop],
      List.take_append_drop, show digits.drop 16 = (digits.drop 12).drop 4 by rw [List.drop_drop],
      List.take_append_drop, show digits.drop 12 = (digits.drop 8).drop 4 by rw [List.drop_drop],
      List.take_append_drop, List.take_append_drop]
  · simp [whole]

theorem group_digits {count : Nat} {part : Text}
    (pointwise : List.Forall₂ (fun accepts char => accepts char = true)
      (List.replicate count isHexDigit) part) :
    part.length = count ∧ ∀ char ∈ part, char ∈ hexAlphabet := by
  have length := pointwise.length_eq
  rw [List.length_replicate] at length
  refine ⟨length.symm, ?_⟩
  intro char member
  obtain ⟨index, inside, rfl⟩ := List.getElem_of_mem member
  have bound : index < (List.replicate count isHexDigit).length := by
    rwa [List.length_replicate, length]
  have accepted := pointwise.get bound inside
  rw [List.get_eq_getElem, List.getElem_replicate] at accepted
  exact mem_hex_alphabet accepted

theorem group_dash {part : Text}
    (pointwise : List.Forall₂ (fun accepts char => accepts char = true)
      [fun char : Char => char == '-'] part) : part = ['-'] := by
  obtain ⟨char, _, dash, ended, rfl⟩ := List.forall₂_cons_left_iff.mp pointwise
  cases ended
  rw [beq_iff_eq.mp dash]

/-- A GUID is 32 hexadecimal digits with dashes, between braces. -/
theorem guid_digits {text : Text} (shaped : isGuid text = true) :
    ∃ digits : Text, text = '{' :: (dashed digits ++ ['}']) ∧ digits.length = 32 ∧
      ∀ char ∈ digits, char ∈ hexAlphabet := by
  have pointwise := (Regex.full_match_fixed _ _).mp shaped
  obtain ⟨_, _, rfl, front, back⟩ := forall₂_append_left pointwise
  obtain ⟨opening, middle, opens, groups, rfl⟩ := List.forall₂_cons_left_iff.mp front
  obtain ⟨closing, _, closes, ended, rfl⟩ := List.forall₂_cons_left_iff.mp back
  cases ended
  -- the groups are cut off one by one, from the last to the first
  obtain ⟨_, fifth, rfl, groups, lastGroup⟩ := forall₂_append_left groups
  obtain ⟨_, _, rfl, groups, lastDash⟩ := forall₂_append_left groups
  obtain ⟨_, fourth, rfl, groups, fourthGroup⟩ := forall₂_append_left groups
  obtain ⟨_, _, rfl, groups, thirdDash⟩ := forall₂_append_left groups
  obtain ⟨_, third, rfl, groups, thirdGroup⟩ := forall₂_append_left groups
  obtain ⟨_, _, rfl, groups, secondDash⟩ := forall₂_append_left groups
  obtain ⟨_, second, rfl, groups, secondGroup⟩ := forall₂_append_left groups
  obtain ⟨first, _, rfl, firstGroup, firstDash⟩ := forall₂_append_left groups
  obtain ⟨firstLength, firstDigits⟩ := group_digits firstGroup
  obtain ⟨secondLength, secondDigits⟩ := group_digits secondGroup
  obtain ⟨thirdLength, thirdDigits⟩ := group_digits thirdGroup
  obtain ⟨fourthLength, fourthDigits⟩ := group_digits fourthGroup
  obtain ⟨lastLength, lastDigits⟩ := group_digits lastGroup
  refine ⟨first ++ (second ++ (third ++ (fourth ++ fifth))), ?_, ?_, ?_⟩
  · rw [dashed_groups firstLength secondLength thirdLength fourthLength, group_dash firstDash,
      group_dash secondDash, group_dash thirdDash, group_dash lastDash, beq_iff_eq.mp opens,
      beq_iff_eq.mp closes]
    rfl
  · simp [firstLength, secondLength, thirdLength, fourthLength, lastLength]
  · intro char member
    simp only [List.mem_append] at member
    rcases member with inside | inside | inside | inside | inside
    · exact firstDigits char inside
    · exact secondDigits char inside
    · exact thirdDigits char inside
    · exact fourthDigits char inside
    · exact lastDigits char inside

variable {digits : Text} (whole : digits.length = 32)
include whole

theorem mem_dashed {char : Char} (member : char ∈ dashed digits) : char ∈ digits ∨ char = '-' := by
  obtain ⟨first, second, third, fourth, rest, rfl, eight, four, next, last⟩ := digit_groups whole
  rw [dashed_groups eight four next last] at member
  simp only [List.mem_append, List.mem_singleton] at member ⊢
  tauto

theorem dashed_undone (noDash : '-' ∉ digits) :
    (dashed digits).filter (fun char => char != '-') = digits := by
  obtain ⟨first, second, third, fourth, rest, rfl, eight, four, next, last⟩ := digit_groups whole
  have kept : ∀ part : Text, '-' ∉ part → part.filter (fun char => char != '-') = part := by
    intro part absent
    apply List.filter_eq_self.mpr
    intro char member
    apply bne_iff_ne.mpr
    intro same
    exact absent (same ▸ member)
  have dash : ['-'].filter (fun char => char != '-') = [] := by decide
  simp only [List.mem_append, not_or] at noDash
  obtain ⟨one, two, three, other, final⟩ := noDash
  rw [dashed_groups eight four next last]
  simp only [List.filter_append, kept _ one, kept _ two, kept _ three, kept _ other, kept _ final,
    dash, List.nil_append, List.append_assoc]

/-- Digits that differ in their case only are the same in upper case, dashes or not. -/
theorem upper_dashed {change : Char → Char}
    (same : ∀ char ∈ digits, upperChar (change char) = upperChar char) :
    upper (dashed (digits.map change)) = upper (dashed digits) := by
  have parts : ∀ part : Text, (∀ char ∈ part, upperChar (change char) = upperChar char) →
      upper (part.map change) = upper part := by
    intro part agree
    rw [upper, upper, List.flatMap_map]
    exact List.flatMap_congr agree
  have joined : ∀ left right : Text, upper (left ++ right) = upper left ++ upper right :=
    fun left right => List.flatMap_append
  obtain ⟨first, second, third, fourth, rest, rfl, eight, four, next, last⟩ := digit_groups whole
  simp only [List.mem_append, or_imp, forall_and] at same
  obtain ⟨one, two, three, other, final⟩ := same
  simp only [List.map_append]
  rw [dashed_groups eight four next last,
    dashed_groups (by rwa [List.length_map]) (by rwa [List.length_map])
      (by rwa [List.length_map]) (by rwa [List.length_map])]
  simp only [joined, parts _ one, parts _ two, parts _ three, parts _ other, parts _ final]

end Groups

section Strip

theorem strip_chars_plain {chars : List Char} {text : Text} (plain : ∀ char ∈ text, char ∉ chars) :
    stripChars chars text = text := by
  have kept : ∀ char ∈ text, ¬(chars.contains char = true) := by
    intro char member listed
    exact plain char member (List.contains_iff_mem.mp listed)
  have front : text.dropWhile (chars.contains ·) = text := by
    cases text with
    | nil => rfl
    | cons char rest => exact List.dropWhile_cons_of_neg (kept char List.mem_cons_self)
  rw [stripChars, front, List.rdropWhile_eq_self_iff]
  intro filled
  exact kept _ (List.getLast_mem filled)

theorem remove_text_absent {first : Char} {pattern text : Text} (absent : first ∉ text) :
    removeText (first :: pattern) 0 text = text := by
  induction text with
  | nil => rfl
  | cons char rest induction =>
      rw [List.mem_cons, not_or] at absent
      have unmatched : ¬((first :: pattern).isPrefixOf (char :: rest) = true) := by
        intro matched
        rw [List.isPrefixOf_cons_cons, Bool.and_eq_true, beq_iff_eq] at matched
        exact absent.1 matched.1
      rw [removeText, if_neg unmatched, induction absent.2]

end Strip

section Number

variable {digits : Text} (whole : digits.length = 32) (hex : ∀ char ∈ digits, char ∈ hexAlphabet)
include whole hex

theorem dashed_plain {char : Char} (member : char ∈ dashed digits) :
    isSpace char = false ∧ char ∉ guidMarks := by
  apply hex_digit_plain
  rcases mem_dashed whole member with digit | dash
  · exact List.mem_cons_of_mem _ (hex char digit)
  · exact dash ▸ List.mem_cons_self

theorem digits_number_lt : placeValue 16 (digits.map digitValue) < 2 ^ 128 := by
  have small := place_value_lt (by decide : 1 < 16) (digit_values_small hex)
  rw [List.length_map, whole] at small
  exact lt_of_lt_of_eq small (by decide)

theorem uuid_int_dashed :
    uuidInt (dashed digits) = .ok (placeValue 16 (digits.map digitValue)) := by
  have absent : ∀ char ∈ guidMarks, char ∉ dashed digits := by
    intro char listed member
    exact (dashed_plain whole hex member).2 listed
  have noDash : '-' ∉ digits := fun member => dash_no_digit (hex '-' member)
  have filled : digits ≠ [] := by
    intro empty
    rw [empty] at whole
    cases whole
  have bound := digits_number_lt whole hex
  have noUrn : removeText "urn:".toList 0 (dashed digits) = dashed digits :=
    remove_text_absent (absent 'u' (by decide))
  have noUuid : removeText "uuid:".toList 0 (dashed digits) = dashed digits :=
    remove_text_absent (absent 'u' (by decide))
  have noBraces : stripChars ['{', '}'] (dashed digits) = dashed digits := by
    apply strip_chars_plain
    intro char member brace
    apply (dashed_plain whole hex member).2
    rcases List.mem_cons.mp brace with opening | closing
    · rw [opening]
      decide
    · rw [List.mem_singleton.mp closing]
      decide
  rw [uuidInt, noUrn, noUuid, noBraces, dashed_undone whole noDash, if_neg (not_not.mpr whole),
    parse_hex_int hex filled]
  dsimp only
  rw [if_pos ⟨Int.natCast_nonneg _, by exact_mod_cast bound⟩, Int.toNat_natCast]

end Number

/-- What becomes of a GUID on its way through the structure. -/
theorem from_string_text {text : Text} (shaped : isGuid text = true) :
    ∃ guid, Guid.fromString text = .ok guid ∧
      guid.asString = upperText (String.ofList text) := by
  obtain ⟨digits, rfl, whole, hex⟩ := guid_digits shaped
  have inside : ∀ char ∈ dashed digits, isGuidPart char = true := by
    intro char member
    have checked : ('-' :: hexAlphabet).all isGuidPart = true := by decide
    apply List.all_eq_true.mp checked
    rcases mem_dashed whole member with digit | dash
    · exact List.mem_cons_of_mem _ (hex char digit)
    · exact dash ▸ List.mem_cons_self
  have bound : placeValue 16 (digits.map digitValue) < 256 ^ 16 :=
    lt_of_lt_of_eq (digits_number_lt whole hex) (by decide)
  refine ⟨_, by rw [Guid.fromString, strip_braces inside, uuid_int_dashed whole hex]; rfl, ?_⟩
  have written : (Guid.fromBuffer (mixedEndian (toBytes 16
      (placeValue 16 (digits.map digitValue))))).uuidText =
        dashed (digits.map fun char => hexDigit (digitValue char)) := by
    have length := length_to_bytes 16 (placeValue 16 (digits.map digitValue))
    have text := hex_text_digits hex
    rw [whole] at text
    rw [uuid_text_eq, raw_from_buffer (mixed_endian_length length),
      mixed_endian_involutive length, from_to_bytes, Nat.mod_eq_of_lt bound, uuidString, text]
  have cased : upper (dashed (digits.map fun char => hexDigit (digitValue char))) =
      upper (dashed digits) :=
    upper_dashed whole fun char member => hex_digit_upper (hex char member)
  rw [Guid.asString, written, upperText, upperText, String.toList_ofList, String.toList_ofList,
    cased]
  apply String.toList_inj.mp
  simp only [String.toList_append, String.toList_ofList, upper, List.flatMap_cons,
    List.flatMap_append, List.flatMap_nil]
  rfl

section Case

theorem recased {first second : Char → Char} {text : Text}
    (same : ∀ char ∈ text, second (first char) = second char) :
    (text.map first).map second = text.map second := by
  rw [List.map_map]
  exact List.map_congr_left same

theorem guid_chars {text : Text} (shaped : isGuid text = true) :
    ∀ char ∈ text, char ∈ '{' :: '}' :: '-' :: hexAlphabet := by
  obtain ⟨digits, rfl, whole, hex⟩ := guid_digits shaped
  intro char member
  simp only [List.mem_cons, List.mem_append, List.not_mem_nil, or_false] at member ⊢
  rcases member with opening | inside | closing
  · exact Or.inl opening
  · rcases mem_dashed whole inside with digit | dash
    · exact Or.inr (Or.inr (Or.inr (hex char digit)))
    · exact Or.inr (Or.inr (Or.inl dash))
  · exact Or.inr (Or.inl closing)

/-- Two GUIDs agree in upper case when they agree in lower case. -/
theorem guid_case_iff {first second : Text} (one : isGuid first = true)
    (two : isGuid second = true) : upper first = upper second ↔ lower first = lower second := by
  have checked : ('{' :: '}' :: '-' :: hexAlphabet).all (fun char =>
      char.toNat < 0x80 && char.toLower.toUpper == char.toUpper &&
        char.toUpper.toLower == char.toLower) = true := by decide
  have plain : ∀ text, isGuid text = true → ∀ char ∈ text, char.toNat < 0x80 ∧
      char.toLower.toUpper = char.toUpper ∧ char.toUpper.toLower = char.toLower := by
    intro text shaped char member
    have own := List.all_eq_true.mp checked char (guid_chars shaped char member)
    simp only [Bool.and_eq_true, decide_eq_true_eq, beq_iff_eq, and_assoc] at own
    exact own
  have upperAgain : ∀ text, isGuid text = true →
      (text.map Char.toLower).map Char.toUpper = text.map Char.toUpper :=
    fun text shaped => recased fun char member => (plain text shaped char member).2.1
  have lowerAgain : ∀ text, isGuid text = true →
      (text.map Char.toUpper).map Char.toLower = text.map Char.toLower :=
    fun text shaped => recased fun char member => (plain text shaped char member).2.2
  have firstPlain := fun char member => (plain first one char member).1
  have secondPlain := fun char member => (plain second two char member).1
  rw [upper_ascii firstPlain, upper_ascii secondPlain, lower_ascii firstPlain,
    lower_ascii secondPlain]
  constructor
  · intro same
    rw [← lowerAgain first one, same, lowerAgain second two]
  · intro same
    rw [← upperAgain first one, same, upperAgain second two]

end Case

/-- The gate key of a GUID in the report table, in the answer of the native query and in the
catalogue. -/
structure OneKey (text : Text) (key : String) : Prop where
  cell : ∀ front back : Text, (∀ char ∈ front, isSpace char = true) →
    (∀ char ∈ back, isSpace char = true) → auditKey (canonicalGuid (front ++ text ++ back)) = key
  native : ∃ guid, Guid.fromString text = .ok guid ∧ auditKey (upperText guid.asString) = key
  catalogue : auditKey (upperText (String.ofList text)) = key

theorem guid_key {text : Text} (shaped : isGuid text = true) :
    OneKey text (auditKey (upperText (String.ofList text))) := by
  constructor
  · intro front back frontBlank backBlank
    have trimmed : strip (front ++ text ++ back) = strip text :=
      strip_padded frontBlank backBlank text
    rw [canonicalGuid, trimmed, ← canonicalGuid, canonical_guid_eq shaped, upperText,
      String.toList_ofList]
  · obtain ⟨guid, read, written⟩ := from_string_text shaped
    refine ⟨guid, read, ?_⟩
    rw [upper_as_string, written]
  · rfl

theorem guid_spellings_one_key {text : Text} (shaped : isGuid text = true) :
    (∃ key, OneKey text key) ∧
      ∀ other key otherKey, isGuid other = true → OneKey text key → OneKey other otherKey →
        (key = otherKey ↔ lower text = lower other) := by
  refine ⟨⟨_, guid_key shaped⟩, ?_⟩
  intro other key otherKey otherShaped own others
  rw [← own.catalogue, ← others.catalogue, ← guid_case_iff shaped otherShaped]
  constructor
  · intro same
    have spelled := (String.append_right_inj _).mp same
    rw [upperText, upperText, String.toList_ofList, String.toList_ofList] at spelled
    exact String.ofList_injective spelled
  · intro same
    rw [upperText, upperText, String.toList_ofList, String.toList_ofList, same]

/-- The subcategory of process creation, with digits of either case. -/
theorem guid_spellings_one_key_process_creation :
    (∃ key, OneKey "\x7b0cce922B-69AE-11d9-BED3-505054503030\x7d".toList key) ∧
      ∀ other key otherKey, isGuid other = true →
        OneKey "\x7b0cce922B-69AE-11d9-BED3-505054503030\x7d".toList key →
          OneKey other otherKey →
            (key = otherKey ↔
              lower "\x7b0cce922B-69AE-11d9-BED3-505054503030\x7d".toList = lower other) :=
  guid_spellings_one_key (by decide +kernel)

end Sigmascope
