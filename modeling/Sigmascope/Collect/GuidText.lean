import Mathlib.Data.List.GetD
import Sigmascope.Collect.AuditpolNative
import Sigmascope.Library.PlaceValue
import Sigmascope.Parse.SysmonCurrent

/-!
The way of a GUID through the native query: a text is read as a number, the number is
laid out as the bytes of a structure with its first three fields swapped, and the
structure is written out again.
-/

namespace Sigmascope

set_option autoImplicit false

open Sigmascope.Library Sigmascope.Library.PyText

/-- `text.replace(pattern, "")`, with the number of characters still to drop. -/
def removeText (pattern : Text) : Nat → Text → Text
  | _, [] => []
  | skip + 1, _ :: rest => removeText pattern skip rest
  | 0, char :: rest =>
      if pattern.isPrefixOf (char :: rest) then removeText pattern (pattern.length - 1) rest
      else char :: removeText pattern 0 rest

/-- The value of a digit of `int(text, 16)`. -/
def hexValue (char : Char) : Option Nat :=
  match decimalValue char with
  | some digit => some digit
  | none =>
      if 'a' ≤ char && char ≤ 'f' then some (char.toNat - 0x57)
      else if 'A' ≤ char && char ≤ 'F' then some (char.toNat - 0x37)
      else none

/-- Digits with single underscores between them. -/
def parseHexDigits : Text → Option (List Nat)
  | [] => none
  | char :: rest =>
      match hexValue char with
      | none => none
      | some digit =>
          match rest with
          | [] => some [digit]
          | '_' :: tail => (parseHexDigits tail).map (digit :: ·)
          | next :: tail => (parseHexDigits (next :: tail)).map (digit :: ·)

/-- A prefix `0x` is left out, with an underscore behind it. -/
def parseHexMagnitude (text : Text) : Option Nat :=
  let digits :=
    match text with
    | '0' :: 'x' :: '_' :: rest => rest
    | '0' :: 'X' :: '_' :: rest => rest
    | '0' :: 'x' :: rest => rest
    | '0' :: 'X' :: rest => rest
    | _ => text
  (parseHexDigits digits).map (placeValue 16)

/-- `int(text, 16)`; `none` stands for `ValueError`. -/
def parseHexInt (text : Text) : Option Int :=
  match strip text with
  | '-' :: digits => (parseHexMagnitude digits).map fun value => -(value : Int)
  | '+' :: digits => (parseHexMagnitude digits).map fun value => (value : Int)
  | digits => (parseHexMagnitude digits).map fun value => (value : Int)

/-- `uuid.UUID(text).int` -/
def uuidInt (text : Text) : Except ValueError Nat :=
  let plain := removeText "uuid:".toList 0 (removeText "urn:".toList 0 text)
  let digits := (stripChars ['{', '}'] plain).filter fun char => char != '-'
  if digits.length ≠ 32 then .error ⟨"badly formed hexadecimal UUID string"⟩
  else
    match parseHexInt digits with
    | none => .error ⟨"invalid literal for int() with base 16: " ++ pyRepr digits⟩
    | some value =>
        if 0 ≤ value ∧ value < 2 ^ 128 then .ok value.toNat
        else .error ⟨"int is out of range (need a 128-bit value)"⟩

/-- `int.to_bytes`, most significant byte first. -/
def toBytes (width value : Nat) : List UInt8 := (places 256 width value).map UInt8.ofNat

/-- `int.from_bytes`, most significant byte first. -/
def fromBytes (raw : List UInt8) : Nat := placeValue 256 (raw.map UInt8.toNat)

/-- The order of the bytes in `bytes_le`, against that in `bytes`. -/
def mixedEndian (bytes : List UInt8) : List UInt8 :=
  (bytes.take 4).reverse ++ ((bytes.drop 4).take 2).reverse ++ ((bytes.drop 6).take 2).reverse ++
    bytes.drop 8

/-- Dashes behind the digits 8, 12, 16 and 20. -/
def dashed (digits : Text) : Text :=
  digits.take 8 ++ ['-'] ++ (digits.drop 8).take 4 ++ ['-'] ++ (digits.drop 12).take 4 ++
    ['-'] ++ (digits.drop 16).take 4 ++ ['-'] ++ digits.drop 20

/-- `str` of the `uuid.UUID` with a number. -/
def uuidString (value : Nat) : Text := dashed (hexText 32 value)

/-- `from_buffer_copy`: the fields of the structure are little-endian. -/
def Guid.fromBuffer (raw : List UInt8) : Guid where
  data1 := UInt32.ofNat (fromBytes (raw.take 4).reverse)
  data2 := UInt16.ofNat (fromBytes ((raw.drop 4).take 2).reverse)
  data3 := UInt16.ofNat (fromBytes ((raw.drop 6).take 2).reverse)
  data4 := Vector.ofFn fun index => (raw.drop 8).getD index 0

/-- `ctypes.string_at` for the whole structure. -/
def Guid.raw (guid : Guid) : List UInt8 :=
  (toBytes 4 guid.data1.toNat).reverse ++ (toBytes 2 guid.data2.toNat).reverse ++
    (toBytes 2 guid.data3.toNat).reverse ++ guid.data4.toList

/-- `GUID.from_string` -/
def Guid.fromString (value : Text) : Except ValueError Guid :=
  (uuidInt (stripChars ['{', '}'] value)).map fun number =>
    Guid.fromBuffer (mixedEndian (toBytes 16 number))

section Bytes

@[simp] theorem length_to_bytes (width value : Nat) : (toBytes width value).length = width := by
  rw [toBytes, List.length_map, length_places]

theorem to_bytes_numbers (width value : Nat) :
    (toBytes width value).map UInt8.toNat = places 256 width value := by
  have same : ∀ number ∈ places 256 width value,
      (UInt8.toNat ∘ UInt8.ofNat) number = id number := by
    intro number member
    exact UInt8.toNat_ofNat_of_lt' (places_lt (by decide) member)
  rw [toBytes, List.map_map, List.map_congr_left same, List.map_id]

theorem from_to_bytes (width value : Nat) :
    fromBytes (toBytes width value) = value % 256 ^ width := by
  rw [fromBytes, to_bytes_numbers, place_value_places]

theorem byte_numbers_small (raw : List UInt8) : ∀ number ∈ raw.map UInt8.toNat, number < 256 := by
  intro number member
  obtain ⟨byte, _, rfl⟩ := List.mem_map.mp member
  exact byte.toNat_lt

theorem to_from_bytes (raw : List UInt8) : toBytes raw.length (fromBytes raw) = raw := by
  have numbers := places_place_value (by decide : 0 < 256) (byte_numbers_small raw)
  rw [List.length_map] at numbers
  rw [toBytes, fromBytes, numbers, List.map_map]
  apply List.map_id''
  intro byte
  exact UInt8.ofNat_toNat

theorem from_bytes_lt (raw : List UInt8) : fromBytes raw < 256 ^ raw.length := by
  have bound := place_value_lt (by decide : 1 < 256) (byte_numbers_small raw)
  rwa [List.length_map] at bound

theorem hex_text_places (width value : Nat) :
    hexText width value = (places 16 width value).map hexDigit := by
  rw [places, List.map_map]
  rfl

/-- Two hexadecimal digits for each byte. -/
theorem hex_text_bytes (raw : List UInt8) :
    hexText (2 * raw.length) (fromBytes raw) = raw.flatMap fun byte => hexText 2 byte.toNat := by
  have numbers := places_place_value (by decide : 0 < 256) (byte_numbers_small raw)
  rw [List.length_map] at numbers
  rw [hex_text_places, ← places_square, fromBytes, numbers, List.map_flatMap, List.flatMap_map]
  rfl

theorem length_hex_text (width value : Nat) : (hexText width value).length = width := by
  rw [hex_text_places, List.length_map, length_places]

theorem hex_text_to_bytes (width value : Nat) (bound : value < 256 ^ width) :
    (toBytes width value).flatMap (fun byte => hexText 2 byte.toNat) =
      hexText (2 * width) value := by
  rw [← hex_text_bytes, from_to_bytes, length_to_bytes, Nat.mod_eq_of_lt bound]

variable {first second third fourth fifth : List UInt8}

theorem byte_groups {raw : List UInt8} (whole : raw.length = 16) :
    ∃ first second third rest, raw = first ++ (second ++ (third ++ rest)) ∧
      first.length = 4 ∧ second.length = 2 ∧ third.length = 2 ∧ rest.length = 8 := by
  refine ⟨raw.take 4, (raw.drop 4).take 2, (raw.drop 6).take 2, raw.drop 8, ?_, ?_⟩
  · rw [show raw.drop 8 = (raw.drop 6).drop 2 by rw [List.drop_drop], List.take_append_drop,
      show raw.drop 6 = (raw.drop 4).drop 2 by rw [List.drop_drop], List.take_append_drop,
      List.take_append_drop]
  · simp [whole]

section Groups

variable (four : first.length = 4) (two : second.length = 2) (pair : third.length = 2)
  (rest : List UInt8)
include four two pair

theorem byte_cuts :
    (first ++ (second ++ (third ++ rest))).take 4 = first ∧
      ((first ++ (second ++ (third ++ rest))).drop 4).take 2 = second ∧
      ((first ++ (second ++ (third ++ rest))).drop 6).take 2 = third ∧
      (first ++ (second ++ (third ++ rest))).drop 8 = rest := by
  have back : (first ++ (second ++ (third ++ rest))).drop 4 = second ++ (third ++ rest) :=
    List.drop_left' four
  have later : (first ++ (second ++ (third ++ rest))).drop 6 = third ++ rest := by
    rw [← List.drop_drop (i := 2), back, List.drop_left' two]
  have last : (first ++ (second ++ (third ++ rest))).drop 8 = rest := by
    rw [← List.drop_drop (i := 2), later, List.drop_left' pair]
  rw [back, later]
  exact ⟨List.take_left' four, List.take_left' two, List.take_left' pair, last⟩

theorem mixed_endian_append :
    mixedEndian (first ++ (second ++ (third ++ rest))) =
      first.reverse ++ (second.reverse ++ (third.reverse ++ rest)) := by
  obtain ⟨front, next, later, last⟩ := byte_cuts four two pair rest
  rw [mixedEndian, front, next, later, last]
  simp only [List.append_assoc]

end Groups

theorem mixed_endian_length {raw : List UInt8} (whole : raw.length = 16) :
    (mixedEndian raw).length = 16 := by
  obtain ⟨first, second, third, rest, rfl, four, two, pair, last⟩ := byte_groups whole
  rw [mixed_endian_append four two pair]
  simp [four, two, pair, last]

/-- Swapping the fields twice gives the bytes back. -/
theorem mixed_endian_involutive {raw : List UInt8} (whole : raw.length = 16) :
    mixedEndian (mixedEndian raw) = raw := by
  obtain ⟨first, second, third, rest, rfl, four, two, pair, _⟩ := byte_groups whole
  rw [mixed_endian_append four two pair, mixed_endian_append (List.length_reverse.trans four)
    (List.length_reverse.trans two) (List.length_reverse.trans pair)]
  simp only [List.reverse_reverse]

/-- A structure that is copied from 16 bytes holds these bytes. -/
theorem raw_from_buffer {raw : List UInt8} (whole : raw.length = 16) :
    (Guid.fromBuffer raw).raw = raw := by
  obtain ⟨first, second, third, rest, rfl, four, two, pair, eight⟩ := byte_groups whole
  obtain ⟨front, next, later, last⟩ := byte_cuts four two pair rest
  have little : ∀ part : List UInt8,
      (toBytes part.length (fromBytes part.reverse)).reverse = part := by
    intro part
    have back := to_from_bytes part.reverse
    rw [List.length_reverse] at back
    rw [back, List.reverse_reverse]
  have bound : ∀ part : List UInt8, fromBytes part.reverse < 256 ^ part.length := by
    intro part
    have below := from_bytes_lt part.reverse
    rwa [List.length_reverse] at below
  have wide := bound first
  have small : ∀ part : List UInt8, part.length = 2 →
      (UInt16.ofNat (fromBytes part.reverse)).toNat = fromBytes part.reverse := by
    intro part length
    have narrow := bound part
    rw [length] at narrow
    exact UInt16.toNat_ofNat_of_lt' narrow
  rw [four] at wide
  have one : (UInt32.ofNat (fromBytes first.reverse)).toNat = fromBytes first.reverse :=
    UInt32.toNat_ofNat_of_lt' wide
  have fields : (Vector.ofFn fun index : Fin 8 => rest.getD index 0).toList = rest := by
    rw [Vector.toList_ofFn]
    apply List.ext_getElem
    · rw [List.length_ofFn, eight]
    · intro index _ inside
      rw [List.getElem_ofFn, List.getD_eq_getElem _ _ inside]
  rw [Guid.raw, Guid.fromBuffer]
  simp only [front, next, later, last, one, small second two, small third pair, fields]
  have swapped := And.intro (little first) (And.intro (little second) (little third))
  rw [four, two, pair] at swapped
  rw [swapped.1, swapped.2.1, swapped.2.2]
  simp only [List.append_assoc]

end Bytes

section Text

theorem dashed_groups {first second third fourth : Text} (eight : first.length = 8)
    (four : second.length = 4) (next : third.length = 4) (last : fourth.length = 4)
    (rest : Text) :
    dashed (first ++ (second ++ (third ++ (fourth ++ rest)))) =
      first ++ ['-'] ++ second ++ ['-'] ++ third ++ ['-'] ++ fourth ++ ['-'] ++ rest := by
  have one : (first ++ (second ++ (third ++ (fourth ++ rest)))).drop 8 =
      second ++ (third ++ (fourth ++ rest)) := List.drop_left' eight
  have two : (first ++ (second ++ (third ++ (fourth ++ rest)))).drop 12 =
      third ++ (fourth ++ rest) := by
    rw [← List.drop_drop (i := 4), one, List.drop_left' four]
  have three : (first ++ (second ++ (third ++ (fourth ++ rest)))).drop 16 = fourth ++ rest := by
    rw [← List.drop_drop (i := 4), two, List.drop_left' next]
  have final : (first ++ (second ++ (third ++ (fourth ++ rest)))).drop 20 = rest := by
    rw [← List.drop_drop (i := 4), three, List.drop_left' last]
  rw [dashed, one, two, three, final, List.take_left' eight, List.take_left' four,
    List.take_left' next, List.take_left' last]

/-- The structure is written out as the `uuid.UUID` of its bytes. -/
theorem uuid_text_eq (guid : Guid) :
    guid.uuidText = uuidString (fromBytes (mixedEndian guid.raw)) := by
  obtain ⟨one, two, others, split⟩ :
      ∃ one two others, guid.data4.toList = one :: two :: others := by
    have length : guid.data4.toList.length = 8 := guid.data4.length_toList
    rcases split : guid.data4.toList with _ | ⟨one, _ | ⟨two, others⟩⟩
    · simp [split] at length
    · simp [split] at length
    · exact ⟨one, two, others, rfl⟩
  have swapped : mixedEndian guid.raw = toBytes 4 guid.data1.toNat ++
      (toBytes 2 guid.data2.toNat ++ (toBytes 2 guid.data3.toNat ++ guid.data4.toList)) := by
    rw [Guid.raw, List.append_assoc, List.append_assoc, mixed_endian_append (by simp) (by simp)
      (by simp)]
    simp only [List.reverse_reverse]
  have whole : (mixedEndian guid.raw).length = 16 := by
    rw [swapped]
    simp
  have hex := hex_text_bytes (mixedEndian guid.raw)
  rw [whole] at hex
  have width : ∀ number, (hexText 2 number).length = 2 := length_hex_text 2
  rw [uuidString, hex, swapped]
  simp only [List.flatMap_append, hex_text_to_bytes 4 _ guid.data1.toNat_lt,
    hex_text_to_bytes 2 _ guid.data2.toNat_lt, hex_text_to_bytes 2 _ guid.data3.toNat_lt]
  have last : guid.data4.toList.flatMap (fun byte => hexText 2 byte.toNat) =
      (hexText 2 one.toNat ++ hexText 2 two.toNat) ++
        (others.map fun byte => hexText 2 byte.toNat).flatten := by
    rw [split, List.flatMap_cons, List.flatMap_cons, List.flatMap_def, List.append_assoc]
  rw [last, dashed_groups (length_hex_text 8 _) (length_hex_text 4 _) (length_hex_text 4 _)
    (by rw [List.length_append, width, width])]
  rw [Guid.uuidText, split]
  simp

end Text

end Sigmascope
