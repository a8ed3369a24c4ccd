import Sigmascope.Library.PlaceValue
import Sigmascope.Library.PyText

/-!
Moments in universal time as `datetime.isoformat` writes them, and the date-time texts of
internet timestamps. A moment is a date of the calendar, so no other one can be written.
-/

namespace Sigmascope.Library

set_option autoImplicit false

open Sigmascope.Library.PyText

def isLeapYear (year : Nat) : Bool := year % 4 == 0 && (year % 100 != 0 || year % 400 == 0)

def daysInMonth (year month : Nat) : Nat :=
  if month = 2 then if isLeapYear year then 29 else 28
  else if month = 4 ∨ month = 6 ∨ month = 9 ∨ month = 11 then 30
  else 31

structure DateTime where
  year : Nat
  month : Nat
  day : Nat
  hour : Nat
  minute : Nat
  second : Nat
  microsecond : Nat
  inCalendar : 1 ≤ year ∧ year ≤ 9999 ∧ 1 ≤ month ∧ month ≤ 12 ∧ 1 ≤ day ∧
    day ≤ daysInMonth year month
  inDay : hour < 24 ∧ minute < 60 ∧ second < 60 ∧ microsecond < 1000000
deriving DecidableEq

namespace DateTime

section Writer

/-- A number with leading zeros. -/
def digits (width value : Nat) : Text := (places 10 width value).map hexDigit

/-- The microseconds are left out when there are none. -/
def fraction (moment : DateTime) : Text :=
  if moment.microsecond = 0 then [] else digits 6 moment.microsecond

def clock (moment : DateTime) : Text :=
  digits 4 moment.year ++ '-' :: (digits 2 moment.month ++ '-' :: (digits 2 moment.day ++
    'T' :: (digits 2 moment.hour ++ ':' :: (digits 2 moment.minute ++
      ':' :: (digits 2 moment.second ++
        if moment.fraction = [] then [] else '.' :: moment.fraction)))))

/-- `isoformat()` of a moment in universal time. -/
def isoformat (moment : DateTime) : Text := moment.clock ++ ['+', '0', '0', ':', '0', '0']

end Writer

section Reader

/-- A number of fixed width and what is behind it. -/
def readDigits (width : Nat) (text : Text) : Option (Nat × Text) :=
  let front := text.take width
  if front.length = width ∧ front.all isAsciiDigit then
    some (placeValue 10 (front.map fun char => char.toNat - '0'.toNat), text.drop width)
  else none

/-- A number of fixed width behind a separator. -/
def readAfter (separator : Char) (width : Nat) : Text → Option (Nat × Text)
  | [] => none
  | char :: rest => if char = separator then readDigits width rest else none

/-- The digits of the fraction of a second, and what is behind them. -/
def readFraction : Text → Option (Text × Text)
  | '.' :: rest =>
      let fraction := rest.takeWhile isAsciiDigit
      if fraction = [] then none else some (fraction, rest.drop fraction.length)
  | rest => some ([], rest)

/-- The text is the offset to universal time. -/
def isOffset : Text → Bool
  | ['Z'] => true
  | sign :: rest =>
      (sign == '+' || sign == '-') &&
        match readDigits 2 rest with
        | some (hour, rest) =>
            match readAfter ':' 2 rest with
            | some (minute, []) => hour < 24 && minute < 60
            | _ => false
        | none => false
  | [] => false

/-- The fields of a date-time text, the fraction of the second as its digits. -/
structure Fields where
  year : Nat
  month : Nat
  day : Nat
  hour : Nat
  minute : Nat
  second : Nat
  fraction : Text
  offset : Text
deriving DecidableEq

def readFields (text : Text) : Option Fields := do
  let (year, rest) ← readDigits 4 text
  let (month, rest) ← readAfter '-' 2 rest
  let (day, rest) ← readAfter '-' 2 rest
  let (hour, rest) ← readAfter 'T' 2 rest
  let (minute, rest) ← readAfter ':' 2 rest
  let (second, rest) ← readAfter ':' 2 rest
  let (fraction, offset) ← readFraction rest
  some ⟨year, month, day, hour, minute, second, fraction, offset⟩

/-- A leap second is a second of its minute. -/
def isDateTime (text : Text) : Bool :=
  match readFields text with
  | some fields =>
      1 ≤ fields.month && fields.month ≤ 12 && 1 ≤ fields.day &&
        fields.day ≤ daysInMonth fields.year fields.month &&
        fields.hour < 24 && fields.minute < 60 && fields.second ≤ 60 && isOffset fields.offset
  | none => false

end Reader

section ReadBack

theorem digit_read (digit : Nat) (small : digit < 10) :
    isAsciiDigit (hexDigit digit) = true ∧ (hexDigit digit).toNat - '0'.toNat = digit := by
  have all : ∀ digit : Fin 10, isAsciiDigit (hexDigit digit) = true ∧
      (hexDigit digit).toNat - '0'.toNat = digit.val := by decide
  exact all ⟨digit, small⟩

theorem digits_ascii (width value : Nat) : ∀ char ∈ digits width value,
    isAsciiDigit char = true := by
  intro char member
  obtain ⟨digit, place, rfl⟩ := List.mem_map.mp member
  exact (digit_read digit (places_lt (by decide) place)).1

@[simp] theorem length_digits (width value : Nat) : (digits width value).length = width := by
  rw [digits, List.length_map, length_places]

theorem digits_value (width value : Nat) :
    placeValue 10 ((digits width value).map fun char => char.toNat - '0'.toNat) =
      value % 10 ^ width := by
  rw [← place_value_places, digits, List.map_map]
  apply congrArg
  conv_rhs => rw [← List.map_id (places 10 width value)]
  apply List.map_congr_left
  intro digit place
  exact (digit_read digit (places_lt (by decide) place)).2

theorem read_digits_back {width value : Nat} (small : value < 10 ^ width) (rest : Text) :
    readDigits width (digits width value ++ rest) = some (value, rest) := by
  have front : (digits width value ++ rest).take width = digits width value := by
    rw [List.take_append_of_le_length (by simp), List.take_of_length_le (by simp)]
  have back : (digits width value ++ rest).drop width = rest := by
    rw [List.drop_append_of_le_length (by simp), List.drop_of_length_le (by simp),
      List.nil_append]
  have held : (digits width value).length = width ∧ (digits width value).all isAsciiDigit :=
    ⟨length_digits width value, List.all_eq_true.mpr (digits_ascii width value)⟩
  rw [readDigits, front, back, if_pos held, digits_value, Nat.mod_eq_of_lt small]

theorem read_after_back (separator : Char) {width value : Nat} (small : value < 10 ^ width)
    (rest : Text) :
    readAfter separator width (separator :: (digits width value ++ rest)) = some (value, rest) := by
  rw [readAfter, if_pos rfl, read_digits_back small]

theorem read_fraction_back (moment : DateTime) {offset : Text}
    (apart : ∀ char ∈ offset.head?, char ≠ '.' ∧ isAsciiDigit char = false) :
    readFraction ((if moment.fraction = [] then [] else '.' :: moment.fraction) ++ offset) =
      some (moment.fraction, offset) := by
  by_cases whole : moment.fraction = []
  · rw [if_pos whole, whole, List.nil_append]
    cases offset with
    | nil => rfl
    | cons char offset =>
        have other := (apart char rfl).1
        unfold readFraction
        split
        · rename_i same
          exact absurd (List.cons.inj same).1 other
        · rfl
  · have numeric : ∀ char ∈ moment.fraction, isAsciiDigit char = true := by
      intro char member
      unfold fraction at member
      split at member
      · cases member
      · exact digits_ascii 6 _ char member
    have taken : (moment.fraction ++ offset).takeWhile isAsciiDigit = moment.fraction := by
      rw [List.takeWhile_append_of_pos numeric]
      cases offset with
      | nil => simp
      | cons char offset => simp [(apart char rfl).2]
    rw [if_neg whole, List.cons_append, readFraction]
    simp only [taken, if_neg whole, List.drop_left]

/-- The moment is read back, whatever offset it is written with. -/
theorem read_fields_back (moment : DateTime) {offset : Text}
    (apart : ∀ char ∈ offset.head?, char ≠ '.' ∧ isAsciiDigit char = false) :
    readFields (moment.clock ++ offset) =
      some ⟨moment.year, moment.month, moment.day, moment.hour, moment.minute, moment.second,
        moment.fraction, offset⟩ := by
  obtain ⟨_, _, _, _, _, days⟩ := moment.inCalendar
  obtain ⟨_, _, _, _⟩ := moment.inDay
  have short : daysInMonth moment.year moment.month ≤ 31 := by
    unfold daysInMonth
    split
    · split <;> omega
    · split <;> omega
  unfold readFields clock
  simp only [List.append_assoc, List.cons_append]
  rw [read_digits_back (by omega)]
  simp only [Option.bind_eq_bind, Option.bind_some]
  rw [read_after_back '-' (by omega)]
  simp only [Option.bind_some]
  rw [read_after_back '-' (by omega)]
  simp only [Option.bind_some]
  rw [read_after_back 'T' (by omega)]
  simp only [Option.bind_some]
  rw [read_after_back ':' (by omega)]
  simp only [Option.bind_some]
  rw [read_after_back ':' (by omega)]
  simp only [Option.bind_some]
  rw [read_fraction_back moment apart]
  rfl

/-- Every moment is written as a date-time text. -/
theorem is_date_time_clock (moment : DateTime) (offset : Text) (universal : isOffset offset = true)
    (apart : ∀ char ∈ offset.head?, char ≠ '.' ∧ isAsciiDigit char = false) :
    isDateTime (moment.clock ++ offset) = true := by
  obtain ⟨_, _, _, _, _, _⟩ := moment.inCalendar
  obtain ⟨_, _, _, _⟩ := moment.inDay
  rw [isDateTime, read_fields_back moment apart]
  simp only [Bool.and_eq_true, decide_eq_true_eq]
  refine ⟨⟨⟨⟨⟨⟨⟨?_, ?_⟩, ?_⟩, ?_⟩, ?_⟩, ?_⟩, ?_⟩, universal⟩ <;> omega

theorem digits_plain {char : Char} (apart : isAsciiDigit char = false) (width value : Nat) :
    char ∉ digits width value := by
  intro member
  rw [digits_ascii width value char member] at apart
  cases apart

/-- The clock has no sign in it. -/
theorem clock_plain (moment : DateTime) : '+' ∉ moment.clock := by
  have plain := @digits_plain '+' (by decide)
  unfold clock fraction
  split <;> simp [plain]

end ReadBack

end DateTime

end Sigmascope.Library
