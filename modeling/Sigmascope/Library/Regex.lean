import Mathlib.Data.List.Forall2
import Sigmascope.Library.PyText

/-!
Backtracking regular expressions with the search order of Python's `re`:
alternatives from left to right, greedy repetition longest first, lazy
repetition shortest first. Repetition applies to one-character classes only,
so every run ends without a measure.
-/

namespace Sigmascope.Library

set_option autoImplicit false

open Sigmascope.Library.PyText

/-- A place in the subject: the character before it and the text after it. -/
structure Cursor where
  previous : Option Char
  rest : Text

abbrev Captures := List (String × Text)

inductive Regex where
  | empty
  | single (accepts : Char → Bool)
  | seq (first second : Regex)
  | alt (first second : Regex)
  | greedy (accepts : Char → Bool)
  | reluctant (accepts : Char → Bool)
  | group (name : String) (body : Regex)
  | lineEnd
  | notAfter (accepts : Char → Bool)
  | ahead (body : Regex)

namespace Regex

section Search

variable {β : Type}

/-- Greedy repetition: take one more character if that leads to a match, and stop
here otherwise. -/
def runGreedy (accepts : Char → Bool) (next : Cursor → Option β) : Option Char → Text → Option β
  | previous, [] => next ⟨previous, []⟩
  | previous, char :: rest =>
      if accepts char then
        (runGreedy accepts next (some char) rest).or (next ⟨previous, char :: rest⟩)
      else next ⟨previous, char :: rest⟩

def runReluctant (accepts : Char → Bool) (next : Cursor → Option β) : Option Char → Text → Option β
  | previous, [] => next ⟨previous, []⟩
  | previous, char :: rest =>
      (next ⟨previous, char :: rest⟩).or
        (if accepts char then runReluctant accepts next (some char) rest else none)

end Search

/-- The first way, in search order, to match and then satisfy the continuation. -/
def run : {β : Type} → Regex → (Cursor → Captures → Option β) → Cursor → Captures → Option β
  | _, .empty, next, cursor, captures => next cursor captures
  | _, .single accepts, next, cursor, captures =>
      match cursor.rest with
      | [] => none
      | char :: rest => if accepts char then next ⟨some char, rest⟩ captures else none
  | _, .seq first second, next, cursor, captures =>
      first.run (fun middle found => second.run next middle found) cursor captures
  | _, .alt first second, next, cursor, captures =>
      (first.run next cursor captures).or (second.run next cursor captures)
  | _, .greedy accepts, next, cursor, captures =>
      runGreedy accepts (fun after => next after captures) cursor.previous cursor.rest
  | _, .reluctant accepts, next, cursor, captures =>
      runReluctant accepts (fun after => next after captures) cursor.previous cursor.rest
  | _, .group name body, next, cursor, captures =>
      body.run
        (fun after found =>
          next after ((name, cursor.rest.take (cursor.rest.length - after.rest.length)) :: found))
        cursor captures
  | _, .lineEnd, next, cursor, captures =>
      if cursor.rest = [] ∨ cursor.rest = ['\n'] then next cursor captures else none
  | _, .notAfter accepts, next, cursor, captures =>
      if cursor.previous.any accepts then none else next cursor captures
  | _, .ahead body, next, cursor, captures =>
      match body.run (fun _ _ => some ()) cursor captures with
      | some _ => next cursor captures
      | none => none

/-- One or more characters of a class, as many as possible. -/
def greedyPlus (accepts : Char → Bool) : Regex := .seq (.single accepts) (.greedy accepts)

def reluctantPlus (accepts : Char → Bool) : Regex := .seq (.single accepts) (.reluctant accepts)

def optional (accepts : Char → Bool) : Regex := .alt (.single accepts) .empty

def concat : List Regex → Regex
  | [] => .empty
  | [last] => last
  | first :: second :: rest => .seq first (concat (second :: rest))

def anyOf : List Regex → Regex
  | [] => .single fun _ => false
  | [last] => last
  | first :: second :: rest => .alt first (anyOf (second :: rest))

def literal (text : String) : Regex := concat (text.toList.map fun char => .single (· == char))

/-- The class that one character of a pattern denotes under `re.IGNORECASE`. The
letters i, k and s also match their four relatives outside ASCII. -/
def ignoringCase (pattern char : Char) : Bool :=
  char.toLower == pattern.toLower ||
    (pattern.toLower == 'i' && (char == '\u0130' || char == '\u0131')) ||
    (pattern.toLower == 'k' && char == '\u212a') ||
    (pattern.toLower == 's' && char == '\u017f')

def literalIgnoringCase (text : String) : Regex :=
  concat (text.toList.map fun char => .single (ignoringCase char))

/-- The class `[A-Za-z]` under `re.IGNORECASE`. -/
def letterIgnoringCase (char : Char) : Bool :=
  isAsciiLetter char || char == '\u0130' || char == '\u0131' || char == '\u212a' ||
    char == '\u017f'

def notSpace (char : Char) : Bool := !isSpace char

/-- The class `.`. -/
def anyButNewline (char : Char) : Bool := char != '\n'

/-- `pattern.match` at a cursor: the captured groups and the text left over. -/
def matchAt (pattern : Regex) (cursor : Cursor) : Option (Captures × Text) :=
  pattern.run (fun after captures => some (captures, after.rest)) cursor []

/-- `pattern.match(text)`. -/
def matchText (pattern : Regex) (text : Text) : Option Captures :=
  (pattern.matchAt ⟨none, text⟩).map Prod.fst

/-- `pattern.fullmatch(text)`: a match that uses the whole text. -/
def fullMatch (pattern : Regex) (text : Text) : Bool :=
  (pattern.run (fun after captures => if after.rest = [] then some captures else none)
    ⟨none, text⟩ []).isSome

/-- `match.group(name)`. -/
def captured (captures : Captures) (name : String) : Text := (captures.lookup name).getD []

/-- The start offsets of `pattern.finditer`. The first argument counts the
characters of the current match that are still to be passed over. -/
def findStarts (pattern : Regex) : Nat → Nat → Option Char → Text → List Nat
  | skip, offset, previous, [] =>
      if skip = 0 ∧ (pattern.matchAt ⟨previous, []⟩).isSome then [offset] else []
  | skip + 1, offset, _, char :: rest => findStarts pattern skip (offset + 1) (some char) rest
  | 0, offset, previous, char :: rest =>
      match pattern.matchAt ⟨previous, char :: rest⟩ with
      | none => findStarts pattern 0 (offset + 1) (some char) rest
      | some (_, after) =>
          offset :: findStarts pattern ((char :: rest).length - after.length - 1) (offset + 1)
            (some char) rest

def finditerStarts (pattern : Regex) (text : Text) : List Nat := findStarts pattern 0 0 none text

section Repetition

variable {β : Type} (accepts : Char → Bool) (next : Cursor → Option β)

/-- The character before the text that follows a word. -/
def previousAfter (previous : Option Char) (word : Text) : Option Char :=
  word.getLast?.or previous

theorem previous_after_cons (previous : Option Char) (char : Char) (word : Text) :
    previousAfter (some char) word = previousAfter previous (char :: word) := by
  simp only [previousAfter, List.getLast?_cons]
  cases word.getLast? <;> rfl

/-- Greedy repetition prefers the longest run whenever the continuation succeeds there. -/
theorem run_greedy_longest (previous : Option Char) (word rest : Text) (value : β)
    (inside : ∀ char ∈ word, accepts char = true)
    (stops : rest.head?.all (fun char => !accepts char) = true)
    (succeeds : next ⟨previousAfter previous word, rest⟩ = some value) :
    runGreedy accepts next previous (word ++ rest) = some value := by
  induction word generalizing previous with
  | nil =>
      simp only [previousAfter, List.getLast?_nil, Option.none_or] at succeeds
      cases rest with
      | nil => simpa only [List.nil_append, runGreedy] using succeeds
      | cons char tail =>
          simp only [List.head?_cons, Option.all_some, Bool.not_eq_true'] at stops
          simp only [List.nil_append, runGreedy, stops, Bool.false_eq_true, if_false]
          exact succeeds
  | cons char word induction =>
      have tail := induction (some char)
        (by intro item member; exact inside item (by simp [member]))
        (by rw [previous_after_cons previous]; exact succeeds)
      simp only [List.cons_append, runGreedy, inside char (by simp), if_true, tail, Option.some_or]

/-- A run of a greedy repetition ends behind a word of the class. -/
theorem run_greedy_word {previous : Option Char} {text : Text} {value : β}
    (succeeds : runGreedy accepts next previous text = some value) :
    ∃ word rest, text = word ++ rest ∧ (∀ char ∈ word, accepts char = true) ∧
      next ⟨previousAfter previous word, rest⟩ = some value := by
  induction text generalizing previous with
  | nil =>
      rw [runGreedy] at succeeds
      exact ⟨[], [], rfl, by simp, by simpa [previousAfter] using succeeds⟩
  | cons char text induction =>
      have stop : next ⟨previous, char :: text⟩ = some value →
          ∃ word rest, char :: text = word ++ rest ∧ (∀ char ∈ word, accepts char = true) ∧
            next ⟨previousAfter previous word, rest⟩ = some value := by
        intro here
        exact ⟨[], char :: text, rfl, by simp, by simpa [previousAfter] using here⟩
      rw [runGreedy] at succeeds
      split at succeeds
      · rename_i accepted
        rcases Option.or_eq_some_iff.mp succeeds with longer | ⟨_, here⟩
        · obtain ⟨word, rest, split, inside, found⟩ := induction longer
          rw [previous_after_cons previous] at found
          refine ⟨char :: word, rest, congrArg (char :: ·) split, ?_, found⟩
          intro other member
          rcases List.mem_cons.mp member with same | later
          · exact same ▸ accepted
          · exact inside other later
        · exact stop here
      · exact stop succeeds

end Repetition

section Literal

variable {β : Type}

/-- A sequence is run from its first part on. -/
theorem run_concat_cons (first : Regex) (rest : List Regex) (next : Cursor → Captures → Option β)
    (cursor : Cursor) (captures : Captures) :
    (concat (first :: rest)).run next cursor captures =
      first.run (fun middle found => (concat rest).run next middle found) cursor captures := by
  cases rest <;> rfl

private theorem run_characters (chars : List Char) (next : Cursor → Captures → Option β)
    (previous : Option Char) (text : Text) (captures : Captures) :
    (concat (chars.map fun char => .single (· == char))).run next ⟨previous, text⟩ captures =
      if chars.isPrefixOf text then
        next ⟨previousAfter previous chars, text.drop chars.length⟩ captures
      else none := by
  induction chars generalizing previous text with
  | nil =>
      simp only [List.map_nil, concat, run, List.isPrefixOf, if_true]
      rfl
  | cons first chars induction =>
      rw [List.map_cons, run_concat_cons]
      cases text with
      | nil => simp [run]
      | cons char rest =>
          simp only [run, induction, previous_after_cons previous]
          by_cases same : char = first
          · subst same
            simp
          · have apart : first ≠ char := Ne.symm same
            simp [same, apart]

/-- A literal matches in front of a text that begins with it. -/
theorem run_literal (word : String) (next : Cursor → Captures → Option β)
    (previous : Option Char) (text : Text) (captures : Captures) :
    (literal word).run next ⟨previous, text⟩ captures =
      if word.toList.isPrefixOf text then
        next ⟨previousAfter previous word.toList, text.drop word.toList.length⟩ captures
      else none :=
  run_characters word.toList next previous text captures

end Literal

section FixedLength

variable {β : Type}

/-- A sequence of one-character classes consumes exactly one character for each of them. -/
theorem run_fixed (classes : List (Char → Bool)) (next : Cursor → Captures → Option β)
    (previous : Option Char) (text : Text) (captures : Captures) (value : β) :
    (concat (classes.map .single ++ [.lineEnd])).run next ⟨previous, text⟩ captures = some value ↔
      ∃ word rest, text = word ++ rest ∧
        List.Forall₂ (fun accepts char => accepts char = true) classes word ∧
        (rest = [] ∨ rest = ['\n']) ∧
        next ⟨previousAfter previous word, rest⟩ captures = some value := by
  induction classes generalizing previous text with
  | nil =>
      simp only [List.map_nil, List.nil_append, concat, run, List.forall₂_nil_left_iff]
      constructor
      · intro succeeds
        split at succeeds
        · rename_i ended
          exact ⟨[], text, rfl, rfl, ended, succeeds⟩
        · cases succeeds
      · intro given
        rcases given with ⟨word, rest, rfl, rfl, ended, succeeds⟩
        rw [List.nil_append, if_pos ended]
        exact succeeds
  | cons accepts classes induction =>
      rw [List.map_cons, List.cons_append, run_concat_cons]
      cases text with
      | nil =>
          simp only [run]
          constructor
          · intro succeeds
            cases succeeds
          · intro given
            rcases given with ⟨word, rest, empty, related, _⟩
            obtain ⟨char, chars, _, _, rfl⟩ := List.forall₂_cons_left_iff.mp related
            cases empty
      | cons char tail =>
          simp only [run]
          constructor
          · intro succeeds
            split at succeeds
            · rename_i accepted
              obtain ⟨word, rest, rfl, related, ended, found⟩ := (induction _ _).mp succeeds
              rw [previous_after_cons previous] at found
              exact ⟨char :: word, rest, rfl, List.Forall₂.cons accepted related, ended, found⟩
            · cases succeeds
          · intro given
            rcases given with ⟨word, rest, same, related, ended, found⟩
            obtain ⟨first, chars, accepted, others, rfl⟩ := List.forall₂_cons_left_iff.mp related
            obtain ⟨rfl, rfl⟩ := List.cons.inj same
            rw [if_pos accepted]
            rw [← previous_after_cons previous] at found
            exact (induction _ _).mpr ⟨chars, rest, rfl, others, ended, found⟩

theorem full_match_fixed (classes : List (Char → Bool)) (text : Text) :
    (concat (classes.map .single ++ [.lineEnd])).fullMatch text = true ↔
      List.Forall₂ (fun accepts char => accepts char = true) classes text := by
  rw [fullMatch, Option.isSome_iff_exists]
  constructor
  · intro given
    rcases given with ⟨captures, succeeds⟩
    obtain ⟨word, rest, rfl, related, _, found⟩ := (run_fixed _ _ _ _ _ _).mp succeeds
    split at found
    · rename_i ended
      rw [show rest = [] from ended, List.append_nil]
      exact related
    · cases found
  · intro related
    exact ⟨[], (run_fixed _ _ _ _ _ _).mpr
      ⟨text, [], (List.append_nil text).symm, related, Or.inl rfl, if_pos rfl⟩⟩

end FixedLength

end Regex

end Sigmascope.Library
