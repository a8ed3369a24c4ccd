import Sigmascope.Parse.SplitOptions

/-!
The pieces of a rule line. They make up the line, all but the first begin with an
option, and a piece that is cut again stays whole: whether an option begins at a place
is settled before the next one begins.
-/

namespace Sigmascope

set_option autoImplicit false

open Sigmascope.Library Sigmascope.Library.PyText

/-- A dash and one letter, and then white space or nothing. -/
def BeginsOption (piece : Text) : Prop :=
  ∃ letter rest, piece = '-' :: letter :: rest ∧ isAsciiLetter letter = true ∧
    rest.head?.all isSpace = true

/-- The next option begins behind white space, which no option begins with. -/
theorem option_here_settled : Cuts.Settled optionHere := by
  intro previous before after filled next
  obtain ⟨start, last, rfl⟩ := (List.eq_nil_or_concat' before).resolve_left filled
  obtain ⟨_, _, _, preceded, _⟩ := option_here_cases next
  have space : isSpace last = true := by
    simpa [Regex.previousAfter] using preceded
  have notDash : last ≠ '-' := by
    intro same
    rw [same] at space
    exact absurd space (by decide)
  have notLetter : isAsciiLetter last = false := by
    by_contra letter
    rw [ascii_letter_solid (Bool.eq_true_of_not_eq_false letter)] at space
    cases space
  cases start with
  | nil =>
      rw [List.nil_append, List.singleton_append, option_here_dash notDash,
        option_here_dash notDash]
  | cons first start =>
      by_cases isDash : first = '-'
      · subst isDash
        cases start with
        | nil => simp [optionHere, notLetter]
        | cons second start =>
            cases start with
            | nil => rfl
            | cons third start => rfl
      · rw [List.cons_append, List.cons_append, option_here_dash isDash, option_here_dash isDash]

theorem option_begins {previous : Option Char} {piece : Text}
    (here : optionHere previous piece = true) : BeginsOption piece := by
  obtain ⟨letter, rest, split, _, isLetter, followed⟩ := option_here_cases here
  exact ⟨letter, rest, split, isLetter, followed⟩

/-- An option begins at the front of a line whatever stood in front of it. -/
theorem option_here_front {piece : Text} (begins : BeginsOption piece) :
    optionHere none piece = true := by
  obtain ⟨letter, rest, rfl, isLetter, followed⟩ := begins
  simp only [optionHere, isLetter, followed, Option.all_none, Bool.and_self]

section Pieces

variable {piece : Text}

/-- The pieces of a line are the part before the first option and the parts that begin with
one. -/
theorem split_options_cases (line : Text) (member : piece ∈ splitOptions line) :
    Cuts.cut optionHere none piece = (piece, []) ∨ Cuts.Piece optionHere piece := by
  obtain ⟨head, pieces⟩ := Cuts.cut_again optionHere option_here_settled none line
  rw [split_options_eq] at member
  split at member
  · exact Or.inr (pieces piece member)
  · rcases List.mem_cons.mp member with first | later
    · rw [first]
      exact Or.inl head
    · exact Or.inr (pieces piece later)

theorem piece_begins (own : Cuts.Piece optionHere piece) : BeginsOption piece := by
  obtain ⟨_, _, _, _, marked, _⟩ := own
  exact option_begins marked

/-- A piece that begins with an option is cut in front of it only. -/
theorem piece_cut (own : Cuts.Piece optionHere piece) :
    Cuts.cut optionHere none piece = ([], [piece]) := by
  have here := option_here_front (piece_begins own)
  obtain ⟨_, char, rest, rfl, _, single⟩ := own
  rw [Cuts.cut_marked optionHere here, single]

theorem piece_unmarked (own : Cuts.Piece optionHere piece) {before after : Text}
    (split : piece = before ++ after) (filled : before ≠ []) (rest : after ≠ []) :
    optionHere before.getLast? after = false := by
  obtain ⟨_, char, tail, rfl, _, single⟩ := own
  cases before with
  | nil => exact absurd rfl filled
  | cons first before =>
      obtain ⟨same, tails⟩ := List.cons.inj split
      subst same
      have inside := Cuts.whole_unmarked optionHere single tails rest
      rw [Regex.previous_after_cons none] at inside
      simpa [Regex.previousAfter] using inside

theorem whole_inside (whole : Cuts.cut optionHere none piece = (piece, [])) {before after : Text}
    (split : piece = before ++ after) (rest : after ≠ []) :
    optionHere before.getLast? after = false := by
  have inside := Cuts.whole_unmarked optionHere whole split rest
  simpa [Regex.previousAfter] using inside

end Pieces

/-- The pieces are a partition of the line at its options. -/
structure OptionPieces (line : Text) (pieces : List Text) : Prop where
  whole : pieces.flatten = line
  begins : ∀ piece ∈ pieces.tail, BeginsOption piece
  inside : ∀ piece ∈ pieces, ∀ before after, piece = before ++ after → before ≠ [] →
    optionBoundary.matchAt ⟨before.getLast?, after⟩ = none
  stable : ∀ piece ∈ pieces, splitOptions piece = [piece]

theorem split_options_whole (line : Text) : (splitOptions line).flatten = line := by
  have joined := Cuts.cut_join optionHere none line
  rw [split_options_eq]
  split
  · rename_i given
    rwa [given.2, List.nil_append] at joined
  · rwa [List.flatten_cons]

theorem split_options_begins {line piece : Text} (member : piece ∈ (splitOptions line).tail) :
    BeginsOption piece := by
  have pieces := (Cuts.cut_again optionHere option_here_settled none line).2
  rw [split_options_eq] at member
  split at member
  · exact piece_begins (pieces piece (List.mem_of_mem_tail member))
  · exact piece_begins (pieces piece member)

theorem split_options_inside {line piece : Text} (member : piece ∈ splitOptions line)
    {before after : Text} (split : piece = before ++ after) (filled : before ≠ []) :
    optionBoundary.matchAt ⟨before.getLast?, after⟩ = none := by
  rw [match_option_boundary]
  have unmarked : optionHere before.getLast? after = false := by
    by_cases rest : after = []
    · rw [rest]
      rfl
    · rcases split_options_cases line member with whole | own
      · exact whole_inside whole split rest
      · exact piece_unmarked own split filled rest
  rw [unmarked]
  rfl

theorem split_options_stable {line piece : Text} (member : piece ∈ splitOptions line) :
    splitOptions piece = [piece] := by
  rw [split_options_eq]
  rcases split_options_cases line member with whole | own
  · rw [whole]
    rfl
  · rw [piece_cut own]
    rfl

/-- Splitting a line at its options is a partition, and splitting a piece again leaves it as it
is. -/
theorem split_options_pieces (line : Text) : OptionPieces line (splitOptions line) where
  whole := split_options_whole line
  begins _ member := split_options_begins member
  inside _ member _ _ split filled := split_options_inside member split filled
  stable _ member := split_options_stable member

example : splitOptions "  x -a -bc -k".toList = ["  x ", "-a -bc ", "-k"].map String.toList := by
  decide

end Sigmascope
