import Sigmascope.Library.Regex

/-!
Cutting a text in front of every position that a local condition marks. The
condition sees the character before the position and the text after it. The
offsets of the marks and the slices between them are one way to cut; a single
pass over the text is another, and both give the same pieces.
-/

namespace Sigmascope.Library

set_option autoImplicit false

open Sigmascope.Library.PyText

/-- The slices of a text that begin at the given offsets, each ending where the next begins. -/
def slices (text : Text) : List Nat → List Text
  | [] => []
  | [start] => [text.drop start]
  | start :: next :: rest =>
      (text.drop start).take (next - start) :: slices text (next :: rest)

namespace Cuts

variable (marks : Option Char → Text → Bool)

/-- The offsets of the marked positions. -/
def starts : Nat → Option Char → Text → List Nat
  | _, _, [] => []
  | offset, previous, char :: rest =>
      if marks previous (char :: rest) then offset :: starts (offset + 1) (some char) rest
      else starts (offset + 1) (some char) rest

/-- What stands before the first mark, and the pieces that begin at the marks. -/
def cut : Option Char → Text → Text × List Text
  | _, [] => ([], [])
  | previous, char :: rest =>
      let (head, pieces) := cut (some char) rest
      if marks previous (char :: rest) then ([], (char :: head) :: pieces)
      else (char :: head, pieces)

theorem cut_marked {previous : Option Char} {char : Char} {rest : Text}
    (marked : marks previous (char :: rest) = true) :
    cut marks previous (char :: rest) =
      ([], (char :: (cut marks (some char) rest).1) :: (cut marks (some char) rest).2) := by
  simp only [cut, marked, if_true]

theorem cut_unmarked {previous : Option Char} {char : Char} {rest : Text}
    (unmarked : marks previous (char :: rest) = false) :
    cut marks previous (char :: rest) =
      (char :: (cut marks (some char) rest).1, (cut marks (some char) rest).2) := by
  simp only [cut, unmarked, Bool.false_eq_true, if_false]

/-- Slicing a text at its marks gives the pieces of the single pass. The first slice
starts at an earlier offset and takes the part before the first mark along. -/
theorem slices_starts (done text : Text) (first : Nat) (previous : Option Char)
    (before : first ≤ done.length) :
    slices (done ++ text) (first :: starts marks done.length previous text) =
      (done.drop first ++ (cut marks previous text).1) :: (cut marks previous text).2 := by
  induction text generalizing done first previous with
  | nil =>
      simp only [starts, slices, cut, List.append_nil]
  | cons char rest induction =>
      have longer : done ++ char :: rest = (done ++ [char]) ++ rest := by simp
      have length : (done ++ [char]).length = done.length + 1 := by simp
      by_cases marked : marks previous (char :: rest) = true
      · have tail := induction (done ++ [char]) done.length (some char) (by omega)
        rw [starts, if_pos marked, cut_marked marks marked, slices, longer, ← length, tail]
        have slice : ((done ++ [char] ++ rest).drop first).take (done.length - first) =
            done.drop first := by
          rw [List.append_assoc, List.drop_append_of_le_length before]
          apply List.take_left'
          rw [List.length_drop]
        rw [slice, List.drop_left, List.append_nil]
        rfl
      · have unmarked : marks previous (char :: rest) = false := by simpa using marked
        have tail := induction (done ++ [char]) first (some char) (by omega)
        rw [starts, if_neg marked, cut_unmarked marks unmarked, longer, ← length, tail,
          List.drop_append_of_le_length before, List.append_assoc]
        rfl

/-- The pieces make up the text. -/
theorem cut_join (previous : Option Char) (text : Text) :
    (cut marks previous text).1 ++ (cut marks previous text).2.flatten = text := by
  induction text generalizing previous with
  | nil => rfl
  | cons char rest induction =>
      have tail := induction (some char)
      cases marked : marks previous (char :: rest) with
      | true => simp [cut_marked marks marked, tail]
      | false => simp [cut_unmarked marks marked, tail]

theorem le_of_mem_starts {offset : Nat} {previous : Option Char} {text : Text} {start : Nat}
    (member : start ∈ starts marks offset previous text) : offset ≤ start := by
  induction text generalizing offset previous with
  | nil => cases member
  | cons char rest induction =>
      rw [starts] at member
      split at member
      · rcases List.mem_cons.mp member with same | later
        · omega
        · have := induction later
          omega
      · have := induction member
        omega

/-- A text without a mark is passed over whatever follows it, as long as no mark appears
where the two meet. -/
theorem cut_append (previous : Option Char) (text rest : Text)
    (unmarked : ∀ before after, text = before ++ after → after ≠ [] →
      marks (Regex.previousAfter previous before) (after ++ rest) = false) :
    cut marks previous (text ++ rest) =
      (text ++ (cut marks (Regex.previousAfter previous text) rest).1,
        (cut marks (Regex.previousAfter previous text) rest).2) := by
  induction text generalizing previous with
  | nil => rfl
  | cons char tail induction =>
      have first : marks previous (char :: (tail ++ rest)) = false :=
        unmarked [] (char :: tail) rfl (by simp)
      have later := induction (some char) (by
        intro before after split nonempty
        rw [Regex.previous_after_cons previous]
        exact unmarked (char :: before) after (by rw [split]; rfl) nonempty)
      rw [List.cons_append, cut_unmarked marks first, later,
        Regex.previous_after_cons previous]
      rfl

/-- A text that is one piece has no mark inside. -/
theorem whole_unmarked {previous : Option Char} {text : Text}
    (single : cut marks previous text = (text, [])) {before after : Text}
    (split : text = before ++ after) (filled : after ≠ []) :
    marks (Regex.previousAfter previous before) after = false := by
  induction text generalizing previous before with
  | nil => exact absurd (List.append_eq_nil_iff.mp split.symm).2 filled
  | cons char rest induction =>
      cases marked : marks previous (char :: rest) with
      | true =>
          rw [cut_marked marks marked] at single
          cases single
      | false =>
          rw [cut_unmarked marks marked, Prod.mk.injEq, List.cons.injEq] at single
          cases before with
          | nil =>
              rw [List.nil_append] at split
              rw [← split]
              exact marked
          | cons first before =>
              obtain ⟨same, tail⟩ := List.cons.inj split
              subst same
              rw [← Regex.previous_after_cons previous]
              exact induction (Prod.ext single.1.2 single.2) tail

/-- What stands behind the part before the first mark begins at that mark. -/
theorem cut_next_marked (previous : Option Char) (text : Text)
    (later : (cut marks previous text).2 ≠ []) :
    marks (Regex.previousAfter previous (cut marks previous text).1)
      (cut marks previous text).2.flatten = true := by
  induction text generalizing previous with
  | nil => exact absurd rfl later
  | cons char rest induction =>
      cases marked : marks previous (char :: rest) with
      | true =>
          rw [cut_marked marks marked, List.flatten_cons, List.cons_append, cut_join]
          exact marked
      | false =>
          rw [cut_unmarked marks marked] at later ⊢
          have next := induction (some char) later
          rwa [Regex.previous_after_cons previous] at next

/-- Whether a place is marked is settled by the text up to the next mark. -/
def Settled : Prop :=
  ∀ (previous : Option Char) (before after : Text), before ≠ [] →
    marks (Regex.previousAfter previous before) after = true →
      marks previous (before ++ after) = marks previous before

/-- A text that begins at a mark and has none behind it. -/
def Piece (piece : Text) : Prop :=
  ∃ previous char rest, piece = char :: rest ∧ marks previous piece = true ∧
    cut marks (some char) rest = (rest, [])

/-- Cutting a piece again does nothing, when the marks do not look beyond the next mark. -/
theorem cut_again (settled : Settled marks) (previous : Option Char) (text : Text) :
    cut marks previous (cut marks previous text).1 = ((cut marks previous text).1, []) ∧
      ∀ piece ∈ (cut marks previous text).2, Piece marks piece := by
  induction text generalizing previous with
  | nil => exact ⟨rfl, by simp [cut]⟩
  | cons char rest induction =>
      obtain ⟨head, pieces⟩ := induction (some char)
      have same : marks previous (char :: rest) =
          marks previous (char :: (cut marks (some char) rest).1) := by
        have joined := cut_join marks (some char) rest
        by_cases last : (cut marks (some char) rest).2 = []
        · rw [last, List.flatten_nil, List.append_nil] at joined
          rw [joined]
        · have next := cut_next_marked marks (some char) rest last
          rw [Regex.previous_after_cons previous] at next
          have kept := settled previous (char :: (cut marks (some char) rest).1) _
            (List.cons_ne_nil _ _) next
          rwa [List.cons_append, joined] at kept
      cases marked : marks previous (char :: rest) with
      | true =>
          rw [cut_marked marks marked]
          refine ⟨rfl, ?_⟩
          intro piece member
          rcases List.mem_cons.mp member with first | later
          · subst first
            exact ⟨previous, char, _, rfl, same.symm.trans marked, head⟩
          · exact pieces piece later
      | false =>
          rw [cut_unmarked marks marked]
          refine ⟨?_, pieces⟩
          rw [cut_unmarked marks (same.symm.trans marked), head]

end Cuts

end Sigmascope.Library
