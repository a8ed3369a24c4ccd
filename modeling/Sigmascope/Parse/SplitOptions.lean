import Sigmascope.Parse.AuditdRules

/-!
Where a rule line is cut. An option begins at a dash with one letter that stands
between white space; the options of a line written one after the other come back
as its tokens.
-/

namespace Sigmascope

set_option autoImplicit false

open Sigmascope.Library Sigmascope.Library.PyText

/-- An option begins here. -/
def optionHere (previous : Option Char) : Text → Bool
  | '-' :: letter :: rest =>
      previous.all isSpace && isAsciiLetter letter && rest.head?.all isSpace
  | _ => false

theorem option_here_cases {previous : Option Char} {text : Text}
    (here : optionHere previous text = true) :
    ∃ letter rest, text = '-' :: letter :: rest ∧ previous.all isSpace = true ∧
      isAsciiLetter letter = true ∧ rest.head?.all isSpace = true := by
  unfold optionHere at here
  split at here
  · rename_i letter rest
    simp only [Bool.and_eq_true] at here
    exact ⟨letter, rest, rfl, here.1.1, here.1.2, here.2⟩
  · cases here

theorem option_here_dash {previous : Option Char} {char : Char} {rest : Text}
    (other : char ≠ '-') : optionHere previous (char :: rest) = false := by
  by_contra here
  obtain ⟨letter, tail, same, _⟩ := option_here_cases (by simpa using here)
  exact other (List.cons.inj same).1

theorem letter_not_dash {letter : Char} (isLetter : isAsciiLetter letter = true) :
    letter ≠ '-' := by
  intro same
  subst same
  revert isLetter
  decide

/-- White space or the end of the line follows. -/
theorem run_followed (previous : Option Char) (rest : Text) :
    Regex.run (.alt (.single isSpace) .lineEnd) (fun _ _ => some ()) ⟨previous, rest⟩ [] =
      if rest.head?.all isSpace then some () else none := by
  cases rest with
  | nil => rfl
  | cons next rest =>
      cases space : isSpace next with
      | true => simp [Regex.run, space]
      | false =>
          have notNewline : next ≠ '\n' := by
            intro same
            subst same
            revert space
            decide
          simp [Regex.run, space, notNewline]

/-- The pattern matches where an option begins, and takes two characters. -/
theorem match_option_boundary (previous : Option Char) (text : Text) :
    optionBoundary.matchAt ⟨previous, text⟩ =
      if optionHere previous text then some ([], text.drop 2) else none := by
  have preceded : previous.any Regex.notSpace = !previous.all isSpace := by
    cases previous <;> simp [Regex.notSpace]
  simp only [Regex.matchAt, optionBoundary, Regex.concat, Regex.run, preceded]
  cases text with
  | nil => simp [optionHere]
  | cons dash rest =>
      by_cases isDash : dash = '-'
      · subst isDash
        cases rest with
        | nil => simp [optionHere]
        | cons letter rest =>
            have followed := run_followed (some letter) rest
            simp only [Regex.run] at followed
            simp only [optionHere, followed]
            cases previous.all isSpace <;> cases isAsciiLetter letter <;>
              cases rest.head?.all isSpace <;> rfl
      · simp [option_here_dash isDash, isDash]

/-- The search of the pattern finds every place where an option begins. The one
character that a match skips is a letter, where none can begin. -/
theorem find_starts_option (skip offset : Nat) (previous : Option Char) (text : Text)
    (single : skip ≤ 1)
    (skipped : skip = 1 → ∃ letter rest, text = letter :: rest ∧ letter ≠ '-') :
    Regex.findStarts optionBoundary skip offset previous text =
      Cuts.starts optionHere offset previous text := by
  induction text generalizing skip offset previous with
  | nil =>
      have notSkipped : skip = 0 := by
        by_contra positive
        obtain ⟨letter, rest, empty, _⟩ := skipped (by omega)
        cases empty
      subst notSkipped
      simp [Regex.findStarts, Cuts.starts, match_option_boundary, optionHere]
  | cons char rest induction =>
      cases skip with
      | succ more =>
          have last : more = 0 := by omega
          subst last
          obtain ⟨letter, tail, same, other⟩ := skipped rfl
          obtain ⟨rfl, rfl⟩ := List.cons.inj same
          simp only [Regex.findStarts, Cuts.starts, option_here_dash other, Bool.false_eq_true,
            if_false]
          exact induction 0 (offset + 1) (some char) (by omega) (by omega)
      | zero =>
          rw [Regex.findStarts, match_option_boundary, Cuts.starts]
          cases here : optionHere previous (char :: rest) with
          | false =>
              simp only [Bool.false_eq_true, if_false]
              exact induction 0 (offset + 1) (some char) (by omega) (by omega)
          | true =>
              obtain ⟨letter, tail, same, _, isLetter, _⟩ := option_here_cases here
              obtain ⟨rfl, rfl⟩ := List.cons.inj same
              have passed : ('-' :: letter :: tail).length -
                  (('-' :: letter :: tail).drop 2).length - 1 = 1 := by
                simp only [List.length_cons, List.length_drop]
                omega
              simp only [if_true, passed]
              rw [induction 1 (offset + 1) (some '-') (by omega)]
              intro _
              exact ⟨letter, tail, rfl, letter_not_dash isLetter⟩

/-- The pieces of a line: what stands before the first option, if anything, and one
piece for each option. -/
theorem split_options_eq (line : Text) :
    splitOptions line =
      if (Cuts.cut optionHere none line).2 ≠ [] ∧ (Cuts.cut optionHere none line).1 = [] then
        (Cuts.cut optionHere none line).2
      else (Cuts.cut optionHere none line).1 :: (Cuts.cut optionHere none line).2 := by
  have found := find_starts_option 0 0 none line (by omega) (by omega)
  have sliced := Cuts.slices_starts optionHere [] line 0 none (by simp)
  have joined := Cuts.cut_join optionHere none line
  simp only [List.nil_append, List.length_nil, List.drop_nil] at sliced
  rw [splitOptions, Regex.finditerStarts, found]
  cases line with
  | nil => rfl
  | cons char rest =>
      cases marked : optionHere none (char :: rest) with
      | true =>
          rw [Cuts.cut_marked optionHere marked] at sliced ⊢
          rw [Cuts.starts, if_pos marked] at sliced ⊢
          simp only [slices, List.drop_zero] at sliced
          simpa using (List.cons.inj sliced).2
      | false =>
          have head : (Cuts.cut optionHere none (char :: rest)).1 ≠ [] := by
            rw [Cuts.cut_unmarked optionHere marked]
            simp
          rw [if_neg (fun both => head both.2)]
          have unfolded : Cuts.starts optionHere 0 none (char :: rest) =
              Cuts.starts optionHere 1 (some char) rest := by
            rw [Cuts.starts, marked]
            rfl
          rw [← sliced, unfolded]
          cases later : Cuts.starts optionHere 1 (some char) rest with
          | nil => rfl
          | cons first others =>
              have bound : 1 ≤ first := by
                apply Cuts.le_of_mem_starts optionHere
                rw [later]
                exact List.mem_cons_self
              have positive : first ≠ 0 := by omega
              simp [positive]

/-- A word that reads as an option: a dash and one letter. -/
def isOptionWord : Text → Bool
  | ['-', letter] => isAsciiLetter letter
  | _ => false

def FreeOfOptions (value : Text) : Prop := ∀ word ∈ words value, isOptionWord word = false

instance (value : Text) : Decidable (FreeOfOptions value) :=
  inferInstanceAs (Decidable (∀ word ∈ words value, isOptionWord word = false))

/-- An option begins inside a value only at one of its words. -/
theorem option_word_of_here {before after : Text} {previous : Option Char}
    (here : optionHere (Regex.previousAfter previous before) after = true) :
    ¬FreeOfOptions (before ++ after) := by
  obtain ⟨letter, rest, rfl, preceded, isLetter, followed⟩ := option_here_cases here
  have solidDash : isSpace '-' = false := by decide
  have solidLetter : isSpace letter = false := ascii_letter_solid isLetter
  have word : ['-', letter] ∈ words ('-' :: letter :: rest) := by
    rw [words_cons_solid solidDash]
    cases rest with
    | nil => simp [solidLetter]
    | cons next rest =>
        have space : isSpace next = true := followed
        simp [solidLetter, space]
  intro free
  have optionWord : isOptionWord ['-', letter] = true := isLetter
  cases before using List.reverseRecOn with
  | nil =>
      have plain := free _ word
      rw [optionWord] at plain
      cases plain
  | append_singleton start last =>
      have space : isSpace last = true := by
        simpa [Regex.previousAfter] using preceded
      have plain := free ['-', letter] (by
        rw [List.append_assoc, List.singleton_append, words_append_space _ _ space]
        exact List.mem_append_right _ word)
      rw [optionWord] at plain
      cases plain

/-- The same when white space or nothing follows the value. -/
theorem option_word_inside {before after rest : Text} {previous : Option Char}
    (here : optionHere (Regex.previousAfter previous before) (after ++ rest) = true)
    (nonempty : after ≠ []) (separated : rest.head?.all isSpace = true) :
    ¬FreeOfOptions (before ++ after) := by
  apply @option_word_of_here before after previous
  obtain ⟨letter, tail, same, preceded, isLetter, followed⟩ := option_here_cases here
  cases after with
  | nil => exact absurd rfl nonempty
  | cons dash after =>
      obtain ⟨isDash, sameTail⟩ := List.cons.inj same
      subst isDash
      cases after with
      | nil =>
          rw [show rest = letter :: tail from sameTail] at separated
          have solid := ascii_letter_solid isLetter
          rw [show isSpace letter = true from separated] at solid
          cases solid
      | cons first after =>
          obtain ⟨isFirst, sameRest⟩ := List.cons.inj sameTail
          subst isFirst
          have ended : after.head?.all isSpace = true := by
            cases after with
            | nil => rfl
            | cons next after =>
                rw [← sameRest] at followed
                exact followed
          simp only [optionHere, preceded, isLetter, ended, Bool.and_self]

/-- An option as it is written: its letter and its value. -/
structure LineOption where
  letter : Char
  value : Text

namespace LineOption

def text (option : LineOption) : Text := '-' :: option.letter :: ' ' :: option.value

/-- The value cannot be confused with the text around it. It may be empty. -/
structure Clean (option : LineOption) : Prop where
  letter : isAsciiLetter option.letter = true
  trimmed : strip option.value = option.value
  whole : ∀ char ∈ option.value, isLineBreak char = false
  free : FreeOfOptions option.value

end LineOption

/-- The options of a line, with one blank between them. -/
def lineText (options : List LineOption) : Text :=
  [' '].intercalate (options.map LineOption.text)

theorem line_text_cons (option next : LineOption) (options : List LineOption) :
    lineText (option :: next :: options) = option.text ++ ' ' :: lineText (next :: options) := by
  simp [lineText, List.intercalate_cons_cons]

section Clean

variable {option : LineOption}

theorem option_text_strip_space : strip (option.text ++ [' ']) = strip option.text := by
  have front : lstrip (option.text ++ [' ']) = option.text ++ [' '] := lstrip_cons (by decide) _
  have own : lstrip option.text = option.text := lstrip_cons (by decide) _
  rw [strip, front, rstrip_append_space _ (by decide), strip, own]

/-- The blank in front of an empty value is all that a token loses. -/
theorem option_text_strip (clean : option.Clean) :
    strip option.text =
      if option.value = [] then ['-', option.letter] else option.text := by
  have front : lstrip option.text = option.text := lstrip_cons (by decide) _
  rw [strip, front]
  split
  · rename_i empty
    have solid : isSpace option.letter = false := ascii_letter_solid clean.letter
    have blank : option.text = ['-', option.letter] ++ [' '] := by
      rw [LineOption.text, empty]
      rfl
    rw [blank, rstrip_append_space _ (by decide)]
    exact List.rdropWhile_concat_neg _ ['-'] _ (by simp [solid])
  · rename_i nonempty
    have back := (strip_eq_self_iff _).mp clean.trimmed
    exact rstrip_append nonempty back.2 ['-', option.letter, ' ']

variable (clean : option.Clean)
include clean

/-- An option that follows white space is one piece with whatever comes before the next. -/
theorem cut_option (previous : Option Char) (preceded : previous.all isSpace = true) (rest : Text)
    (separated : rest.head?.all isSpace = true) :
    ∃ last, Cuts.cut optionHere previous (option.text ++ rest) =
      ([], (option.text ++ (Cuts.cut optionHere last rest).1) ::
        (Cuts.cut optionHere last rest).2) := by
  have here : optionHere previous ('-' :: option.letter :: ' ' :: (option.value ++ rest)) =
      true := by
    simp only [optionHere, preceded, clean.letter, List.head?_cons, Option.all_some]
    rfl
  have letterHere : optionHere (some '-') (option.letter :: ' ' :: (option.value ++ rest)) =
      false :=
    option_here_dash (letter_not_dash clean.letter)
  have blankHere : optionHere (some option.letter) (' ' :: (option.value ++ rest)) = false :=
    option_here_dash (by decide)
  have inside := Cuts.cut_append optionHere (some ' ') option.value rest (by
    intro before after split nonempty
    by_contra inner
    apply option_word_inside (by simpa using inner) nonempty separated
    rw [← split]
    exact clean.free)
  refine ⟨Regex.previousAfter (some ' ') option.value, ?_⟩
  simp only [LineOption.text, List.cons_append]
  rw [Cuts.cut_marked optionHere here, Cuts.cut_unmarked optionHere letterHere,
    Cuts.cut_unmarked optionHere blankHere, inside]

end Clean

/-- A written line is one line. -/
theorem line_text_whole {options : List LineOption} (clean : ∀ option ∈ options, option.Clean) :
    ∀ char ∈ lineText options, isLineBreak char = false := by
  intro char member
  rcases mem_joined member with ⟨part, inside, own⟩ | blank
  · obtain ⟨option, given, rfl⟩ := List.mem_map.mp inside
    have optionClean := clean option given
    simp only [LineOption.text, List.mem_cons] at own
    rcases own with rfl | rfl | rfl | value
    · decide
    · exact line_break_space (ascii_letter_solid optionClean.letter)
    · decide
    · exact optionClean.whole char value
  · rw [List.mem_singleton.mp blank]
    decide

/-- The options of a line are its pieces, up to the blanks around them. -/
theorem cut_line (options : List LineOption) (clean : ∀ option ∈ options, option.Clean)
    (previous : Option Char) (preceded : previous.all isSpace = true) :
    ∃ pieces, Cuts.cut optionHere previous (lineText options) = ([], pieces) ∧
      pieces.map strip = options.map fun option => strip option.text := by
  induction options generalizing previous with
  | nil => exact ⟨[], rfl, rfl⟩
  | cons option options induction =>
      have own := clean option List.mem_cons_self
      cases options with
      | nil =>
          obtain ⟨last, piece⟩ := cut_option own previous preceded [] rfl
          refine ⟨[option.text], ?_, rfl⟩
          simpa [lineText, Cuts.cut] using piece
      | cons next options =>
          obtain ⟨last, piece⟩ := cut_option own previous preceded
            (' ' :: lineText (next :: options)) rfl
          have blank : optionHere last (' ' :: lineText (next :: options)) = false :=
            option_here_dash (by decide)
          obtain ⟨pieces, rest, stripped⟩ := induction
            (fun other member => clean other (List.mem_cons_of_mem _ member))
            (some ' ') rfl
          refine ⟨(option.text ++ [' ']) :: pieces, ?_, ?_⟩
          · rw [line_text_cons, piece, Cuts.cut_unmarked optionHere blank, rest]
          · rw [List.map_cons, stripped, option_text_strip_space]
            rfl

/-- The tokens of a line are the options it was written from. -/
theorem line_tokens (options : List LineOption) (clean : ∀ option ∈ options, option.Clean)
    (nonempty : options ≠ []) :
    lineTokens (lineText options) = options.map fun option => strip option.text := by
  obtain ⟨pieces, cut, stripped⟩ := cut_line options clean none rfl
  have provided : pieces ≠ [] := by
    intro same
    subst same
    exact nonempty (List.map_eq_nil_iff.mp stripped.symm)
  rw [lineTokens, split_options_eq, cut, if_pos ⟨provided, rfl⟩, stripped]
  apply List.filter_eq_self.mpr
  intro token member
  obtain ⟨option, _, rfl⟩ := List.mem_map.mp member
  have visible : strip option.text ≠ [] :=
    strip_visible (List.mem_cons_self : '-' ∈ option.text) (by decide)
  simpa using visible

end Sigmascope
