import Sigmascope.Library.Regex

/-!
What a match says about its subject, and how a match is found part by part. Every way that
the search takes spans a word of the pattern; in the other direction a sequence of parts leads
through a subject that is cut into their words, where a greedy part takes all that it can and
a lazy one is refused until its word is complete.
-/

namespace Sigmascope.Library.Regex

set_option autoImplicit false

open Sigmascope.Library.PyText

/-- The pattern can take up the word when the given text follows it. -/
def Spans : Regex → Text → Text → Prop
  | .empty, word, _ => word = []
  | .single accepts, word, _ => ∃ char, word = [char] ∧ accepts char = true
  | .seq first second, word, rest =>
      ∃ front back, word = front ++ back ∧ first.Spans front (back ++ rest) ∧
        second.Spans back rest
  | .alt first second, word, rest => first.Spans word rest ∨ second.Spans word rest
  | .greedy accepts, word, _ => ∀ char ∈ word, accepts char = true
  | .reluctant accepts, word, _ => ∀ char ∈ word, accepts char = true
  | .group _ body, word, rest => body.Spans word rest
  | .lineEnd, word, rest => word = [] ∧ (rest = [] ∨ rest = ['\n'])
  | .notAfter _, word, _ => word = []
  | .ahead _, word, _ => word = []

section Spans

variable {β : Type}

/-- A run of a lazy repetition ends behind a word of the class. -/
theorem run_reluctant_word {accepts : Char → Bool} {next : Cursor → Option β}
    {previous : Option Char} {text : Text} {value : β}
    (succeeds : runReluctant accepts next previous text = some value) :
    ∃ word rest, text = word ++ rest ∧ (∀ char ∈ word, accepts char = true) ∧
      next ⟨previousAfter previous word, rest⟩ = some value := by
  induction text generalizing previous with
  | nil =>
      rw [runReluctant] at succeeds
      exact ⟨[], [], rfl, by simp, by simpa [previousAfter] using succeeds⟩
  | cons char text induction =>
      rw [runReluctant] at succeeds
      rcases Option.or_eq_some_iff.mp succeeds with here | ⟨_, longer⟩
      · exact ⟨[], char :: text, rfl, by simp, by simpa [previousAfter] using here⟩
      · split at longer
        · rename_i accepted
          obtain ⟨word, rest, cut, inside, found⟩ := induction longer
          rw [previous_after_cons previous] at found
          refine ⟨char :: word, rest, congrArg (char :: ·) cut, ?_, found⟩
          intro other member
          rcases List.mem_cons.mp member with same | later
          · exact same ▸ accepted
          · exact inside other later
        · cases longer

/-- What a run takes up is a word of the pattern. -/
theorem run_spans (pattern : Regex) {next : Cursor → Captures → Option β} {cursor : Cursor}
    {captures : Captures} {value : β} (succeeds : pattern.run next cursor captures = some value) :
    ∃ word rest previous found, cursor.rest = word ++ rest ∧ pattern.Spans word rest ∧
      next ⟨previous, rest⟩ found = some value := by
  induction pattern generalizing cursor captures β with
  | empty => exact ⟨[], cursor.rest, cursor.previous, captures, rfl, rfl, succeeds⟩
  | single accepts =>
      obtain ⟨previous, text⟩ := cursor
      cases text with
      | nil => cases succeeds
      | cons char rest =>
          simp only [run] at succeeds
          split at succeeds
          · rename_i accepted
            exact ⟨[char], rest, some char, captures, rfl, ⟨char, rfl, accepted⟩, succeeds⟩
          · cases succeeds
  | seq first second firstSpans secondSpans =>
      obtain ⟨front, middle, before, found, cut, spansFirst, continued⟩ := firstSpans succeeds
      obtain ⟨back, rest, previous, last, again, spansSecond, ended⟩ := secondSpans continued
      change middle = back ++ rest at again
      subst again
      exact ⟨front ++ back, rest, previous, last, by rw [cut, List.append_assoc],
        ⟨front, back, rfl, spansFirst, spansSecond⟩, ended⟩
  | alt first second firstSpans secondSpans =>
      rcases Option.or_eq_some_iff.mp succeeds with left | ⟨_, right⟩
      · obtain ⟨word, rest, previous, found, cut, spans, ended⟩ := firstSpans left
        exact ⟨word, rest, previous, found, cut, Or.inl spans, ended⟩
      · obtain ⟨word, rest, previous, found, cut, spans, ended⟩ := secondSpans right
        exact ⟨word, rest, previous, found, cut, Or.inr spans, ended⟩
  | greedy accepts =>
      obtain ⟨word, rest, cut, inside, ended⟩ := run_greedy_word _ _ succeeds
      exact ⟨word, rest, _, captures, cut, inside, ended⟩
  | reluctant accepts =>
      obtain ⟨word, rest, cut, inside, ended⟩ := run_reluctant_word succeeds
      exact ⟨word, rest, _, captures, cut, inside, ended⟩
  | group name body bodySpans =>
      obtain ⟨word, rest, previous, found, cut, spans, ended⟩ := bodySpans succeeds
      exact ⟨word, rest, previous, _, cut, spans, ended⟩
  | lineEnd =>
      simp only [run] at succeeds
      split at succeeds
      · rename_i atEnd
        exact ⟨[], cursor.rest, cursor.previous, captures, rfl, ⟨rfl, atEnd⟩, succeeds⟩
      · cases succeeds
  | notAfter accepts =>
      simp only [run] at succeeds
      split at succeeds
      · cases succeeds
      · exact ⟨[], cursor.rest, cursor.previous, captures, rfl, rfl, succeeds⟩
  | ahead body bodySpans =>
      simp only [run] at succeeds
      split at succeeds
      · exact ⟨[], cursor.rest, cursor.previous, captures, rfl, rfl, succeeds⟩
      · cases succeeds

theorem match_spans {pattern : Regex} {text : Text} (matched : (pattern.matchText text).isSome) :
    ∃ word rest, text = word ++ rest ∧ pattern.Spans word rest := by
  obtain ⟨captures, found⟩ := Option.isSome_iff_exists.mp matched
  rw [matchText, Option.map_eq_some_iff] at found
  obtain ⟨pair, succeeds, _⟩ := found
  obtain ⟨word, rest, _, _, cut, spans, _⟩ := pattern.run_spans succeeds
  exact ⟨word, rest, cut, spans⟩

variable {first : Regex} {parts : List Regex} {word rest : Text}

theorem spans_concat_cons : (concat (first :: parts)).Spans word rest ↔
    ∃ front back, word = front ++ back ∧ first.Spans front (back ++ rest) ∧
      (concat parts).Spans back rest := by
  cases parts with
  | cons second parts => exact Iff.rfl
  | nil =>
      simp only [concat, Spans]
      constructor
      · intro spans
        exact ⟨word, [], (List.append_nil word).symm, spans, rfl⟩
      · intro given
        obtain ⟨front, back, rfl, spans, rfl⟩ := given
        rwa [List.append_nil]

theorem spans_plus {accepts : Char → Bool} (spans : (greedyPlus accepts).Spans word rest) :
    word ≠ [] ∧ ∀ char ∈ word, accepts char = true := by
  obtain ⟨front, back, rfl, ⟨char, rfl, accepted⟩, inside⟩ := spans
  refine ⟨List.cons_ne_nil char back, ?_⟩
  intro other member
  rcases List.mem_cons.mp member with rfl | later
  · exact accepted
  · exact inside other later

theorem spans_singles {classes : List (Char → Bool)}
    (spans : (concat (classes.map .single)).Spans word rest) :
    List.Forall₂ (fun accepts char => accepts char = true) classes word := by
  induction classes generalizing word with
  | nil =>
      cases spans
      exact .nil
  | cons accepts classes induction =>
      rw [List.map_cons, spans_concat_cons] at spans
      obtain ⟨front, back, rfl, ⟨char, rfl, accepted⟩, others⟩ := spans
      exact .cons accepted (induction others)

theorem spans_literal {text : String}
    (spans : (literalIgnoringCase text).Spans word rest) :
    List.Forall₂ (fun pattern char => ignoringCase pattern char = true) text.toList word := by
  have singles : (concat ((text.toList.map ignoringCase).map .single)).Spans word rest := by
    rw [List.map_map]
    exact spans
  exact List.forall₂_map_left_iff.mp (spans_singles singles)

end Spans

section Leads

variable {β : Type} {next : Cursor → Captures → Option β} {accepts : Char → Bool}
  {parts : List Regex} {word rest : Text} {captures : Captures} {value : β}

/-- The parts, one after the other, take the search from a text to a value, whatever stands in
front of the text. -/
def Leads (parts : List Regex) (next : Cursor → Captures → Option β) (text : Text)
    (captures : Captures) (value : β) : Prop :=
  ∀ previous, (concat parts).run next ⟨previous, text⟩ captures = some value

/-- The parts lead nowhere from the text. -/
def Refuses (parts : List Regex) (next : Cursor → Captures → Option β) (text : Text) : Prop :=
  ∀ previous captures, (concat parts).run next ⟨previous, text⟩ captures = none

/-- Parts that do not span the beginning of a text refuse it. -/
theorem refuses_of_spans {text : Text}
    (absent : ∀ word rest, text = word ++ rest → ¬(concat parts).Spans word rest) :
    Refuses parts next text := by
  intro previous captures
  rw [Option.eq_none_iff_forall_ne_some]
  intro value succeeds
  obtain ⟨word, rest, _, _, cut, spans, _⟩ := (concat parts).run_spans succeeds
  exact absent word rest cut spans

theorem leads_nil (ends : ∀ previous, next ⟨previous, rest⟩ captures = some value) :
    Leads [] next rest captures value := ends

theorem leads_single {char : Char} (accepted : accepts char = true)
    (leads : Leads parts next rest captures value) :
    Leads (.single accepts :: parts) next (char :: rest) captures value := by
  intro previous
  rw [run_concat_cons, run]
  simp only [accepted, if_true]
  exact leads (some char)

theorem leads_greedy (word : Text) (inside : ∀ char ∈ word, accepts char = true)
    (stops : rest.head?.all (fun char => !accepts char) = true)
    (leads : Leads parts next rest captures value) :
    Leads (.greedy accepts :: parts) next (word ++ rest) captures value := by
  intro previous
  rw [run_concat_cons, run]
  exact run_greedy_longest accepts _ previous word rest value inside stops (leads _)

theorem leads_seq {first second : Regex} {text : Text}
    (leads : Leads (first :: second :: parts) next text captures value) :
    Leads (.seq first second :: parts) next text captures value := by
  intro previous
  have given := leads previous
  rw [run_concat_cons] at given
  rw [run_concat_cons, run]
  simp only [run_concat_cons] at given ⊢
  exact given

theorem leads_plus (word : Text) (filled : word ≠ [])
    (inside : ∀ char ∈ word, accepts char = true)
    (stops : rest.head?.all (fun char => !accepts char) = true)
    (leads : Leads parts next rest captures value) :
    Leads (greedyPlus accepts :: parts) next (word ++ rest) captures value := by
  obtain ⟨char, word, rfl⟩ := List.exists_cons_of_ne_nil filled
  exact leads_seq (leads_single (inside char List.mem_cons_self)
    (leads_greedy word (fun other member => inside other (List.mem_cons_of_mem _ member)) stops
      leads))

theorem leads_singles {classes : List (Char → Bool)}
    (related : List.Forall₂ (fun accepts char => accepts char = true) classes word)
    (leads : Leads parts next rest captures value) :
    Leads (concat (classes.map .single) :: parts) next (word ++ rest) captures value := by
  induction related with
  | nil =>
      intro previous
      rw [run_concat_cons]
      exact leads previous
  | @cons accepts char classes word accepted related induction =>
      intro previous
      have given := induction (some char)
      rw [run_concat_cons] at given
      rw [List.map_cons, run_concat_cons, run_concat_cons, run]
      simp only [List.cons_append, accepted, if_true]
      exact given

theorem ignoring_case_same (char : Char) : ignoringCase char char = true := by
  simp [ignoringCase]

/-- A literal is found where it is written, in any case of its letters. -/
theorem leads_literal (text : String)
    (related : List.Forall₂ (fun pattern char => ignoringCase pattern char = true)
      text.toList word)
    (leads : Leads parts next rest captures value) :
    Leads (literalIgnoringCase text :: parts) next (word ++ rest) captures value := by
  have singles := leads_singles (List.forall₂_map_left_iff.mpr related) leads
  rw [List.map_map] at singles
  exact singles

theorem leads_written (text : String) (leads : Leads parts next rest captures value) :
    Leads (literalIgnoringCase text :: parts) next (text.toList ++ rest) captures value :=
  leads_literal text (List.forall₂_same.mpr fun char _ => ignoring_case_same char) leads

theorem leads_line_end (leads : Leads parts next [] captures value) :
    Leads (.lineEnd :: parts) next [] captures value := by
  intro previous
  rw [run_concat_cons, run, if_pos (Or.inl rfl)]
  exact leads previous

/-- The first alternative that works is taken. -/
theorem leads_first {first second : Regex} {text : Text}
    (leads : Leads (first :: parts) next text captures value) :
    Leads (.alt first second :: parts) next text captures value := by
  intro previous
  have given := leads previous
  rw [run_concat_cons] at given
  rw [run_concat_cons, run, given, Option.some_or]

theorem leads_second {first second : Regex} {text : Text}
    (refused : Refuses (first :: parts) next text)
    (leads : Leads (second :: parts) next text captures value) :
    Leads (.alt first second :: parts) next text captures value := by
  intro previous
  have given := leads previous
  have failed := refused previous captures
  rw [run_concat_cons] at given failed
  rw [run_concat_cons, run, failed, Option.none_or, given]

/-- A lazy repetition goes on as long as the parts behind it are refused. -/
theorem leads_reluctant (word : Text) (inside : ∀ char ∈ word, accepts char = true)
    (early : ∀ front back, word = front ++ back → back ≠ [] →
      Refuses parts next (back ++ rest))
    (leads : Leads parts next rest captures value) :
    Leads (.reluctant accepts :: parts) next (word ++ rest) captures value := by
  induction word with
  | nil =>
      intro previous
      have given := leads previous
      rw [run_concat_cons, run, List.nil_append]
      cases rest with
      | nil => exact given
      | cons char tail =>
          simp only [runReluctant]
          rw [given, Option.some_or]
  | cons char word induction =>
      intro previous
      have later := induction (fun other member => inside other (List.mem_cons_of_mem _ member))
        (fun front back cut => early (char :: front) back (congrArg (char :: ·) cut))
        (some char)
      rw [run_concat_cons, run] at later
      have failed := early [] (char :: word) rfl (List.cons_ne_nil char word) previous captures
      rw [List.cons_append] at failed
      rw [run_concat_cons, run, List.cons_append]
      simp only [runReluctant, failed, Option.none_or, inside char List.mem_cons_self, if_true]
      exact later

theorem leads_reluctant_plus {char : Char}
    (inside : ∀ other ∈ char :: word, accepts other = true)
    (early : ∀ front back, word = front ++ back → back ≠ [] →
      Refuses parts next (back ++ rest))
    (leads : Leads parts next rest captures value) :
    Leads (reluctantPlus accepts :: parts) next (char :: word ++ rest) captures value :=
  leads_seq (leads_single (inside char List.mem_cons_self)
    (leads_reluctant word (fun other member => inside other (List.mem_cons_of_mem _ member)) early
      leads))

end Leads

section Groups

variable {β : Type} {next : Cursor → Captures → Option β} {parts : List Regex}
  {captures : Captures} {value : β}

/-- What stands behind the group of a name. -/
def keep (name : String) (parts : List Regex) (next : Cursor → Captures → Option β) (text : Text) :
    Cursor → Captures → Option β := fun after found =>
  (concat parts).run next after ((name, text.take (text.length - after.rest.length)) :: found)

theorem leads_group {name : String} {body : Regex} {text : Text}
    (leads : Leads [body] (keep name parts next text) text captures value) :
    Leads (.group name body :: parts) next text captures value := by
  intro previous
  rw [run_concat_cons, run]
  exact leads previous

/-- A group holds the word in front of the rest. -/
theorem leads_kept {name : String} {text : Text} (word : Text) {rest : Text}
    (cut : text = word ++ rest) (leads : Leads parts next rest ((name, word) :: captures) value) :
    Leads [] (keep name parts next text) rest captures value := by
  intro previous
  have taken : text.take (text.length - rest.length) = word := by
    rw [cut, List.length_append, Nat.add_sub_cancel, List.take_left]
  have given := leads previous
  simp only [concat, run, keep, taken]
  exact given

theorem refuses_kept {name : String} {whole text : Text} (refused : Refuses parts next text) :
    Refuses [] (keep name parts next whole) text := by
  intro previous found
  exact refused previous _

end Groups

section Labels

variable {β : Type} {next : Cursor → Captures → Option β} {parts : List Regex}

theorem spans_initial {text : String} {first : Char} {more word rest : Text}
    (literal : text.toList = first :: more) (spans : (literalIgnoringCase text).Spans word rest) :
    ∃ char tail, word = char :: tail ∧ ignoringCase first char = true := by
  have related := spans_literal spans
  rw [literal] at related
  obtain ⟨char, tail, same, _, rfl⟩ := List.forall₂_cons_left_iff.mp related
  exact ⟨char, tail, rfl, same⟩

theorem refuses_literal {text : String} {first char : Char} {more tail : Text}
    (literal : text.toList = first :: more) (apart : ignoringCase first char = false) :
    Refuses (literalIgnoringCase text :: parts) next (char :: tail) := by
  apply refuses_of_spans
  intro word rest cut spans
  obtain ⟨front, back, rfl, spelled, _⟩ := spans_concat_cons.mp spans
  obtain ⟨other, others, rfl, same⟩ := spans_initial literal spelled
  obtain ⟨rfl, _⟩ := List.cons.inj cut
  rw [apart] at same
  cases same

/-- A sign has no other case. -/
theorem ignoring_case_sign {sign char : Char} (fixed : sign.toLower = sign)
    (plain : isAsciiLetter sign = false) (same : ignoringCase sign char = true) : char = sign := by
  simp only [ignoringCase, fixed, Bool.or_eq_true, Bool.and_eq_true, beq_iff_eq] at same
  rcases same with ((same | ⟨rfl, _⟩) | ⟨rfl, _⟩) | ⟨rfl, _⟩
  · exact lower_sign plain same
  · exact absurd plain (by decide)
  · exact absurd plain (by decide)
  · exact absurd plain (by decide)

/-- White space has no other case. -/
theorem ignoring_case_solid {pattern char : Char} (solid : isSpace pattern = false)
    (same : ignoringCase pattern char = true) : isSpace char = false := by
  simp only [ignoringCase, Bool.or_eq_true, Bool.and_eq_true, beq_iff_eq] at same
  rcases same with ((same | ⟨_, rfl | rfl⟩) | ⟨_, rfl⟩) | ⟨_, rfl⟩
  · rw [← to_lower_solid, same, to_lower_solid, solid]
  · decide
  · decide
  · decide
  · decide

/-- A literal that ends with a colon spans a word up to a colon. -/
theorem spans_label {label : String} (name : Text) {word rest : Text}
    (labelled : label.toList = name ++ [':'])
    (plain : ∀ char ∈ name, ignoringCase char ':' = false)
    (spans : (literalIgnoringCase label).Spans word rest) :
    ∃ front, word = front ++ [':'] ∧ front.length = name.length ∧ ':' ∉ front := by
  have related := spans_literal spans
  rw [labelled] at related
  have turned := related.flip
  have spelled := List.forall₂_take_append _ _ _ turned
  have signed := List.forall₂_drop_append _ _ _ turned
  obtain ⟨last, none, colon, nothing, dropped⟩ := List.forall₂_cons_right_iff.mp signed
  cases nothing
  cases ignoring_case_sign (by decide) (by decide) colon
  refine ⟨word.take name.length, ?_, spelled.length_eq, ?_⟩
  · rw [← dropped, List.take_append_drop]
  · intro member
    obtain ⟨char, named, same⟩ : ∃ char ∈ name, ignoringCase char ':' = true := by
      obtain ⟨index, bound, found⟩ := List.mem_iff_getElem.mp member
      have width := spelled.length_eq
      have related := List.Forall₂.get spelled bound (width ▸ bound)
      simp only [List.get_eq_getElem, found] at related
      exact ⟨_, List.get_mem _ _, related⟩
    rw [plain char named] at same
    cases same

/-- Blanks and a label are refused in front of a visible character, as long as the next colon
belongs to the label behind it. -/
theorem refuses_label {label : String} (name : Text) {back gap tail : Text}
    (labelled : label.toList = name ++ [':'])
    (plain : ∀ char ∈ name, ignoringCase char ':' = false) (absent : ':' ∉ name)
    (unlabelled : ':' ∉ back) (blank : ':' ∉ gap)
    (solid : ∃ char ∈ back, isSpace char = false) :
    Refuses (greedyPlus isSpace :: literalIgnoringCase label :: parts) next
      (back ++ (gap ++ (name ++ ':' :: tail))) := by
  apply refuses_of_spans
  intro word rest cut spans
  obtain ⟨spaces, others, rfl, plus, later⟩ := spans_concat_cons.mp spans
  obtain ⟨literal, more, rfl, spelled, _⟩ := spans_concat_cons.mp later
  obtain ⟨front, rfl, width, clear⟩ := spans_label name labelled plain spelled
  obtain ⟨_, inside⟩ := spans_plus plus
  have colonless : ':' ∉ spaces := by
    intro member
    exact absurd (inside ':' member) (by decide)
  have same : (back ++ gap ++ name) ++ ':' :: tail =
      (spaces ++ front) ++ ':' :: (more ++ rest) := by
    simpa only [List.append_assoc, List.cons_append, List.nil_append] using cut
  have parted := congrArg (partition ':') same
  rw [partition_at (by simp [unlabelled, blank, absent]),
    partition_at (by simp [colonless, clear])] at parted
  obtain ⟨labels, _⟩ := Prod.mk.inj parted
  obtain ⟨taken, _⟩ := List.append_inj' labels width.symm
  obtain ⟨char, member, visible⟩ := solid
  have space := inside char (taken ▸ List.mem_append_left gap member)
  rw [visible] at space
  cases space

end Labels

/-- A pattern whose parts lead through a text matches it. -/
theorem match_of_leads {parts : List Regex} {text : Text} {captures : Captures} (rest : Text)
    (leads : Leads parts (fun after found => some (found, after.rest)) text [] (captures, rest)) :
    (concat parts).matchText text = some captures := by
  rw [matchText, matchAt, leads none, Option.map_some]

end Sigmascope.Library.Regex
