import Mathlib.Data.List.Pairwise
import Mathlib.Data.List.Basic

/-!
First-match decision over a list whose positions are numbered by a strictly
increasing field. A rule decides an event when it matches and no rule before it
does.
-/

namespace Sigmascope.Library.FirstMatch

set_option autoImplicit false

variable {Rule Event : Type*}

/-- The rule that decides the event: the first one of the list that matches. -/
def decider (hits : Rule → Event → Bool) (rules : List Rule) (event : Event) : Option Rule :=
  rules.find? fun rule => hits rule event

variable {hits : Rule → Event → Bool} {rules : List Rule} {event : Event}

theorem decider_mem {rule : Rule} (decides : decider hits rules event = some rule) :
    rule ∈ rules :=
  List.mem_of_find?_eq_some decides

theorem decider_hits {rule : Rule} (decides : decider hits rules event = some rule) :
    hits rule event = true := by
  have found := List.find?_some decides
  simpa using found

theorem decider_exists {rule : Rule} (member : rule ∈ rules) (matched : hits rule event = true) :
    ∃ first, decider hits rules event = some first := by
  have found : (decider hits rules event).isSome = true := by
    simp only [decider, List.find?_isSome]
    exact ⟨rule, member, matched⟩
  exact Option.isSome_iff_exists.mp found

section Numbered

variable {order : Rule → Nat}

theorem order_cases (increasing : rules.Pairwise fun left right => order left < order right)
    {left right : Rule} (leftMember : left ∈ rules) (rightMember : right ∈ rules) :
    left = right ∨ order left < order right ∨ order right < order left := by
  have related : rules.Pairwise fun left right =>
      left = right ∨ order left < order right ∨ order right < order left := by
    apply increasing.imp
    intro left right before
    exact Or.inr (Or.inl before)
  apply related.forall_of_forall_of_flip
  · intro rule _
    exact Or.inl rfl
  · apply increasing.imp
    intro left right before
    exact Or.inr (Or.inr before)
  · exact leftMember
  · exact rightMember

/-- No matching rule stands before the decider. -/
theorem decider_le_of_hits (increasing : rules.Pairwise fun left right => order left < order right)
    {first rule : Rule} (decides : decider hits rules event = some first)
    (member : rule ∈ rules) (matched : hits rule event = true) :
    first = rule ∨ order first < order rule := by
  induction rules with
  | nil => simp at member
  | cons head tail induction =>
      rw [List.pairwise_cons] at increasing
      by_cases headHits : hits head event = true
      · have same : head = first := by
          simpa [decider, List.find?_cons, headHits] using decides
        subst first
        rcases List.mem_cons.mp member with equal | later
        · exact Or.inl equal.symm
        · exact Or.inr (increasing.1 rule later)
      · have inTail : decider hits tail event = some first := by
          simpa [decider, List.find?_cons, headHits] using decides
        rcases List.mem_cons.mp member with equal | later
        · exact absurd (equal ▸ matched) headHits
        · exact induction increasing.2 inTail later

/-- A favourable rule that matches is enough, once every matching rule numbered
before it is favourable too. -/
theorem favourable_decider (increasing : rules.Pairwise fun left right => order left < order right)
    (favours : Rule → Prop) {rule : Rule} (member : rule ∈ rules)
    (matched : hits rule event = true) (favourable : favours rule)
    (earlier : ∀ other ∈ rules, order other < order rule → hits other event = true →
      favours other) :
    ∃ first, decider hits rules event = some first ∧ favours first := by
  obtain ⟨first, decides⟩ := decider_exists member matched
  refine ⟨first, decides, ?_⟩
  rcases decider_le_of_hits increasing decides member matched with same | before
  · exact same ▸ favourable
  · exact earlier first (decider_mem decides) before (decider_hits decides)

end Numbered

end Sigmascope.Library.FirstMatch
