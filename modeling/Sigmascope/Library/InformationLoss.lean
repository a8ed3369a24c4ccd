import Mathlib.Order.Bounds.Basic
import Mathlib.Data.List.Forall2

/-!
Loss of information in a chain of answers. An answer is blurred when it is
replaced by the one answer that stands for not knowing. Taking the greatest
answer of a list keeps this relation as long as only the top lies above the
unknown answer.
-/

namespace Sigmascope.Library

set_option autoImplicit false

variable {Answer : Type*}

def Blurs (unknown before after : Answer) : Prop := after = unknown ∨ after = before

namespace Blurs

theorem refl (unknown answer : Answer) : Blurs unknown answer answer := Or.inr rfl

theorem lost (unknown answer : Answer) : Blurs unknown answer unknown := Or.inl rfl

theorem trans {unknown first second third : Answer} (early : Blurs unknown first second)
    (late : Blurs unknown second third) : Blurs unknown first third := by
  rcases late with gone | kept
  · exact Or.inl gone
  · rw [kept]
    exact early

variable {unknown : Answer} {before after : List Answer}

private theorem preimage (pointwise : List.Forall₂ (Blurs unknown) before after)
    {answer : Answer} (member : answer ∈ after) :
    answer = unknown ∨ answer ∈ before := by
  induction pointwise with
  | nil => simp at member
  | cons related _ induction =>
      rcases List.mem_cons.mp member with same | later
      · subst answer
        exact related.imp id fun kept => by simp [kept]
      · exact (induction later).imp id (List.mem_cons_of_mem _)

private theorem image (pointwise : List.Forall₂ (Blurs unknown) before after)
    {answer : Answer} (member : answer ∈ before) :
    unknown ∈ after ∨ answer ∈ after := by
  induction pointwise with
  | nil => simp at member
  | cons related _ induction =>
      rcases List.mem_cons.mp member with same | later
      · subst answer
        rcases related with gone | kept
        · exact Or.inl (by simp [gone])
        · exact Or.inr (by simp [kept])
      · exact (induction later).imp (List.mem_cons_of_mem _) (List.mem_cons_of_mem _)

variable [LinearOrder Answer]

/-- The greatest of blurred answers is the blurred greatest answer. -/
theorem greatest (nearTop : ∀ answer, unknown < answer → IsTop answer)
    (pointwise : List.Forall₂ (Blurs unknown) before after) {best blurred : Answer}
    (bestBefore : IsGreatest {answer | answer ∈ before} best)
    (bestAfter : IsGreatest {answer | answer ∈ after} blurred) :
    Blurs unknown best blurred := by
  rcases preimage pointwise bestAfter.1 with same | member
  · exact Or.inl same
  · by_cases isUnknown : blurred = unknown
    · exact Or.inl isUnknown
    · refine Or.inr (le_antisymm (bestBefore.2 member) ?_)
      rcases image pointwise bestBefore.1 with lost | kept
      · have above : unknown < blurred :=
          lt_of_le_of_ne (bestAfter.2 lost) (Ne.symm isUnknown)
        exact nearTop blurred above best
      · exact bestAfter.2 kept

end Blurs

end Sigmascope.Library
