import Mathlib.Data.List.Basic

/-!
Include and exclude blocks whose conditions are not interpreted. Which blocks match
an event is left open but for blocks that can match nothing; an event passes when an
include block matches, or there is none, and no exclude block does.
-/

namespace Sigmascope.Library

set_option autoImplicit false

universe u

variable {Block : Type u}

/-- Which of the blocks match one event. A block that can match nothing does not. -/
structure Assignment (canMatch : Block → Bool) (blocks : List Block) where
  marked : List (Block × Bool)
  onBlocks : marked.map Prod.fst = blocks
  admissible : ∀ mark ∈ marked, canMatch mark.1 = false → mark.2 = false

namespace Assignment

variable {canMatch includes : Block → Bool} {blocks : List Block}

/-- The event is logged. -/
def Logged (includes : Block → Bool) (assignment : Assignment canMatch blocks) : Prop :=
  ((∀ mark ∈ assignment.marked, includes mark.1 = false) ∨
      ∃ mark ∈ assignment.marked, includes mark.1 = true ∧ mark.2 = true) ∧
    ∀ mark ∈ assignment.marked, includes mark.1 = false → mark.2 = false

/-- The chosen blocks match as far as they can, and no other one does. -/
def choose (canMatch : Block → Bool) (blocks : List Block) (chosen : Block → Bool) :
    Assignment canMatch blocks where
  marked := blocks.map fun block => (block, chosen block && canMatch block)
  onBlocks := by
    rw [List.map_map]
    exact List.map_id blocks
  admissible := by
    intro mark member unable
    obtain ⟨block, _, rfl⟩ := List.mem_map.mp member
    simp only at unable
    rw [unable, Bool.and_false]

theorem mem_blocks (assignment : Assignment canMatch blocks) {mark : Block × Bool}
    (member : mark ∈ assignment.marked) : mark.1 ∈ blocks := by
  rw [← assignment.onBlocks]
  exact List.mem_map_of_mem member

theorem exists_mark (assignment : Assignment canMatch blocks) {block : Block}
    (member : block ∈ blocks) : ∃ mark ∈ assignment.marked, mark.1 = block := by
  rw [← assignment.onBlocks] at member
  exact List.mem_map.mp member

theorem logged_choose_iff (chosen : Block → Bool) :
    (choose canMatch blocks chosen).Logged includes ↔
      ((∀ block ∈ blocks, includes block = false) ∨
          ∃ block ∈ blocks, includes block = true ∧ chosen block = true ∧
            canMatch block = true) ∧
        ∀ block ∈ blocks, includes block = false →
          (chosen block && canMatch block) = false := by
  simp only [Logged, choose, List.mem_map, forall_exists_index, and_imp,
    forall_apply_eq_imp_iff₂, exists_exists_and_eq_and, Bool.and_eq_true]

/-- Every event is logged exactly when no block restricts: none includes, and no exclude block
can match. -/
theorem logged_always_iff :
    (∀ assignment : Assignment canMatch blocks, assignment.Logged includes) ↔
      ∀ block ∈ blocks, includes block = false ∧ canMatch block = false := by
  constructor
  · intro always
    have silent := (logged_choose_iff fun _ => false).mp (always (choose _ _ _))
    have full := (logged_choose_iff fun _ => true).mp (always (choose _ _ _))
    have noInclude : ∀ block ∈ blocks, includes block = false := by
      rcases silent.1 with none | ⟨block, _, _, absurdity, _⟩
      · exact none
      · cases absurdity
    intro block member
    exact ⟨noInclude block member, full.2 block member (noInclude block member)⟩
  · intro free assignment
    refine ⟨Or.inl ?_, ?_⟩
    · intro mark member
      exact (free mark.1 (assignment.mem_blocks member)).1
    · intro mark member _
      exact assignment.admissible mark member (free mark.1 (assignment.mem_blocks member)).2

/-- No event is logged exactly when there are include blocks and none of them can match. -/
theorem logged_never_iff :
    (∀ assignment : Assignment canMatch blocks, ¬assignment.Logged includes) ↔
      (∃ block ∈ blocks, includes block = true) ∧
        ∀ block ∈ blocks, includes block = true → canMatch block = false := by
  constructor
  · intro never
    have refused := never (choose canMatch blocks includes)
    rw [logged_choose_iff] at refused
    have quiet : ∀ block ∈ blocks, includes block = false →
        (includes block && canMatch block) = false := by
      intro block _ excludes
      rw [excludes, Bool.false_and]
    have noPass := fun passes => refused ⟨passes, quiet⟩
    rw [← Not, not_or] at noPass
    push Not at noPass
    simp only [ne_eq, Bool.not_eq_false, Bool.not_eq_true] at noPass
    refine ⟨noPass.1, ?_⟩
    intro block member includesIt
    exact noPass.2 block member includesIt includesIt
  · intro given assignment logged
    rcases given with ⟨⟨block, member, includesIt⟩, unable⟩
    rcases logged.1 with none | ⟨mark, marked, includesMark, matched⟩
    · obtain ⟨mark, marked, same⟩ := assignment.exists_mark member
      have excludes := none mark marked
      rw [same, includesIt] at excludes
      cases excludes
    · have blocked := assignment.admissible mark marked
        (unable mark.1 (assignment.mem_blocks marked) includesMark)
      rw [matched] at blocked
      cases blocked

end Assignment

end Sigmascope.Library
