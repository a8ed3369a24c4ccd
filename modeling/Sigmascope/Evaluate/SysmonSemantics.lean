import Sigmascope.Evaluate.Sysmon
import Sigmascope.Library.FilterBlocks

/-!
The Sysmon verdict against the documented meaning of filter blocks: an exclude match
takes precedence over an include match, and a block without filters matches nothing.
-/

namespace Sigmascope

set_option autoImplicit false

open Sigmascope.Library

def isInclude (rule : Rule) : Bool := rule.effect == .included

def hasFilters (rule : Rule) : Bool := rule.predicates != []

def includesSome (blocks : List Rule) : Bool :=
  blocks.any fun block => isInclude block && hasFilters block

def excludesSome (blocks : List Rule) : Bool :=
  blocks.any fun block => !isInclude block && hasFilters block

theorem not_include_eq (rule : Rule) : (!isInclude rule) = (rule.effect == .excluded) := by
  cases effect : rule.effect <;> simp [isInclude, effect]

/-- The verdict about the blocks of one event type, by what they restrict. -/
theorem evaluate_blocks_verdict (blocks : List Rule) (eventType : String) :
    (evaluateBlocks blocks eventType).1 =
      if blocks.any isInclude then if includesSome blocks then .degraded else .notCovered
      else if excludesSome blocks then .degraded
      else .covered := by
  have present : (blocks.filter fun rule => rule.effect == .included) ≠ [] ↔
      blocks.any isInclude = true := by
    rw [ne_eq, List.filter_eq_nil_iff, List.any_eq_true]
    push Not
    rfl
  have includes : ((blocks.filter fun rule => rule.effect == .included).any
      fun rule => rule.predicates != []) = includesSome blocks := by
    rw [List.any_filter]
    rfl
  have excludes : ((blocks.filter fun rule => rule.effect == .excluded).any
      fun rule => rule.predicates != []) = excludesSome blocks := by
    rw [List.any_filter, excludesSome]
    simp only [not_include_eq]
    rfl
  unfold evaluateBlocks
  by_cases empty : blocks = []
  · simp [empty, excludesSome]
  · simp only [if_neg empty, includes, excludes, present]
    cases blocks.any isInclude with
    | true =>
        simp only [if_true]
        cases includesSome blocks <;> cases excludesSome blocks <;> rfl
    | false =>
        simp only [Bool.false_eq_true, if_false]
        cases excludesSome blocks <;> rfl

theorem logged_always_iff_verdict (blocks : List Rule) (eventType : String) :
    (evaluateBlocks blocks eventType).1 = .covered ↔
      ∀ assignment : Assignment hasFilters blocks, assignment.Logged isInclude := by
  rw [Assignment.logged_always_iff, evaluate_blocks_verdict]
  cases included : blocks.any isInclude with
  | true =>
      obtain ⟨block, member, isIncluded⟩ := List.any_eq_true.mp included
      constructor
      · cases includesSome blocks <;> simp
      · intro free
        rw [(free block member).1] at isIncluded
        cases isIncluded
  | false =>
      rw [List.any_eq_false] at included
      cases excluded : excludesSome blocks with
      | true =>
          obtain ⟨block, member, restricts⟩ := List.any_eq_true.mp excluded
          simp only [Bool.and_eq_true] at restricts
          constructor
          · simp
          · intro free
            rw [(free block member).2] at restricts
            cases restricts.2
      | false =>
          simp only [excludesSome, List.any_eq_false, Bool.and_eq_true, not_and,
            Bool.not_eq_true, Bool.not_eq_true'] at excluded included
          simp only [Bool.false_eq_true, if_false, true_iff]
          intro block member
          exact ⟨included block member, excluded block member (included block member)⟩

theorem logged_never_iff_verdict (blocks : List Rule) (eventType : String) :
    (evaluateBlocks blocks eventType).1 = .notCovered ↔
      ∀ assignment : Assignment hasFilters blocks, ¬assignment.Logged isInclude := by
  rw [Assignment.logged_never_iff, evaluate_blocks_verdict, ← List.any_eq_true]
  cases blocks.any isInclude with
  | false => cases excludesSome blocks <;> simp
  | true =>
      cases restricted : includesSome blocks with
      | true =>
          obtain ⟨block, member, restricts⟩ := List.any_eq_true.mp restricted
          rw [Bool.and_eq_true] at restricts
          constructor
          · simp
          · intro given
            rw [given.2 block member restricts.1] at restricts
            cases restricts.2
      | false =>
          simp only [includesSome, List.any_eq_false, Bool.and_eq_true, not_and,
            Bool.not_eq_true] at restricted
          simp only [Bool.false_eq_true, if_false, if_true, true_and, true_iff]
          exact restricted

theorem evaluate_blocks_trichotomy (blocks : List Rule) (eventType : String) :
    (evaluateBlocks blocks eventType).1 = .degraded ↔
      (evaluateBlocks blocks eventType).1 ≠ .covered ∧
        (evaluateBlocks blocks eventType).1 ≠ .notCovered := by
  rw [evaluate_blocks_verdict]
  split
  · split <;> simp
  · split <;> simp

/-- With no gate in the way, the verdict says under which matches of its blocks an event of
the type is logged: under all of them, under none, or under some. -/
theorem event_type_verdict_semantics (parsed : ParseResult) (eventType : String)
    (effective : parsed.determinacy = .effective)
    (enabled : ∀ key, summaryGate eventType = some key →
      gateValue parsed.gates key ≠ some (.bool false) ∧
        gateValue parsed.gates key ≠ some (.str "unknown")) :
    let verdict := (evaluateEventType parsed eventType).1
    let always := ∀ assignment : Assignment hasFilters (matchingRules parsed eventType),
      assignment.Logged isInclude
    let never := ∀ assignment : Assignment hasFilters (matchingRules parsed eventType),
      ¬assignment.Logged isInclude
    (verdict = .covered ↔ always) ∧ (verdict = .notCovered ↔ never) ∧
      (verdict = .degraded ↔ ¬always ∧ ¬never) := by
  have passed : evaluateEventType parsed eventType =
      evaluateBlocks (matchingRules parsed eventType) eventType := by
    unfold evaluateEventType
    cases gated : summaryGate eventType with
    | none => simp [effective]
    | some key =>
        obtain ⟨notFalse, notUnknown⟩ := enabled key gated
        simp [effective, notFalse, notUnknown]
  intro verdict always never
  have coveredIff : verdict = .covered ↔ always := by
    simp only [verdict, always, passed]
    exact logged_always_iff_verdict _ eventType
  have notCoveredIff : verdict = .notCovered ↔ never := by
    simp only [verdict, never, passed]
    exact logged_never_iff_verdict _ eventType
  refine ⟨coveredIff, notCoveredIff, ?_⟩
  rw [← coveredIff, ← notCoveredIff]
  simp only [verdict, passed]
  exact evaluate_blocks_trichotomy _ eventType

def eventBlock (effect : Effect) (predicates : List Predicate) (order : Nat) : Rule where
  effect := effect
  selector := .event ⟨"ImageLoad"⟩
  predicates := predicates
  order := order
  origin := ⟨"sysmon -c", "line " ++ toString order⟩
  raw := ""

/-- An empty include block, a filtered include block and an empty exclude block. -/
def mixedBlocks : ParseResult where
  determinacy := .effective
  gates := [⟨"sysmon.ImageLoad.enabled", .bool true, ⟨"sysmon -c", "line 1"⟩⟩]
  rules :=
    [eventBlock .included [] 1, eventBlock .included [⟨"Image", .contains, "ntdll"⟩] 2,
      eventBlock .excluded [] 3]

theorem event_type_verdict_semantics_mixed :
    let verdict := (evaluateEventType mixedBlocks "ImageLoad").1
    let always := ∀ assignment : Assignment hasFilters (matchingRules mixedBlocks "ImageLoad"),
      assignment.Logged isInclude
    let never := ∀ assignment : Assignment hasFilters (matchingRules mixedBlocks "ImageLoad"),
      ¬assignment.Logged isInclude
    (verdict = .covered ↔ always) ∧ (verdict = .notCovered ↔ never) ∧
      (verdict = .degraded ↔ ¬always ∧ ¬never) :=
  event_type_verdict_semantics mixedBlocks "ImageLoad" rfl (by
    intro key gated
    cases gated
    decide)

end Sigmascope
