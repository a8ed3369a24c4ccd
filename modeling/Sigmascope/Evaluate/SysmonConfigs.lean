import Sigmascope.Evaluate.SysmonSemantics
import Sigmascope.Parse.SysmonRoundTrip

/-!
Which events a Sysmon configuration logs, and what the verdict about its printed text says about
them. The filters of an event are left open: each of them matches or does not.
-/

namespace Sigmascope

set_option autoImplicit false

open Sigmascope.Library Sigmascope.Library.PyText

section Meaning

/-- Which filters match an event. -/
abbrev FilterMatches := ConfigFilter → Bool

def Combination.holds : Combination → List Bool → Bool
  | .all, given => given.all id
  | .any, given => given.any id

def ConfigEntry.holds (found : FilterMatches) : ConfigEntry → Bool
  | .filter item => found item
  | .compound _ combination items => combination.holds (items.map found)

/-- A rule group without filters matches nothing. -/
def ConfigBlock.holds (found : FilterMatches) (block : ConfigBlock) : Bool :=
  block.entries != [] && block.combination.holds (block.entries.map (ConfigEntry.holds found))

namespace SysmonConfig

def blocksOn (config : SysmonConfig) (eventType : String) : List ConfigBlock :=
  config.blocks.filter fun block => String.ofList block.event == eventType

/-- Network connections are watched only when their setting is on. -/
def watches (config : SysmonConfig) (eventType : String) : Bool :=
  eventType != "NetworkConnect" || config.networkConnection

/-- The event is logged: an include group matches, or there is none, and no exclude group does. -/
def Logs (config : SysmonConfig) (eventType : String) (found : FilterMatches) : Prop :=
  config.watches eventType = true ∧
    ((∀ block ∈ config.blocksOn eventType, block.effect = .excluded) ∨
      ∃ block ∈ config.blocksOn eventType, block.effect = .included ∧ block.holds found = true) ∧
    ∀ block ∈ config.blocksOn eventType, block.effect = .excluded → block.holds found = false

end SysmonConfig

end Meaning

section Combinations

/-- When all filters agree, every combination of them says the same. -/
theorem combination_constant (combination : Combination) {given : List Bool} {flag : Bool}
    (filled : given ≠ []) (constant : ∀ item ∈ given, item = flag) :
    combination.holds given = flag := by
  have spread : given = List.replicate given.length flag := List.eq_replicate_of_mem constant
  have long := List.length_pos_of_ne_nil filled
  rw [spread]
  cases combination <;> simp [Combination.holds, Nat.ne_of_gt long]

theorem entry_constant {entry : ConfigEntry} (printable : entry.Printable) (flag : Bool) :
    entry.holds (fun _ => flag) = flag := by
  cases printable with
  | filter printable => rfl
  | compound unlabelled whole filled printable =>
      apply combination_constant
      · simpa using filled
      · intro item member
        obtain ⟨_, _, same⟩ := List.mem_map.mp member
        exact same.symm

theorem block_constant {block : ConfigBlock} (printable : block.Printable) (flag : Bool) :
    block.holds (fun _ => flag) = (block.entries != [] && flag) := by
  by_cases empty : block.entries = []
  · simp [ConfigBlock.holds, empty]
  · have constant : ∀ item ∈ block.entries.map (ConfigEntry.holds fun _ => flag), item = flag := by
      intro item member
      obtain ⟨entry, held, rfl⟩ := List.mem_map.mp member
      exact entry_constant (printable.entries entry held) flag
    rw [ConfigBlock.holds, combination_constant block.combination (by simpa using empty) constant]

theorem empty_block_holds {block : ConfigBlock} (empty : block.entries = [])
    (found : FilterMatches) : block.holds found = false := by
  simp [ConfigBlock.holds, empty]

/-- Every entry of a group shows in the predicates of its rule. -/
theorem block_predicates_nil_iff (block : ConfigBlock) :
    block.predicates = [] ↔ block.entries = [] := by
  rw [ConfigBlock.predicates, List.flatMap_eq_nil_iff]
  constructor
  · intro silent
    rw [List.eq_nil_iff_forall_not_mem]
    intro entry member
    have nothing := silent entry member
    cases entry <;> simp [ConfigEntry.predicates] at nothing
  · intro empty
    simp [empty]

end Combinations

section Verdicts

variable (sourceId : String) {config : SysmonConfig} (eventType : String)

/-- The rules about an event type stand for the groups about it. -/
theorem forall_config_rules (property : Effect → List Predicate → Prop) (order lineNumber : Nat)
    (blocks : List ConfigBlock) :
    (∀ rule ∈ configRules sourceId order lineNumber blocks, rule.onEvent eventType = true →
        property rule.effect rule.predicates) ↔
      ∀ block ∈ blocks, String.ofList block.event = eventType →
        property block.effect block.predicates := by
  induction blocks generalizing order lineNumber with
  | nil => simp [configRules]
  | cons block blocks induction =>
      rw [configRules, List.forall_mem_cons, List.forall_mem_cons, induction]
      simp only [ConfigBlock.rule, Rule.onEvent, beq_iff_eq]

theorem forall_config_matching (property : Effect → List Predicate → Prop) :
    (∀ rule ∈ matchingRules (config.result sourceId) eventType,
        property rule.effect rule.predicates) ↔
      ∀ block ∈ config.blocksOn eventType, property block.effect block.predicates := by
  simp only [matchingRules, SysmonConfig.result, SysmonConfig.blocksOn, List.mem_filter, and_imp,
    beq_iff_eq]
  exact forall_config_rules sourceId eventType property _ _ config.blocks

theorem config_gate :
    ((summaryGate eventType).bind fun key => gateValue (config.result sourceId).gates key) =
      if eventType = "NetworkConnect" then some (.bool config.networkConnection) else none := by
  have others : ∀ key, key ≠ "sysmon.NetworkConnect.enabled" →
      gateValue (config.result sourceId).gates key = none := by
    intro key other
    apply gate_value_absent
    intro gate member
    rw [List.mem_singleton.mp member]
    exact Ne.symm other
  by_cases network : eventType = "NetworkConnect"
  · rw [if_pos network, network]
    rfl
  · have notNetwork : (eventType == "NetworkConnect") = false := by simpa using network
    rw [if_neg network, summaryGate, List.lookup_cons, notNetwork, List.lookup_cons]
    cases eventType == "ImageLoad" with
    | true => exact others _ (by decide)
    | false =>
        rw [List.lookup_cons]
        cases eventType == "ProcessAccess" with
        | true => exact others _ (by decide)
        | false => rfl

/-- The verdict is about the blocks, unless the setting says that there are no events. -/
theorem config_verdict :
    (evaluateEventType (config.result sourceId) eventType).1 =
      if config.watches eventType then
        (evaluateBlocks (matchingRules (config.result sourceId) eventType) eventType).1
      else .notCovered := by
  have effective : (config.result sourceId).determinacy ≠ .unknown := by simp [SysmonConfig.result]
  rw [evaluateEventType]
  simp only [config_gate, if_neg effective, SysmonConfig.watches]
  by_cases network : eventType = "NetworkConnect"
  · rcases Bool.eq_false_or_eq_true config.networkConnection with on | off
    · simp [network, on]
    · simp [network, off]
  · simp [network]

variable {eventType}

theorem config_covered_iff (printable : config.Printable) :
    (evaluateEventType (config.result sourceId) eventType).1 = .covered ↔
      ∀ found, config.Logs eventType found := by
  have free : (evaluateBlocks (matchingRules (config.result sourceId) eventType) eventType).1 =
      .covered ↔ ∀ block ∈ config.blocksOn eventType,
        block.effect = .excluded ∧ block.entries = [] := by
    rw [logged_always_iff_verdict, Assignment.logged_always_iff]
    refine (forall_config_matching sourceId eventType fun effect predicates =>
      (effect == .included) = false ∧ (predicates != []) = false).trans ?_
    apply forall₂_congr
    intro block member
    rw [bne_eq_false_iff_eq, block_predicates_nil_iff]
    cases block.effect <;> simp
  have printed : ∀ block ∈ config.blocksOn eventType, block.Printable :=
    fun block member => printable.blocks block (List.mem_filter.mp member).1
  rw [config_verdict]
  constructor
  · intro covered
    split at covered
    · rename_i watched
      intro found
      have blocks := free.mp covered
      refine ⟨watched, Or.inl fun block member => (blocks block member).1, ?_⟩
      intro block member _
      exact empty_block_holds (blocks block member).2 found
    · cases covered
  · intro always
    -- An event that no filter matches, and one that all filters match.
    obtain ⟨watched, silent, _⟩ := always fun _ => false
    obtain ⟨_, _, full⟩ := always fun _ => true
    rw [if_pos watched]
    apply free.mpr
    have excluded : ∀ block ∈ config.blocksOn eventType, block.effect = .excluded := by
      rcases silent with none | ⟨block, member, _, holds⟩
      · exact none
      · rw [block_constant (printed block member), Bool.and_false] at holds
        cases holds
    intro block member
    have quiet := full block member (excluded block member)
    rw [block_constant (printed block member), Bool.and_true, bne_eq_false_iff_eq] at quiet
    exact ⟨excluded block member, quiet⟩

theorem config_not_covered
    (gap : (evaluateEventType (config.result sourceId) eventType).1 = .notCovered)
    (found : FilterMatches) : ¬config.Logs eventType found := by
  intro logged
  obtain ⟨watched, passes, _⟩ := logged
  rw [config_verdict, if_pos watched, logged_never_iff_verdict,
    Assignment.logged_never_iff] at gap
  obtain ⟨⟨rule, member, included⟩, unable⟩ := gap
  have empty : ∀ block ∈ config.blocksOn eventType, block.effect = .included →
      block.entries = [] := by
    intro block inside isIncluded
    have each := (forall_config_matching sourceId eventType fun effect predicates =>
      (effect == .included) = true → (predicates != []) = false).mp unable block inside
    have nothing := each (by rw [isIncluded]; rfl)
    rwa [bne_eq_false_iff_eq, block_predicates_nil_iff] at nothing
  rcases passes with excluded | ⟨block, inside, isIncluded, holds⟩
  · have none := (forall_config_matching sourceId eventType fun effect _ =>
      effect = .excluded).mpr excluded rule member
    rw [isInclude, none] at included
    cases included
  · rw [empty_block_holds (empty block inside isIncluded)] at holds
    cases holds

end Verdicts

end Sigmascope
