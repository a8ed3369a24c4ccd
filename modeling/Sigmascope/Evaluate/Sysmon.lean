import Sigmascope.Parse.AuditdStatus
import Sigmascope.Parse.SysmonCurrent

/-!
Sysmon generation-coverage evaluation, and the verdicts for a text whose rule
section was never seen.
-/

namespace Sigmascope

set_option autoImplicit false

open Sigmascope.Library Sigmascope.Library.PyText

/-- The gate of the summary that speaks about an event type. -/
def summaryGate (eventType : String) : Option String :=
  [("NetworkConnect", "sysmon.NetworkConnect.enabled"),
    ("ImageLoad", "sysmon.ImageLoad.enabled"),
    ("ProcessAccess", "sysmon.ProcessAccess.enabled")].lookup eventType

def Rule.onEvent (rule : Rule) (eventType : String) : Bool :=
  match rule.selector with
  | .event selector => selector.eventType == eventType
  | .syscall _ => false

def matchingRules (parsed : ParseResult) (eventType : String) : List Rule :=
  parsed.rules.filter fun rule => rule.onEvent eventType

/-- What the filter blocks of one event type leave of its events. -/
def evaluateBlocks (matching : List Rule) (eventType : String) : Verdict × String :=
  let includes := matching.filter fun rule => rule.effect == .included
  let excludes := matching.filter fun rule => rule.effect == .excluded
  let restricts := fun rules : List Rule => rules.any fun rule => rule.predicates != []
  if matching = [] then
    (.covered,
      "Sysmon " ++ eventType ++
        " is absent from EventFiltering; ASSUMED to be logged unfiltered (V1).")
  else if includes ≠ [] then
    if !restricts includes then
      (.notCovered,
        "Sysmon " ++ eventType ++
          " has only empty include blocks; ASSUMED to log no events (V2).")
    else if restricts excludes then
      (.degraded,
        "Sysmon " ++ eventType ++ " is restricted by include filters and exclude filters; " ++
          "documented Sysmon semantics give exclude matches precedence.")
    else
      (.degraded,
        "Sysmon " ++ eventType ++
          " is restricted by include filters, so only matching events are generated.")
  else if restricts excludes then
    (.degraded,
      "Sysmon " ++ eventType ++
        " is restricted by exclude filters, so matching events are omitted.")
  else
    (.covered,
      "Sysmon " ++ eventType ++
        " has only empty exclude blocks; ASSUMED to log all events (V2).")

def evaluateEventType (parsed : ParseResult) (eventType : String) : Verdict × String :=
  let gate := (summaryGate eventType).bind fun key => gateValue parsed.gates key
  if gate = some (.bool false) then
    (.notCovered,
      "Sysmon effective configuration reports " ++ eventType ++ " disabled.")
  else if gate = some (.str "unknown") then
    (.indeterminate,
      "Sysmon effective " ++ eventType ++ " gate could not be determined.")
  else if parsed.determinacy = .unknown then
    (.indeterminate,
      "Sysmon " ++ eventType ++
        " configuration is incomplete or could not be parsed safely.")
  else evaluateBlocks (matchingRules parsed eventType) eventType

/-- A line that opens the rule section. -/
def isSectionMarker (line : Text) : Bool := isRuleVersion line || isNoRules line

/-- The states that the summary lines of a text give for the network connection feature. -/
def networkStates (lines : List Text) : List Text := lines.filterMap networkSummary

/-- The state that the evaluator reads: the first one that the parser recognises. -/
def networkState (lines : List Text) : Option Text := (networkStates lines).find? isNetworkState

section BeforeSection

variable (sourceId : String)

/-- What a line in front of the rule section leaves unchanged, and what it adds. -/
theorem read_summary_line_cases (origin : Origin) (state : SysmonState) (line : Text)
    (unmarked : isNoRules line = false) :
    (networkSummary line = none ∧ readSummaryLine origin state line = state) ∨
    (∃ value, networkSummary line = some value ∧ isNetworkState value = true ∧
      readSummaryLine origin state line =
        { state with
          gates := state.gates ++
            [⟨"sysmon.NetworkConnect.enabled", .bool (value == "enabled".toList), origin⟩] }) ∨
    (∃ value, networkSummary line = some value ∧ isNetworkState value = false ∧
      readSummaryLine origin state line =
        state.report "unrecognised Sysmon network-connection state" origin line) := by
  unfold readSummaryLine
  rw [unmarked]
  cases summary : networkSummary line with
  | none => exact Or.inl ⟨rfl, rfl⟩
  | some value =>
      cases recognised : isNetworkState value with
      | true => exact Or.inr (Or.inl ⟨value, rfl, recognised, by simp [recognised]⟩)
      | false => exact Or.inr (Or.inr ⟨value, rfl, recognised, by simp [recognised]⟩)

/-- A state in which no marker has been read: its gates and diagnostics mirror the
states that the summary lines gave so far. -/
structure BeforeSection (seen : List Text) (state : SysmonState) : Prop where
  outside : state.inRules = false
  closed : state.block = none
  noRules : state.rules = []
  gates : gateValue state.gates "sysmon.NetworkConnect.enabled" =
    (networkState seen).map fun value => .bool (value == "enabled".toList)
  onlyNetwork : ∀ gate ∈ state.gates, gate.key = "sysmon.NetworkConnect.enabled"
  diagnostics : state.diagnostics = [] ↔ ∀ value ∈ networkStates seen, isNetworkState value = true

theorem before_section_start : BeforeSection [] {} where
  outside := rfl
  closed := rfl
  noRules := rfl
  gates := rfl
  onlyNetwork := by simp
  diagnostics := by simp [networkStates]

theorem gate_value_append (gates : List Gate) (gate : Gate) (key : String) :
    gateValue (gates ++ [gate]) key =
      (gateValue gates key).or (if gate.key = key then some gate.value else none) := by
  unfold gateValue
  rw [List.find?_append]
  cases gates.find? fun gate => gate.key == key with
  | some found => rfl
  | none => by_cases same : gate.key = key <;> simp [same]

theorem network_states_append (seen : List Text) (line : Text) :
    networkStates (seen ++ [line]) = networkStates seen ++ (networkSummary line).toList := by
  unfold networkStates
  rw [List.filterMap_append]
  cases summary : networkSummary line <;> simp [summary]

section Step

variable {seen : List Text} {state : SysmonState} {line value : Text}

/-- A line that is silent about the feature changes nothing. -/
theorem before_section_silent (before : BeforeSection seen state)
    (silent : networkSummary line = none) : BeforeSection (seen ++ [line]) state := by
  have states : networkStates (seen ++ [line]) = networkStates seen := by
    simp [network_states_append, silent]
  constructor
  · exact before.outside
  · exact before.closed
  · exact before.noRules
  · rw [networkState, states]
    exact before.gates
  · exact before.onlyNetwork
  · rw [states]
    exact before.diagnostics

theorem before_section_recognised (before : BeforeSection seen state) (origin : Origin)
    (spoken : networkSummary line = some value) (recognised : isNetworkState value = true) :
    BeforeSection (seen ++ [line])
      { state with
        gates := state.gates ++
          [⟨"sysmon.NetworkConnect.enabled", .bool (value == "enabled".toList), origin⟩] } := by
  have states : networkStates (seen ++ [line]) = networkStates seen ++ [value] := by
    simp [network_states_append, spoken]
  constructor
  · exact before.outside
  · exact before.closed
  · exact before.noRules
  · rw [gate_value_append, before.gates, networkState, networkState, states, List.find?_append]
    cases (networkStates seen).find? isNetworkState with
    | some found => rfl
    | none => simp [recognised]
  · intro gate member
    rcases List.mem_append.mp member with old | new
    · exact before.onlyNetwork gate old
    · rw [List.mem_singleton.mp new]
  · rw [states, List.forall_mem_append]
    simpa [recognised] using before.diagnostics

/-- A state that is not recognised leaves the gate as it was and is reported. -/
theorem before_section_strange (before : BeforeSection seen state) (origin : Origin)
    (spoken : networkSummary line = some value) (strange : isNetworkState value = false) :
    BeforeSection (seen ++ [line])
      (state.report "unrecognised Sysmon network-connection state" origin line) := by
  have states : networkStates (seen ++ [line]) = networkStates seen ++ [value] := by
    simp [network_states_append, spoken]
  constructor
  · exact before.outside
  · exact before.closed
  · exact before.noRules
  · rw [networkState, states, List.find?_append]
    simp only [List.find?_cons, strange, List.find?_nil, Option.or_none]
    exact before.gates
  · exact before.onlyNetwork
  · rw [states]
    simp [SysmonState.report, strange]

/-- One line without a marker keeps the invariant. -/
theorem before_section_step (before : BeforeSection seen state) (lineNumber : Nat)
    (unmarked : isSectionMarker line = false) :
    ∃ next, readSysmonLine sourceId state (line, lineNumber) = .ok next ∧
      BeforeSection (seen ++ [line]) next := by
  simp only [isSectionMarker, Bool.or_eq_false_iff] at unmarked
  refine ⟨readSummaryLine (lineOrigin sourceId lineNumber) state line, ?_, ?_⟩
  · simp [readSysmonLine, unmarked.1, before.outside]
  · rcases read_summary_line_cases (lineOrigin sourceId lineNumber) state line unmarked.2 with
      ⟨silent, same⟩ | ⟨value, spoken, recognised, same⟩ | ⟨value, spoken, strange, same⟩
    · rw [same]
      exact before_section_silent before silent
    · rw [same]
      exact before_section_recognised before _ spoken recognised
    · rw [same]
      exact before_section_strange before _ spoken strange

end Step

/-- A run over lines without a marker never raises and keeps the invariant. -/
theorem before_section_run (lines : List Text)
    (unmarked : ∀ line ∈ lines, isSectionMarker line = false) (seen : List Text)
    (state : SysmonState) (before : BeforeSection seen state) (first : Nat) :
    ∃ last, (lines.zipIdx first).foldlM (readSysmonLine sourceId) state = .ok last ∧
      BeforeSection (seen ++ lines) last := by
  induction lines generalizing seen state first with
  | nil =>
      rw [List.append_nil]
      exact ⟨state, rfl, before⟩
  | cons line lines induction =>
      obtain ⟨next, read, kept⟩ :=
        before_section_step sourceId before first (unmarked line (by simp))
      obtain ⟨last, rest, invariant⟩ := induction
        (fun other member => unmarked other (List.mem_cons_of_mem _ member))
        (seen ++ [line]) next kept (first + 1)
      refine ⟨last, ?_, ?_⟩
      · rw [List.zipIdx_cons, List.foldlM_cons, read]
        exact rest
      · rw [List.append_assoc] at invariant
        exact invariant

/-- The result for a text without a marker. -/
theorem parse_unmarked (text : String)
    (unmarked : ∀ line ∈ splitlines text.toList, isSectionMarker line = false) :
    ∃ state, parseSysmonCurrent sourceId text = .ok (sysmonResult state) ∧
      BeforeSection (splitlines text.toList) state := by
  obtain ⟨last, read, invariant⟩ :=
    before_section_run sourceId _ unmarked [] {} before_section_start 1
  refine ⟨last, ?_, invariant⟩
  rw [parseSysmonCurrent, read]
  rfl

end BeforeSection

theorem gate_value_absent {gates : List Gate} {key : String}
    (absent : ∀ gate ∈ gates, gate.key ≠ key) : gateValue gates key = none := by
  unfold gateValue
  rw [Option.map_eq_none_iff, List.find?_eq_none]
  intro gate member
  simpa using absent gate member

/-- The only summary gate that a text can set is the one for network connections. -/
theorem summary_gate_before_section {seen : List Text} {state : SysmonState}
    (before : BeforeSection seen state) (eventType : String) :
    ((summaryGate eventType).bind fun key => gateValue state.gates key) =
      if eventType = "NetworkConnect" then
        (networkState seen).map fun value => .bool (value == "enabled".toList)
      else none := by
  have others : ∀ key, key ≠ "sysmon.NetworkConnect.enabled" →
      gateValue state.gates key = none := by
    intro key other
    apply gate_value_absent
    intro gate member
    rw [before.onlyNetwork gate member]
    exact Ne.symm other
  by_cases network : eventType = "NetworkConnect"
  · subst network
    exact before.gates
  · rw [if_neg network]
    have notNetwork : (eventType == "NetworkConnect") = false := by simpa using network
    unfold summaryGate
    rw [List.lookup_cons, notNetwork, List.lookup_cons]
    cases eventType == "ImageLoad" with
    | true => exact others _ (by decide)
    | false =>
        rw [List.lookup_cons]
        cases eventType == "ProcessAccess" with
        | true => exact others _ (by decide)
        | false => rfl

theorem network_state_disabled {seen : List Text} {value : Text}
    (read : networkState seen = some value) :
    (value == "enabled".toList) = false ↔ value = "disabled".toList := by
  have recognised := List.find?_some read
  simp only [isNetworkState, Bool.or_eq_true, beq_iff_eq] at recognised
  rcases recognised with rfl | rfl
  · decide
  · decide

/-- The summary reports the feature behind the event type as disabled. -/
def SaysDisabled (lines : List Text) (eventType : String) : Prop :=
  eventType = "NetworkConnect" ∧ networkState lines = some "disabled".toList

theorem summary_gate_false_iff {seen : List Text} {state : SysmonState}
    (before : BeforeSection seen state) (eventType : String) :
    ((summaryGate eventType).bind fun key => gateValue state.gates key) = some (.bool false) ↔
      SaysDisabled seen eventType := by
  rw [summary_gate_before_section before, SaysDisabled]
  by_cases network : eventType = "NetworkConnect"
  · rw [if_pos network]
    cases read : networkState seen with
    | none => simp
    | some value =>
        have disabled := network_state_disabled read
        simp only [Option.map_some, Option.some.injEq, GateValue.bool.injEq, network, true_and,
          disabled]
  · simp [network]

theorem summary_gate_not_text {seen : List Text} {state : SysmonState}
    (before : BeforeSection seen state) (eventType text : String) :
    ((summaryGate eventType).bind fun key => gateValue state.gates key) ≠ some (.str text) := by
  rw [summary_gate_before_section before]
  split <;> simp

/-- With no rule block to look at, the evaluator ends in one of three ways. -/
theorem evaluate_before_section {seen : List Text} {state : SysmonState}
    (before : BeforeSection seen state) (eventType : String) :
    (SaysDisabled seen eventType ∧
      (evaluateEventType (sysmonResult state) eventType).1 = .notCovered) ∨
    (¬SaysDisabled seen eventType ∧ state.diagnostics ≠ [] ∧
      (evaluateEventType (sysmonResult state) eventType).1 = .indeterminate) ∨
    (¬SaysDisabled seen eventType ∧ state.diagnostics = [] ∧
      (evaluateEventType (sysmonResult state) eventType).1 = .covered) := by
  have finished : state.finish = state := by
    rw [SysmonState.finish, before.closed]
  have gate := summary_gate_false_iff before eventType
  have notText := summary_gate_not_text before eventType "unknown"
  have noMatch : matchingRules (sysmonResult state) eventType = [] := by
    simp [matchingRules, sysmonResult, finished, before.noRules]
  have gates : (sysmonResult state).gates = state.gates := by
    rw [sysmonResult, finished]
  have determinacy : (sysmonResult state).determinacy = determinacyOf state.diagnostics := by
    rw [sysmonResult, finished]
  simp only [evaluateEventType, gates]
  rw [if_neg notText, determinacy, noMatch]
  by_cases disabled : SaysDisabled seen eventType
  · left
    rw [if_pos (gate.mpr disabled)]
    exact ⟨disabled, rfl⟩
  · right
    rw [if_neg (fun isFalse => disabled (gate.mp isFalse))]
    by_cases clean : state.diagnostics = []
    · right
      rw [if_neg (fun unknown => (determinacy_unknown_iff _).mp unknown clean)]
      exact ⟨disabled, clean, rfl⟩
    · left
      rw [if_pos ((determinacy_unknown_iff _).mpr clean)]
      exact ⟨disabled, clean, rfl⟩

/-- A verdict that claims no more than an unread rule section allows. -/
def ClaimsNothing (parsed : ParseResult) (eventType : String) : Prop :=
  (evaluateEventType parsed eventType).1 ≠ .covered ∧
    ((evaluateEventType parsed eventType).1 = .indeterminate ∨
      ((evaluateEventType parsed eventType).1 = .notCovered ∧
        ∃ gate ∈ parsed.gates, gate.value = .bool false))

/-- Without a rule section the evaluator claims nothing only when the summary holds it
back: some line gives a state that the parser does not know, or the event type is the
one whose feature the summary calls disabled. -/
theorem evaluate_unmarked_exact (sourceId text eventType : String)
    (unmarked : ∀ line ∈ splitlines text.toList, isSectionMarker line = false) :
    (∃ parsed, parseSysmonCurrent sourceId text = .ok parsed ∧ ClaimsNothing parsed eventType) ↔
      (∃ value ∈ networkStates (splitlines text.toList), isNetworkState value = false) ∨
        SaysDisabled (splitlines text.toList) eventType := by
  obtain ⟨state, returned, before⟩ := parse_unmarked sourceId text unmarked
  have strange : (∃ value ∈ networkStates (splitlines text.toList),
      isNetworkState value = false) ↔ state.diagnostics ≠ [] := by
    rw [Ne, before.diagnostics]
    simp
  rw [returned, strange]
  simp only [Except.ok.injEq, exists_eq_left', ClaimsNothing]
  rcases evaluate_before_section before eventType with
    ⟨disabled, verdict⟩ | ⟨enabled, issues, verdict⟩ | ⟨enabled, clean, verdict⟩
  · have carried : ∃ gate ∈ (sysmonResult state).gates, gate.value = .bool false := by
      have value := before.gates
      rw [disabled.2] at value
      obtain ⟨gate, found, isFalse⟩ := Option.map_eq_some_iff.mp value
      refine ⟨gate, ?_, isFalse⟩
      rw [sysmonResult, SysmonState.finish, before.closed]
      exact List.mem_of_find?_eq_some found
    simp [verdict, disabled, carried]
  · simp [verdict, issues]
  · simp [verdict, clean, enabled]

theorem evaluate_unmarked_exact_truncated :
    (∃ parsed, parseSysmonCurrent "sysmon -c" " - Network connection: off\n" = .ok parsed ∧
        ClaimsNothing parsed "ProcessCreate") ↔
      (∃ value ∈ networkStates (splitlines " - Network connection: off\n".toList),
          isNetworkState value = false) ∨
        SaysDisabled (splitlines " - Network connection: off\n".toList) "ProcessCreate" :=
  evaluate_unmarked_exact "sysmon -c" " - Network connection: off\n" "ProcessCreate" (by decide)

/-- Output that ends in front of its rule section is read as full coverage. -/
theorem unseen_section_covered :
    (∀ line ∈ splitlines "System Monitor v15.14\n - Network connection: enabled\n".toList,
      isSectionMarker line = false) ∧
    ((parseSysmonCurrent "sysmon -c"
        "System Monitor v15.14\n - Network connection: enabled\n").toOption.map
      fun parsed => (evaluateEventType parsed "ProcessCreate").1) = some .covered := by
  decide

end Sigmascope
