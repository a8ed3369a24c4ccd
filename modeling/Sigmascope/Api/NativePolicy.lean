import Sigmascope.Api.AuditPolicy
import Sigmascope.Collect.AuditpolNative

/-!
Policy states that the program does not know. The native decoder and the table
parser spell them differently, and the evaluator compares spellings.
-/

namespace Sigmascope

set_option autoImplicit false

open Sigmascope.Library Sigmascope.Library.PyText

/-- The flags that stand for a setting. -/
def settledFlags : List UInt32 := [1, 2, 3, 4]

/-- A provider of the catalogue asks for success, failure or both. -/
abbrev CatalogueShape (provider : WindowsAuditProvider) : Prop :=
  ∀ state ∈ provider.requiredStates, state ∈ ["success", "failure", "both"]

theorem policy_state_unknown {flags : Nat} (large : 5 ≤ flags) :
    policyState flags = "unknown:" ++ toString flags := by
  unfold policyState
  split
  all_goals first | omega | rfl

/-- The spelling of an unknown number is none of the spellings that are compared with it. -/
theorem policy_state_unknown_ne {flags : Nat} (large : 5 ≤ flags) {state : String}
    (other : state.toList.take 8 ≠ "unknown:".toList) : policyState flags ≠ state := by
  intro same
  apply other
  rw [← same, policy_state_unknown large, String.toList_append, List.take_append_of_le_length]
  · rfl
  · decide

theorem unsettled_flags_cases {flags : UInt32} (outside : flags ∉ settledFlags) :
    flags = 0 ∨ 5 ≤ flags.toNat := by
  by_cases large : 5 ≤ flags.toNat
  · exact Or.inr large
  · left
    have small : flags.toNat = 0 ∨ ∃ settled ∈ settledFlags, flags.toNat = settled.toNat := by
      simp only [settledFlags, List.mem_cons, List.not_mem_nil, or_false, exists_eq_or_imp,
        exists_eq_left, UInt32.reduceToNat]
      omega
    rcases small with zero | ⟨settled, member, same⟩
    · exact UInt32.toNat_inj.mp zero
    · exact absurd (UInt32.toNat_inj.mp same ▸ member) outside

section Provider

variable (provider : WindowsAuditProvider) (registry : ParseResult)

/-- With its channel open, a provider is judged by the gate of its subcategory. -/
theorem audit_open_channel {channel : ChannelConfig} (policy : ParseResult)
    (enabled : channel.enabled = some true) (noError : channel.error = none) :
    (evaluateWindowsAudit provider policy registry channel).1 =
      ((findGate policy (auditKey (upperText provider.subcategoryGuid))).map
        fun gate => (evaluateAuditGate provider registry gate).1).getD .indeterminate := by
  simp only [evaluateWindowsAudit, enabled, noError]
  cases findGate policy (auditKey (upperText provider.subcategoryGuid)) <;> rfl

theorem audit_gate_undetermined {gate : Gate}
    (value : gate.value = .str "unknown" ∨ gate.value = .str "unchanged") :
    (evaluateAuditGate provider registry gate).1 = .indeterminate := by
  rw [evaluateAuditGate, if_pos value]

/-- Flags without a name are taken for a setting that is not the required one. -/
theorem audit_gate_unsettled (shaped : CatalogueShape provider) {gate : Gate} {flags : UInt32}
    (outside : flags ∉ settledFlags) (value : gate.value = .str (policyState flags.toNat)) :
    (evaluateAuditGate provider registry gate).1 =
      if flags = 0 then .indeterminate else .notCovered := by
  rcases unsettled_flags_cases outside with zero | large
  · rw [if_pos zero]
    apply audit_gate_undetermined
    right
    rw [value, zero]
    rfl
  · have notZero : flags ≠ 0 := by
      intro zero
      rw [zero] at large
      exact absurd large (by decide)
    have determined : ¬(gate.value = .str "unknown" ∨ gate.value = .str "unchanged") := by
      rw [value, GateValue.str.injEq, GateValue.str.injEq, not_or]
      exact ⟨policy_state_unknown_ne large (by decide), policy_state_unknown_ne large (by decide)⟩
    have refused : gate.value.toText ∉ provider.requiredStates := by
      rw [value]
      intro required
      have known := shaped _ required
      simp only [List.mem_cons, List.not_mem_nil, or_false] at known
      rcases known with success | failure | both
      · exact policy_state_unknown_ne large (by decide) success
      · exact policy_state_unknown_ne large (by decide) failure
      · exact policy_state_unknown_ne large (by decide) both
    rw [if_neg notZero, evaluateAuditGate, if_neg determined, if_pos refused]

end Provider

/-- Gate keys are the same when their subcategories are. -/
theorem audit_key_beq (first second : String) :
    (auditKey first == auditKey second) = (first == second) := by
  rw [Bool.eq_iff_iff, beq_iff_eq, beq_iff_eq]
  exact String.append_right_inj _

section Native

theorem lookup_native_gates {states : List (String × String)}
    (spelled : ∀ item ∈ states, upperText item.1 = item.1) (guid : String) :
    ((nativeGates states).map gatePair).lookup (auditKey guid) =
      (states.lookup guid).map GateValue.str := by
  induction states with
  | nil => rfl
  | cons item states induction =>
      have rest := induction fun other member => spelled other (List.mem_cons_of_mem _ member)
      have first := spelled item List.mem_cons_self
      have keys := audit_key_beq guid item.1
      obtain ⟨key, state⟩ := item
      simp only at first keys
      rw [nativeGates, List.map_cons, List.map_cons, ← nativeGates]
      simp only [gatePair, first, List.lookup_cons, keys]
      cases guid == key with
      | true => rfl
      | false => exact rest

theorem policy_states_spelled (buffer : List AuditPolicyInformation) :
    ∀ item ∈ (policyStates buffer).items, upperText item.1 = item.1 := by
  intro item member
  rcases Dict.mem_assign_all_items member with old | new
  · cases old
  · obtain ⟨entry, _, rfl⟩ := List.mem_map.mp new
    exact upper_as_string entry.auditSubCategoryGuid

/-- The gate of a subcategory holds the state of its last entry in the buffer. -/
theorem find_native_gate (before after : List AuditPolicyInformation)
    (entry : AuditPolicyInformation) (determinacy : Determinacy)
    (last : ∀ other ∈ after,
      other.auditSubCategoryGuid.asString ≠ entry.auditSubCategoryGuid.asString) :
    (findGate { determinacy := determinacy
                gates := nativeGates (policyStates (before ++ entry :: after)).items }
        (auditKey entry.auditSubCategoryGuid.asString)).map Gate.value =
      some (.str (policyState entry.auditingInformation.toNat)) := by
  have held : (policyStates (before ++ entry :: after)).get?
      entry.auditSubCategoryGuid.asString =
        some (policyState entry.auditingInformation.toNat) := by
    rw [policyStates, List.map_append, List.map_cons]
    apply Dict.get_assign_all_last
    intro pair member
    obtain ⟨other, listed, rfl⟩ := List.mem_map.mp member
    exact last other listed
  rw [find_gate_lookup, lookup_native_gates (policy_states_spelled _)]
  exact congrArg (Option.map GateValue.str) held

end Native

section Table

def settingText (columns : Columns) (row : Row) : String :=
  String.ofList (cellText (row.getD columns.settingIndex ""))

/-- The row is a data row for the subcategory. -/
def reportsOn (columns : Columns) (guid : String) (row : Row) : Bool :=
  !decide (row.length ≤ max columns.guidIndex columns.settingIndex) &&
    (isGuid (cellText (row.getD columns.guidIndex "")) &&
      canonicalGuid (cellText (row.getD columns.guidIndex "")) == guid)

/-- The setting that a table gives for a subcategory: that of its first data row. -/
def settingCell (rows : List Row) (guid : String) : Option String :=
  (locateColumns none 0 rows).bind fun columns =>
    ((rows.drop columns.firstDataIndex).find? (reportsOn columns guid)).map (settingText columns)

theorem find_row_gate (sourceId : String) (columns : Columns) (guid : String) (row : Row)
    (rowIndex : Nat) :
    ((readAuditpolRow sourceId columns row rowIndex).1.find?
        fun gate => gate.key == auditKey guid).map Gate.value =
      if reportsOn columns guid row then
        some (.str (settingState (settingText columns row)).1)
      else none := by
  unfold readAuditpolRow reportsOn
  by_cases short : row.length ≤ max columns.guidIndex columns.settingIndex
  · simp [short]
  · cases shaped : isGuid (cellText (row.getD columns.guidIndex "")) with
    | false =>
        simp only [if_neg short, shaped, Bool.not_false, if_true, List.find?_nil, Bool.false_and,
          Bool.and_false, Bool.false_eq_true, if_false, Option.map_none]
    | true =>
        have keys :
            ("windows.audit." ++ canonicalGuid (cellText (row.getD columns.guidIndex "")) ==
              auditKey guid) =
            (canonicalGuid (cellText (row.getD columns.guidIndex "")) == guid) :=
          audit_key_beq _ guid
        simp only [shaped, Bool.not_true, Bool.false_eq_true, if_false,
          List.find?_cons, keys, List.find?_nil, short, decide_false, Bool.not_false,
          Bool.true_and]
        cases canonicalGuid (cellText (row.getD columns.guidIndex "")) == guid <;> rfl

/-- The gate that the evaluator finds is that of the first data row. -/
theorem find_rows_gate (sourceId : String) (columns : Columns) (guid : String) (rows : List Row)
    (start : Nat) :
    (((rows.zipIdx start).flatMap fun numbered =>
        (readAuditpolRow sourceId columns numbered.1 numbered.2).1).find?
          fun gate => gate.key == auditKey guid).map Gate.value =
      ((rows.find? (reportsOn columns guid)).map (settingText columns)).map
        fun raw => .str (settingState raw).1 := by
  induction rows generalizing start with
  | nil => rfl
  | cons row rows induction =>
      rw [List.zipIdx_cons, List.flatMap_cons, List.find?_append, Option.map_or,
        find_row_gate, induction, List.find?_cons]
      cases reportsOn columns guid row <;> rfl

theorem find_table_gate (sourceId text : String) (rows : List Row) (guid : String) :
    (findGate (parseAuditpolRows sourceId text rows) (auditKey guid)).map Gate.value =
      (settingCell rows guid).map fun raw => .str (settingState raw).1 := by
  unfold parseAuditpolRows settingCell
  cases locateColumns none 0 rows with
  | none => rfl
  | some columns =>
      simp only [findGate, List.flatMap_map, Option.bind_some]
      exact find_rows_gate sourceId columns guid _ _

theorem setting_state_unsettled {raw : String} (outside : raw ∉ ["1", "2", "3"]) :
    (settingState raw).1 = "unknown" := by
  simp only [List.mem_cons, List.not_mem_nil, or_false, not_or] at outside
  obtain ⟨notOne, notTwo, notThree⟩ := outside
  rw [setting_state_meaning, settingMeaning, if_neg notOne, if_neg notTwo, if_neg notThree]

end Table

/-- What becomes of a state that is no setting. The native path is undetermined for zero only:
any other number is taken for a setting that is not the required one. The table path is
undetermined for every setting cell. -/
theorem unsettled_policy_verdict (provider : WindowsAuditProvider) (registry : ParseResult)
    (channel : ChannelConfig) (requirements : List Requirement) (shaped : CatalogueShape provider)
    (enabled : channel.enabled = some true) (noError : channel.error = none)
    (mapped : provider.subcategoryGuid ∈ policyGuids requirements) :
    (∀ (api : AuditApi) (cli : AuditpolCliCollection) (before after : List AuditPolicyInformation)
        (entry : AuditPolicyInformation),
        api.Returns (policyGuids requirements) (before ++ entry :: after) →
        entry.auditSubCategoryGuid.asString = upperText provider.subcategoryGuid →
        (∀ other ∈ after, other.auditSubCategoryGuid.asString ≠
          entry.auditSubCategoryGuid.asString) →
        entry.auditingInformation ∉ settledFlags →
          ((evaluateWindowsAudit provider
              (nativePolicyResult (collectNativePolicy api) cli requirements).1 registry
              channel).1 = .indeterminate ↔
            entry.auditingInformation = 0)) ∧
      ∀ (collect : List String → NativeAuditPolicy) (cli : AuditpolCliCollection)
        (error : CollectionError) (csvReader : String → List Row) (sourceId text : String),
        (collect (policyGuids requirements)).error = some error →
        cli.parsed = some (parseAuditpolCsv csvReader sourceId text) →
        (∀ cell, settingCell (csvReader text) (upperText provider.subcategoryGuid) = some cell →
          cell ∉ ["1", "2", "3"]) →
          (evaluateWindowsAudit provider (nativePolicyResult collect cli requirements).1 registry
            channel).1 = .indeterminate := by
  constructor
  · intro api cli before after entry returns same last outside
    have collected := collect_native_policy_returns (List.ne_nil_of_mem mapped) returns
    have value := find_native_gate before after entry .effective last
    rw [nativePolicyResult, collected, audit_open_channel _ _ _ enabled noError, ← same]
    obtain ⟨gate, found, value⟩ := Option.map_eq_some_iff.mp value
    rw [found, Option.map_some, Option.getD_some,
      audit_gate_unsettled provider registry shaped outside value]
    split <;> simp_all
  · intro collect cli error csvReader sourceId text failed fallback outside
    rw [nativePolicyResult, failed, fallback, audit_open_channel _ _ _ enabled noError]
    have value := find_table_gate sourceId text (csvReader text)
      (upperText provider.subcategoryGuid)
    rw [← parseAuditpolCsv] at value
    cases found : findGate (parseAuditpolCsv csvReader sourceId text)
        (auditKey (upperText provider.subcategoryGuid)) with
    | none => rfl
    | some gate =>
        rw [found, Option.map_some, eq_comm, Option.map_eq_some_iff] at value
        obtain ⟨cell, held, state⟩ := value
        rw [setting_state_unsettled (outside cell held)] at state
        exact audit_gate_undetermined provider registry (Or.inl state.symm)

/-- The subcategory of process creation. -/
def processCreationGuid : Guid :=
  ⟨0x0CCE922B, 0x69AE, 0x11D9, #v[0xBE, 0xD3, 0x50, 0x50, 0x54, 0x50, 0x30, 0x30]⟩

/-- The interface reports flags that have no name. -/
def strangeApi : AuditApi where
  libraries := .ok ()
  auditQuerySystemPolicy _ _ := .ok [⟨processCreationGuid, 5⟩]
  enableSecurityPrivilege := .ok ()

theorem unsettled_policy_verdict_strange :
    (evaluateWindowsAudit sampleProvider
        (nativePolicyResult (collectNativePolicy strangeApi) ⟨none, none⟩ windowsMappings).1
        unreadResult ⟨some true, none⟩).1 = .indeterminate ↔ (5 : UInt32) = 0 :=
  (unsettled_policy_verdict sampleProvider unreadResult ⟨some true, none⟩ windowsMappings
    (by decide) rfl rfl (by decide +kernel)).1 strangeApi ⟨none, none⟩ [] []
    ⟨processCreationGuid, 5⟩ ⟨rfl, Or.inl rfl⟩ (by decide +kernel) (by decide) (by decide)

/-- Flags that no version of the program knows are reported as a definite gap. -/
theorem strange_flags_reported_gap :
    strangeApi.Returns (policyGuids windowsMappings) [⟨processCreationGuid, 5⟩] ∧
      processCreationGuid.asString = upperText sampleProvider.subcategoryGuid ∧
      (5 : UInt32) ∉ settledFlags ∧ CatalogueShape sampleProvider ∧
      (evaluateWindowsAudit sampleProvider
        (nativePolicyResult (collectNativePolicy strangeApi) ⟨none, none⟩ windowsMappings).1
        unreadResult ⟨some true, none⟩).1 = .notCovered := by
  refine ⟨⟨rfl, Or.inl rfl⟩, by decide +kernel, by decide, by decide, ?_⟩
  decide +kernel

end Sigmascope
