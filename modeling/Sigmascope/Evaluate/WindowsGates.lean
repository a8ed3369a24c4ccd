import Mathlib.Data.List.Sort
import Mathlib.Data.String.Basic
import Sigmascope.Catalog
import Sigmascope.Collect.Windows
import Sigmascope.Library.PyText

/-!
Windows Security coverage: the channel, the audit subcategory, the field gate and
the standing reservation are asked in this order, and the first one that fails
decides.
-/

namespace Sigmascope

set_option autoImplicit false

open Sigmascope.Library

def findGate (parsed : ParseResult) (key : String) : Option Gate :=
  parsed.gates.find? fun gate => gate.key == key

/-- `text.upper()`. -/
def upperText (text : String) : String := String.ofList (PyText.upper text.toList)

def auditKey (guid : String) : String := "windows.audit." ++ guid

/-- `sorted({...})` of strings. -/
def sortedSet (texts : List String) : List String := texts.dedup.insertionSort (· ≤ ·)

/-- The last questions of `evaluate_windows_audit`, once the subcategory is in a required state. -/
def evaluateFieldGate (provider : WindowsAuditProvider) (registry : ParseResult)
    (auditGate : Gate) : Verdict × String × List Gate :=
  let reservation := fun evidence : List Gate =>
    match provider.necessaryButInsufficient.filter (· != "") with
    | some insufficient => (Verdict.indeterminate, insufficient, evidence)
    | none =>
        (.covered,
          "Windows Security auditing is enabled for subcategory " ++
            upperText provider.subcategoryGuid ++ ".",
          evidence)
  match provider.fieldGate with
  | none => reservation [auditGate]
  | some fieldGate =>
      match findGate registry fieldGate.key with
      | none =>
          (.indeterminate,
            "Windows Security auditing is enabled, but field gate " ++
              fieldGate.key ++ " could not be determined.",
            [auditGate])
      | some gate =>
          if gate.value ≠ .bool true then
            (.degraded, fieldGate.explanation, [auditGate, gate])
          else reservation [auditGate, gate]

/-- The questions of `evaluate_windows_audit` about the gate of the subcategory. -/
def evaluateAuditGate (provider : WindowsAuditProvider) (registry : ParseResult)
    (auditGate : Gate) : Verdict × String × List Gate :=
  let guid := upperText provider.subcategoryGuid
  let required := provider.requiredStates
  if auditGate.value = .str "unknown" ∨ auditGate.value = .str "unchanged" then
    (.indeterminate,
      "Windows Security auditing is present, but audit subcategory " ++
        guid ++ " has no determinate effective state.",
      [auditGate])
  else if auditGate.value.toText ∉ required then
    (.notCovered,
      "Windows Security auditing is present, but audit subcategory " ++
        guid ++ " is " ++ auditGate.value.toText ++ "; required state is " ++
        " or ".intercalate (sortedSet required) ++ ".",
      [auditGate])
  else evaluateFieldGate provider registry auditGate

def evaluateWindowsAudit (provider : WindowsAuditProvider) (auditPolicy registry : ParseResult)
    (channel : ChannelConfig) : Verdict × String × List Gate :=
  let guid := upperText provider.subcategoryGuid
  if channel.enabled = some false then
    (.notCovered,
      "Windows Security auditing is present, but channel " ++ provider.channel ++
        " is disabled.",
      [])
  else if channel.error ≠ none ∨ channel.enabled = none then
    (.indeterminate,
      "Windows Security auditing is present, but channel " ++ provider.channel ++
        " state could not be determined.",
      [])
  else
    match findGate auditPolicy (auditKey guid) with
    | none =>
        (.indeterminate,
          if auditPolicy.determinacy = .unknown then
            "Windows Security auditing is present, but effective audit policy " ++
              "could not be determined."
          else
            "Windows Security auditing is present, but audit subcategory " ++
              guid ++ " was not found in the effective policy.",
          [])
    | some auditGate => evaluateAuditGate provider registry auditGate

section GateValue

variable (provider : WindowsAuditProvider) (registry : ParseResult)

/-- Where a gate was read matters to the evidence only. -/
theorem audit_gate_value {first second : Gate} (value : first.value = second.value) :
    (evaluateAuditGate provider registry first).1 =
        (evaluateAuditGate provider registry second).1 ∧
      (evaluateAuditGate provider registry first).2.1 =
        (evaluateAuditGate provider registry second).2.1 := by
  simp only [evaluateAuditGate, value]
  split
  · exact ⟨rfl, rfl⟩
  · split
    · exact ⟨rfl, rfl⟩
    · cases gated : provider.fieldGate with
      | none =>
          simp only [evaluateFieldGate, gated]
          split <;> exact ⟨rfl, rfl⟩
      | some fieldGate =>
          simp only [evaluateFieldGate, gated]
          cases findGate registry fieldGate.key with
          | none => exact ⟨rfl, rfl⟩
          | some gate =>
              by_cases disabled : gate.value ≠ .bool true
              · simp only [if_pos disabled, and_self]
              · simp only [if_neg disabled]
                split <;> exact ⟨rfl, rfl⟩

/-- Two audit policies with the same determinacy and the same value for the subcategory
lead to the same verdict and explanation. -/
theorem windows_audit_gate_value {first second : ParseResult} (channel : ChannelConfig)
    (determinacy : first.determinacy = second.determinacy)
    (value : (findGate first (auditKey (upperText provider.subcategoryGuid))).map Gate.value =
      (findGate second (auditKey (upperText provider.subcategoryGuid))).map Gate.value) :
    (evaluateWindowsAudit provider first registry channel).1 =
        (evaluateWindowsAudit provider second registry channel).1 ∧
      (evaluateWindowsAudit provider first registry channel).2.1 =
        (evaluateWindowsAudit provider second registry channel).2.1 := by
  simp only [evaluateWindowsAudit, determinacy]
  split
  · exact ⟨rfl, rfl⟩
  · split
    · exact ⟨rfl, rfl⟩
    · cases found : findGate first (auditKey (upperText provider.subcategoryGuid)) with
      | none =>
          rw [found, Option.map_none, eq_comm, Option.map_eq_none_iff] at value
          rw [value]
          exact ⟨rfl, rfl⟩
      | some gate =>
          rw [found, Option.map_some, eq_comm, Option.map_eq_some_iff] at value
          obtain ⟨other, foundOther, same⟩ := value
          rw [foundOther]
          exact audit_gate_value provider registry same.symm

end GateValue

section Definite

variable {provider : WindowsAuditProvider} {auditPolicy registry : ParseResult}
  {auditGate : Gate} {channel : ChannelConfig}

/-- The state is known and not left as it was. -/
def Gate.Settled (gate : Gate) : Prop := gate.value ≠ .str "unknown" ∧ gate.value ≠ .str "unchanged"

theorem field_gate_covered_iff :
    (evaluateFieldGate provider registry auditGate).1 = .covered ↔
      provider.necessaryButInsufficient.filter (· != "") = none ∧
        ∀ fieldGate, provider.fieldGate = some fieldGate →
          ∃ gate, findGate registry fieldGate.key = some gate ∧ gate.value = .bool true := by
  unfold evaluateFieldGate
  cases provider.fieldGate with
  | none => cases provider.necessaryButInsufficient.filter (· != "") <;> simp
  | some fieldGate =>
      cases found : findGate registry fieldGate.key with
      | none => simp [found]
      | some gate =>
          by_cases set : gate.value = .bool true
          · cases provider.necessaryButInsufficient.filter (· != "") <;> simp [set, found]
          · simp [set, found]

theorem field_gate_degraded_iff :
    (evaluateFieldGate provider registry auditGate).1 = .degraded ↔
      ∃ fieldGate, provider.fieldGate = some fieldGate ∧
        ∃ gate, findGate registry fieldGate.key = some gate ∧ gate.value ≠ .bool true := by
  unfold evaluateFieldGate
  cases provider.fieldGate with
  | none => cases provider.necessaryButInsufficient.filter (· != "") <;> simp
  | some fieldGate =>
      cases found : findGate registry fieldGate.key with
      | none => simp [found]
      | some gate =>
          by_cases set : gate.value = .bool true
          · cases provider.necessaryButInsufficient.filter (· != "") <;> simp [set, found]
          · simp [set, found]

theorem field_gate_ne_not_covered :
    (evaluateFieldGate provider registry auditGate).1 ≠ .notCovered := by
  unfold evaluateFieldGate
  cases provider.fieldGate with
  | none => cases provider.necessaryButInsufficient.filter (· != "") <;> simp
  | some fieldGate =>
      cases found : findGate registry fieldGate.key with
      | none => simp [found]
      | some gate =>
          by_cases set : gate.value = .bool true
          · cases provider.necessaryButInsufficient.filter (· != "") <;> simp [set, found]
          · simp [set, found]

/-- COVERED and DEGRADED are for a subcategory in a required state; the field gate tells them
apart. -/
theorem audit_gate_passed_iff {verdict : Verdict}
    (passed : verdict = .covered ∨ verdict = .degraded) :
    (evaluateAuditGate provider registry auditGate).1 = verdict ↔
      auditGate.Settled ∧ auditGate.value.toText ∈ provider.requiredStates ∧
        (evaluateFieldGate provider registry auditGate).1 = verdict := by
  have known : Verdict.indeterminate ≠ verdict := by
    rcases passed with rfl | rfl <;> decide
  have positive : Verdict.notCovered ≠ verdict := by
    rcases passed with rfl | rfl <;> decide
  unfold evaluateAuditGate Gate.Settled
  by_cases undetermined : auditGate.value = .str "unknown" ∨ auditGate.value = .str "unchanged"
  · simp only [if_pos undetermined, known, false_iff, not_and]
    intro settled
    exact (undetermined.elim settled.1 settled.2).elim
  · obtain ⟨settled, changed⟩ := not_or.mp undetermined
    by_cases required : auditGate.value.toText ∈ provider.requiredStates
    · simp [settled, changed, required]
    · simp [settled, changed, required, positive]

theorem audit_gate_not_covered_iff :
    (evaluateAuditGate provider registry auditGate).1 = .notCovered ↔
      auditGate.Settled ∧ auditGate.value.toText ∉ provider.requiredStates := by
  unfold evaluateAuditGate Gate.Settled
  by_cases undetermined : auditGate.value = .str "unknown" ∨ auditGate.value = .str "unchanged"
  · simp only [if_pos undetermined]
    constructor
    · nofun
    · rintro ⟨⟨known, changed⟩, -⟩
      exact (undetermined.elim known changed).elim
  · obtain ⟨known, changed⟩ := not_or.mp undetermined
    by_cases required : auditGate.value.toText ∈ provider.requiredStates
    · simp [known, changed, required, field_gate_ne_not_covered]
    · simp [known, changed, required]

/-- The channel is known to be enabled. -/
def ChannelConfig.Open (channel : ChannelConfig) : Prop :=
  channel.enabled = some true ∧ channel.error = none

/-- A channel is disabled, open, or not known. -/
theorem channel_cases (channel : ChannelConfig) :
    (channel.enabled = some false ∧ ¬channel.Open) ∨ channel.Open ∨
      channel.enabled ≠ some false ∧ (channel.error ≠ none ∨ channel.enabled = none) ∧
        ¬channel.Open := by
  unfold ChannelConfig.Open
  rcases channel with ⟨_ | _ | _, _ | error⟩ <;> simp

/-- The verdict of an open channel is the one of the gate of the subcategory. -/
theorem windows_audit_open (isOpen : channel.Open) (verdict : Verdict)
    (definite : verdict ≠ .indeterminate) :
    (evaluateWindowsAudit provider auditPolicy registry channel).1 = verdict ↔
      ∃ auditGate,
        findGate auditPolicy (auditKey (upperText provider.subcategoryGuid)) = some auditGate ∧
          (evaluateAuditGate provider registry auditGate).1 = verdict := by
  obtain ⟨enabled, faultless⟩ := isOpen
  have notDisabled : channel.enabled ≠ some false := by
    rw [enabled]
    decide
  have known : ¬(channel.error ≠ none ∨ channel.enabled = none) := by
    rw [faultless, enabled]
    decide
  unfold evaluateWindowsAudit
  simp only [if_neg notDisabled, if_neg known]
  cases findGate auditPolicy (auditKey (upperText provider.subcategoryGuid)) with
  | none =>
      constructor
      · intro same
        exact absurd same.symm definite
      · nofun
  | some auditGate =>
      constructor
      · intro same
        exact ⟨auditGate, rfl, same⟩
      · rintro ⟨other, found, same⟩
        rw [Option.some.inj found]
        exact same

theorem windows_audit_passed_iff {verdict : Verdict}
    (passed : verdict = .covered ∨ verdict = .degraded) :
    (evaluateWindowsAudit provider auditPolicy registry channel).1 = verdict ↔
      channel.Open ∧ ∃ auditGate,
        findGate auditPolicy (auditKey (upperText provider.subcategoryGuid)) = some auditGate ∧
          (evaluateAuditGate provider registry auditGate).1 = verdict := by
  have known : Verdict.indeterminate ≠ verdict := by
    rcases passed with rfl | rfl <;> decide
  have positive : Verdict.notCovered ≠ verdict := by
    rcases passed with rfl | rfl <;> decide
  rcases channel_cases channel with ⟨disabled, closed⟩ | isOpen | ⟨notDisabled, unknown, closed⟩
  · simp only [evaluateWindowsAudit, disabled, closed, if_true, false_and, positive]
  · rw [windows_audit_open isOpen _ known.symm, and_iff_right isOpen]
  · simp only [evaluateWindowsAudit, if_neg notDisabled, if_pos unknown, closed, false_and,
      known]

theorem windows_audit_not_covered_iff :
    (evaluateWindowsAudit provider auditPolicy registry channel).1 = .notCovered ↔
      channel.enabled = some false ∨ channel.Open ∧ ∃ auditGate,
        findGate auditPolicy (auditKey (upperText provider.subcategoryGuid)) = some auditGate ∧
          auditGate.Settled ∧ auditGate.value.toText ∉ provider.requiredStates := by
  have gate := @audit_gate_not_covered_iff provider registry
  simp only [← gate]
  rcases channel_cases channel with ⟨disabled, closed⟩ | isOpen | ⟨notDisabled, unknown, closed⟩
  · simp only [evaluateWindowsAudit, disabled, if_true, true_or]
  · have notDisabled : channel.enabled ≠ some false := by
      rw [isOpen.1]
      decide
    rw [windows_audit_open isOpen _ (by decide), and_iff_right isOpen, or_iff_right notDisabled]
  · simp only [evaluateWindowsAudit, if_neg notDisabled, if_pos unknown, closed, false_and,
      or_false, reduceCtorEq]
    exact (iff_false_intro notDisabled).symm

end Definite

end Sigmascope
