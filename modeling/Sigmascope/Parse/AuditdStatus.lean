import Sigmascope.Library.Dict
import Sigmascope.Parse.AuditdRules

/-!
Parser for `auditctl -s` output. Only the enabled flag and the pid of the daemon
are read; a later line for the same key replaces the earlier value.
-/

namespace Sigmascope

set_option autoImplicit false

open Sigmascope.Library Sigmascope.Library.PyText

abbrev StatusValues := Dict String (Int × Origin)

/-- `int(raw.split()[0])`; `none` stands for `ValueError` and `IndexError`. -/
def leadingInt (raw : Text) : Option Int :=
  match words raw with
  | [] => none
  | first :: _ => parseInt first

/-- One round of the line loop of `parse_auditd_status`. -/
def readStatusLine (sourceId : String) (state : StatusValues × List Diagnostic)
    (numbered : Text × Nat) : StatusValues × List Diagnostic :=
  let (line, lineNumber) := numbered
  let (before, separator, raw) := partition ' ' (strip line)
  let key := String.ofList before
  if key ≠ "enabled" ∧ key ≠ "pid" then state
  else
    let origin := lineOrigin sourceId lineNumber
    if !separator then
      (state.1, state.2 ++
        [⟨.warn, "auditctl -s " ++ key ++ " has no value", origin, String.ofList line⟩])
    else
      match leadingInt raw with
      | some value => (state.1.set key (value, origin), state.2)
      | none =>
          (state.1, state.2 ++
            [⟨.warn, "auditctl -s " ++ key ++ " is not numeric", origin, String.ofList line⟩])

def statusGates (values : StatusValues) : List Gate :=
  values.items.map fun item => ⟨"auditd." ++ item.1, .int item.2.1, item.2.2⟩

def missingKeys (values : StatusValues) : List String :=
  ["enabled", "pid"].filter fun key => !values.contains key

def parseAuditdStatus (sourceId data : String) : ParseResult :=
  let (values, issues) :=
    ((splitlines data.toList).zipIdx 1).foldl (readStatusLine sourceId) (Dict.empty, [])
  let missing := missingKeys values
  let diagnostics :=
    if missing = [] then issues
    else issues ++
      [⟨.error, "auditctl -s did not contain valid " ++ " and ".intercalate missing,
        ⟨sourceId, "output"⟩, data⟩]
  { determinacy := determinacyOf diagnostics
    gates := statusGates values
    diagnostics := diagnostics }

/-- The value of the first gate with the given key. -/
def gateValue (gates : List Gate) (key : String) : Option GateValue :=
  (gates.find? fun gate => gate.key == key).map Gate.value

theorem status_gate_eq (values : StatusValues) (key : String) :
    gateValue (statusGates values) ("auditd." ++ key) =
      (values.get? key).map fun value => .int value.1 := by
  simp only [gateValue, statusGates, Dict.get?]
  induction values.items with
  | nil => rfl
  | cons item items induction =>
      obtain ⟨itemKey, itemValue⟩ := item
      by_cases same : itemKey = key
      · simp [same]
      · have apart : (key == itemKey) = false := by simpa using Ne.symm same
        have prefixed : ("auditd." ++ itemKey == "auditd." ++ key) = false := by
          simpa using same
        simp only [List.map_cons, List.find?_cons, prefixed, List.lookup_cons, apart]
        exact induction

/-- The status carries the value zero for a key. -/
def CarriesZero (status : ParseResult) (key : String) : Prop :=
  ∃ gate ∈ status.gates, gate.key = "auditd." ++ key ∧ gate.value = .int 0

theorem carries_zero_iff (sourceId data key : String) :
    CarriesZero (parseAuditdStatus sourceId data) key ↔
      gateValue (parseAuditdStatus sourceId data).gates ("auditd." ++ key) = some (.int 0) := by
  simp only [parseAuditdStatus]
  generalize (((splitlines data.toList).zipIdx 1).foldl (readStatusLine sourceId)
    (Dict.empty, [])).1 = values
  rw [status_gate_eq]
  simp only [CarriesZero, statusGates, List.mem_map, Option.map_eq_some_iff]
  constructor
  · intro given
    rcases given with ⟨_, ⟨⟨itemKey, value⟩, member, rfl⟩, sameKey, isZero⟩
    have same : itemKey = key := (String.append_right_inj _).mp sameKey
    subst same
    exact ⟨value, (Dict.get_eq_some_iff values itemKey value).mpr member, isZero⟩
  · intro given
    rcases given with ⟨value, found, isZero⟩
    exact ⟨_, ⟨(key, value), (Dict.get_eq_some_iff values key value).mp found, rfl⟩, rfl, isZero⟩

end Sigmascope
