import Mathlib.Data.Finset.Insert
import Sigmascope.Evaluate.Auditd
import Sigmascope.Parse.AcceptedLines

/-!
The lines of a listing, as the two auditd evaluators see them: a line that the parser
refuses makes every verdict indeterminate, and a line that it accepts should mean one
thing only.
-/

namespace Sigmascope

set_option autoImplicit false

open Sigmascope.Library Sigmascope.Library.PyText

theorem exec_unknown {parsed : ParseResult} (unknown : parsed.determinacy = .unknown)
    (machineArch : String) : (evaluateProcessCreation parsed machineArch).1 = .indeterminate := by
  rw [evaluateProcessCreation, if_pos unknown]

theorem file_watch_unknown {parsed : ParseResult} (unknown : parsed.determinacy = .unknown) :
    (evaluateFileWatch parsed).1 = .indeterminate := by
  rw [evaluateFileWatch, if_pos unknown]

section Lines

variable {sourceId : String} {line : Text}

theorem read_rule_line_blank (state : List Rule × List Diagnostic) (lineNumber : Nat)
    (blank : strip line = []) : readRuleLine sourceId state (line, lineNumber) = state :=
  if_pos blank

theorem read_rule_line_filled (state : List Rule × List Diagnostic) (lineNumber : Nat)
    (filled : strip line ≠ []) :
    (readRuleLine sourceId state (line, lineNumber)).2 =
      state.2 ++ (parseRule line (lineTokens line) (state.1.length + 1)
        (lineOrigin sourceId lineNumber)).2 := by
  simp only [readRuleLine, if_neg filled]

theorem read_rule_line_diagnostics (state : List Rule × List Diagnostic)
    (numbered : Text × Nat) (reported : state.2 ≠ []) :
    (readRuleLine sourceId state numbered).2 ≠ [] := by
  by_cases blank : strip numbered.1 = []
  · rwa [read_rule_line_blank state numbered.2 blank]
  · rw [read_rule_line_filled state numbered.2 blank]
    exact List.append_ne_nil_of_left_ne_nil reported _

theorem read_rule_lines_diagnostics (lines : List (Text × Nat))
    (state : List Rule × List Diagnostic) (reported : state.2 ≠ []) :
    (lines.foldl (readRuleLine sourceId) state).2 ≠ [] := by
  induction lines generalizing state with
  | nil => exact reported
  | cons numbered lines induction =>
      exact induction _ (read_rule_line_diagnostics state numbered reported)

/-- One line that is not readable is enough to lose the whole listing. -/
theorem refused_line_unknown {data : String} (member : line ∈ splitlines data.toList)
    (filled : strip line ≠ []) (unreadable : ¬Readable (lineTokens line)) :
    (parseAuditdRules sourceId data).determinacy = .unknown := by
  obtain ⟨index, found⟩ := List.mem_iff_getElem?.mp member
  have inside : (line, 1 + index) ∈ (splitlines data.toList).zipIdx 1 :=
    List.mk_add_mem_zipIdx_iff_getElem?.mpr found
  obtain ⟨front, back, split⟩ := List.append_of_mem inside
  apply (determinacy_unknown_iff _).mpr
  rw [split, List.foldl_append, List.foldl_cons]
  apply read_rule_lines_diagnostics
  rw [read_rule_line_filled _ _ filled]
  exact List.append_ne_nil_of_right_ne_nil _ (parse_rule_refused unreadable)

end Lines

/-- What is expected of every line: an accepted one means one thing and its rule does all of it,
and any other one with something on it leaves both evaluators without an answer. -/
structure LineSettled (line : Text) : Prop where
  accepted : ∀ rule order origin,
    parseRule line (lineTokens line) order origin = (some rule, []) →
      Unambiguous (lineTokens line) ∧
        (SaysNever (lineTokens line) → rule.effect = .excluded) ∧
          Carries rule (saidBy (lineTokens line))
  refused : strip line ≠ [] →
    (∀ rule order origin,
      parseRule line (lineTokens line) order origin ≠ (some rule, [])) →
        (∀ order origin, (parseRule line (lineTokens line) order origin).2 ≠ []) ∧
          ∀ sourceId data machineArch, line ∈ splitlines data.toList →
            (parseAuditdRules sourceId data).determinacy = .unknown ∧
              (evaluateProcessCreation (parseAuditdRules sourceId data) machineArch).1 =
                  .indeterminate ∧
                (evaluateFileWatch (parseAuditdRules sourceId data)).1 = .indeterminate

/-- A line is settled exactly when it repeats nothing, or when one of its options is refused on
its own, or when it has neither an action nor a watch, or permissions without a watch. -/
theorem line_settled_iff (line : Text) :
    LineSettled line ↔
      Unambiguous (lineTokens line) ∨
        (∃ token ∈ lineTokens line, readOption token = none) ∨
          (∀ token ∈ lineTokens line,
            isActionToken token = false ∧ isWatchToken token = false) ∨
            ((∃ token ∈ lineTokens line, isPermsToken token = true) ∧
              ∀ token ∈ lineTokens line, isWatchToken token = false) := by
  rw [← not_readable_iff]
  constructor
  · intro settled
    by_cases readable : Readable (lineTokens line)
    · have accepting : ∃ rule,
          parseRule line (lineTokens line) 1 (lineOrigin "" 1) = (some rule, []) :=
        parse_rule_accepts_iff.mpr readable
      obtain ⟨rule, accepted⟩ := accepting
      exact Or.inl (settled.accepted rule 1 (lineOrigin "" 1) accepted).1
    · exact Or.inr readable
  · intro given
    constructor
    · intro rule order origin accepted
      have readable := parse_rule_accepts_iff.mp ⟨rule, accepted⟩
      have unambiguous := given.resolve_right fun unreadable => unreadable readable
      have carries := accepted_carries accepted unambiguous
      refine ⟨unambiguous, ?_, carries⟩
      intro never
      obtain ⟨scope, said⟩ := never
      exact (carries.action (.excluded, scope) (List.mem_filterMap.mpr ⟨_, said, rfl⟩)).1
    · intro filled refused
      have unreadable : ¬Readable (lineTokens line) := by
        intro readable
        obtain ⟨rule, accepted⟩ := parse_rule_accepts_iff.mpr readable
        exact refused rule 1 (lineOrigin "" 1) accepted
      constructor
      · intro order origin
        exact parse_rule_refused unreadable
      · intro sourceId data machineArch member
        have unknown : (parseAuditdRules sourceId data).determinacy = .unknown :=
          refused_line_unknown member filled unreadable
        exact ⟨unknown, exec_unknown unknown machineArch, file_watch_unknown unknown⟩

def neverThenAlways : Text := "-a never,exit -S all -a always,exit -S execve".toList

/-- The last action wins: the line excludes everything first, and its rule includes. -/
theorem never_then_always_unsettled : ¬LineSettled neverThenAlways := by
  intro settled
  have accepted : parseRule neverThenAlways (lineTokens neverThenAlways) 1
        (lineOrigin "auditctl -l" 1) =
      (some
        { effect := .included
          selector := .syscall ⟨{"all", "execve"}, "exit"⟩
          predicates := []
          order := 1
          origin := lineOrigin "auditctl -l" 1
          raw := String.ofList neverThenAlways }, []) := by
    decide +kernel
  have once := (settled.accepted _ _ _ accepted).1.oneAction
  have twice : (lineTokens neverThenAlways).countP isActionToken = 2 := by decide +kernel
  omega

end Sigmascope
