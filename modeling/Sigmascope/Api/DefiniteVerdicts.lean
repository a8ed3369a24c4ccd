import Sigmascope.Api.LinuxGaps
import Sigmascope.Api.Windows

/-!
What a definite verdict says about the collected state. COVERED and NOT_COVERED are taken apart
into the facts that the evaluators asked for, one provider at a time.
-/

namespace Sigmascope

set_option autoImplicit false

open Sigmascope.Library

section Auditd

variable {collection : AuditdCollection} {arch : String} {provider : AuditdProvider}

/-- What the rules say to a provider of a running system. -/
def RulesSay (rules arch : String) (provider : AuditdProvider) (verdict : Verdict) : Prop :=
  let parsed := parseAuditdRules "auditctl -l" rules
  (provider.requirement = some "process_creation" ∧
    (evaluateProcessCreation parsed arch).1 = verdict) ∨
    (provider.requirement = some "file_watch" ∧ (evaluateFileWatch parsed).1 = verdict)

theorem gate_value_int {status key : String} {value : GateValue}
    (found : gateValue (parseAuditdStatus "auditctl -s" status).gates ("auditd." ++ key) =
      some value) : ∃ number, value = .int number := by
  simp only [parseAuditdStatus] at found
  rw [status_gate_eq] at found
  obtain ⟨entry, _, rfl⟩ := Option.map_eq_some_iff.mp found
  exact ⟨entry.1, rfl⟩

theorem gate_value_nonzero (key : String) {status : String}
    (known : gateValue (parseAuditdStatus "auditctl -s" status).gates ("auditd." ++ key) ≠ none)
    (nonzero : ¬(gateValue (parseAuditdStatus "auditctl -s" status).gates
      ("auditd." ++ key)).any GateValue.eqZero = true) :
    ∃ value, value ≠ 0 ∧ gateValue (parseAuditdStatus "auditctl -s" status).gates
      ("auditd." ++ key) = some (.int value) := by
  obtain ⟨value, found⟩ := Option.ne_none_iff_exists'.mp known
  obtain ⟨number, rfl⟩ := gate_value_int found
  refine ⟨number, ?_, found⟩
  rintro rfl
  rw [found] at nonzero
  exact nonzero rfl

/-- A status that is readable and without a zero is the one of a running system. -/
theorem running_status (known : (parsedStatus collection).determinacy ≠ .unknown)
    (enabled : gateValue (parsedStatus collection).gates "auditd.enabled" ≠ none)
    (pid : gateValue (parsedStatus collection).gates "auditd.pid" ≠ none)
    (nonzero : ¬(gateValue (parsedStatus collection).gates "auditd.enabled").any
      GateValue.eqZero = true)
    (alive : ¬(gateValue (parsedStatus collection).gates "auditd.pid").any
      GateValue.eqZero = true) :
    ∃ status, collection.status = some status ∧ RunningStatus status := by
  cases shown : collection.status with
  | none =>
      simp only [parsedStatus, shown, unreadResult] at known
      exact absurd rfl known
  | some status =>
      simp only [parsedStatus, shown] at known enabled pid nonzero alive
      have first := @gate_value_nonzero "enabled" status
      have second := @gate_value_nonzero "pid" status
      simp only [String.reduceAppend] at first second
      refine ⟨status, rfl, ?_, first enabled nonzero, second pid alive⟩
      cases determinacy : (parseAuditdStatus "auditctl -s" status).determinacy with
      | effective => rfl
      | unknown => exact absurd determinacy known

/-- A definite verdict about auditd has one of three reasons. -/
theorem auditd_verdict_definite {verdict : Verdict} (definite : verdict ≠ .indeterminate)
    (given : (auditdVerdict collection arch provider).1 = verdict) :
    (collection.installed = some false ∧ verdict = .notCovered) ∨
      (collection.installed = some true ∧ verdict = .notCovered ∧
        (CarriesZero (parsedStatus collection) "enabled" ∨
          CarriesZero (parsedStatus collection) "pid")) ∨
      ∃ rules status, collection.installed = some true ∧
        collection.effectiveRules = some rules ∧ collection.status = some status ∧
        RunningStatus status ∧ RulesSay rules arch provider verdict := by
  have refused : ∀ text : String, (Verdict.indeterminate, text).1 ≠ verdict :=
    fun _ same => definite same.symm
  unfold auditdVerdict at given
  cases installed : collection.installed with
  | none =>
      rw [installed] at given
      exact absurd given (refused _)
  | some flag =>
      cases flag with
      | false =>
          rw [installed] at given
          exact Or.inl ⟨rfl, given.symm⟩
      | true =>
          right
          rw [installed] at given
          dsimp only at given
          split at given
          · rename_i disabled
            exact Or.inl ⟨rfl, given.symm,
              Or.inl ((parsed_status_zero_iff collection "enabled").mp disabled)⟩
          · rename_i enabled
            split at given
            · rename_i stopped
              exact Or.inl ⟨rfl, given.symm,
                Or.inr ((parsed_status_zero_iff collection "pid").mp stopped)⟩
            · rename_i running
              split at given
              · exact absurd given (refused _)
              · rename_i unknown
                simp only [not_or] at unknown
                obtain ⟨status, shown, alive⟩ :=
                  running_status unknown.1 unknown.2.1 unknown.2.2 enabled running
                split at given
                · exact absurd given (refused _)
                · rename_i read
                  obtain ⟨rules, listed⟩ := Option.ne_none_iff_exists'.mp read
                  refine Or.inr ⟨rules, status, rfl, listed, shown, alive, ?_⟩
                  simp only [parsedRules, listed] at given
                  split at given
                  · rename_i process
                    exact Or.inl ⟨process, given⟩
                  · split at given
                    · rename_i file
                      exact Or.inr ⟨file, given⟩
                    · exact absurd given (refused _)

end Auditd

section Sysmon

variable {sysmon : SysmonCollection} {parsed : Option ParseResult}

theorem sysmon_ready_parsed {result : ParseResult}
    (ready : sysmonReady sysmon parsed = .inr result) :
    sysmon.installed = some true ∧ sysmon.running = some true ∧ parsed = some result := by
  unfold sysmonReady at ready
  split at ready
  · cases ready
  · cases ready
  · rename_i installed
    split at ready
    · cases ready
    · cases ready
    · rename_i running
      split at ready
      · cases ready
      · cases ready
        exact ⟨installed, running, rfl⟩

theorem sysmon_unready_verdict {verdict : Verdict} {explanation : String}
    (unready : sysmonReady sysmon parsed = .inl (verdict, explanation)) :
    verdict = .indeterminate ∨ verdict = .notCovered ∧
      (sysmon.installed = some false ∨
        sysmon.installed = some true ∧ sysmon.running = some false) := by
  unfold sysmonReady at unready
  split at unready
  · rename_i absent
    cases unready
    exact Or.inr ⟨rfl, Or.inl absent⟩
  · cases unready
    exact Or.inl rfl
  · rename_i installed
    split at unready
    · rename_i stopped
      cases unready
      exact Or.inr ⟨rfl, Or.inr ⟨installed, stopped⟩⟩
    · cases unready
      exact Or.inl rfl
    · split at unready
      · cases unready
        exact Or.inl rfl
      · cases unready

/-- A definite verdict about Sysmon is the one of a disabled channel, or of the configuration. -/
theorem evaluate_sysmon_definite {result : ParseResult} {config : ChannelConfig}
    {eventType : String} {verdict : Verdict} (definite : verdict ≠ .indeterminate)
    (given : (evaluateSysmon result config eventType).1 = verdict) :
    (config.enabled = some false ∧ verdict = .notCovered) ∨
      (config.Open ∧ (evaluateEventType result eventType).1 = verdict) := by
  unfold evaluateSysmon at given
  rcases channel_cases config with ⟨disabled, _⟩ | isOpen | ⟨notDisabled, unknown, _⟩
  · rw [if_pos disabled] at given
    exact Or.inl ⟨disabled, given.symm⟩
  · obtain ⟨enabled, faultless⟩ := isOpen
    rw [if_neg (by rw [enabled]; decide), if_neg (by rw [faultless, enabled]; decide)] at given
    exact Or.inr ⟨⟨enabled, faultless⟩, given⟩
  · rw [if_neg notDisabled, if_pos unknown] at given
    exact absurd given.symm definite

end Sysmon

end Sigmascope
