import Sigmascope.Api.Linux
import Sigmascope.Evaluate.AuditdCoverage
import Sigmascope.Evaluate.FileWatch
import Sigmascope.Parse.CanonicalListing

/-!
Definite gaps. A host whose rules are readable and irrelevant to a requirement is
to be reported NOT_COVERED, from the printed listing to the finding. The listing
without any rule is printed as one line that is no rule, and there the report
falls back to INDETERMINATE.
-/

namespace Sigmascope

set_option autoImplicit false

open Sigmascope.Library Sigmascope.Library.PyText

/-- A status that says that auditing is enabled and the daemon is running. -/
structure RunningStatus (status : String) : Prop where
  readable : (parseAuditdStatus "auditctl -s" status).determinacy = .effective
  enabled : ∃ value, value ≠ 0 ∧
    gateValue (parseAuditdStatus "auditctl -s" status).gates "auditd.enabled" = some (.int value)
  running : ∃ value, value ≠ 0 ∧
    gateValue (parseAuditdStatus "auditctl -s" status).gates "auditd.pid" = some (.int value)

/-- The collection of a host with the given rules. -/
def loadedRules (rules : List ListedRule) (status : String) : AuditdCollection where
  installed := some true
  effectiveRules := some (listingText rules)
  status := some status
  errors := []

/-- The rule selects an exec call by name, all calls, or a call by its number. -/
def ListedRule.SelectsExec (listed : ListedRule) : Prop :=
  ∃ name ∈ listed.names, name ∈ ["execve", "execveat", "all"] ∨ isDigit name = true

/-- No always,exit rule is about process creation: each is a watch or names other calls only. -/
def LacksExec (rules : List ListedRule) : Prop :=
  ∀ listed ∈ rules, listed.effect = .included → listed.scope = "exit" →
    ¬listed.SelectsExec ∧ ((∃ path perms key, listed = .watch path perms key) ∨ listed.names ≠ [])

/-- The rule watches a path or directory for writes and attribute changes. -/
def ListedRule.WatchesChanges (listed : ListedRule) : Prop :=
  (∃ target ∈ listed.predicates, target.field = "path" ∨ target.field = "dir") ∧
    ∃ permissions ∈ listed.predicates, permissions.field = "perm" ∧
      'w' ∈ permissions.value.toList ∧ 'a' ∈ permissions.value.toList

def LacksWatch (rules : List ListedRule) : Prop :=
  ∀ listed ∈ rules, listed.effect = .included → ¬listed.WatchesChanges

/-- The verdicts for process creation and for file events of a run on the host. -/
def gapVerdicts (rules : List ListedRule) (status arch : String) : List Verdict :=
  (runLinux (loadedRules rules status) linuxMappings arch).findings.map Finding.verdict

/-- Each requirement that no rule is about is reported as a gap. -/
def GapsReported (rules : List ListedRule) (status arch : String) : Prop :=
  (LacksExec rules → (gapVerdicts rules status arch)[0]? = some .notCovered) ∧
    (LacksWatch rules → (gapVerdicts rules status arch)[1]? = some .notCovered)

section Running

variable {status arch : String} {rules : List ListedRule}

/-- On a running system the rules alone decide. -/
theorem auditd_verdict_running (running : RunningStatus status) (provider : AuditdProvider) :
    auditdVerdict (loadedRules rules status) arch provider =
      if provider.requirement = some "process_creation" then
        evaluateProcessCreation (parseAuditdRules "auditctl -l" (listingText rules)) arch
      else if provider.requirement = some "file_watch" then
        evaluateFileWatch (parseAuditdRules "auditctl -l" (listingText rules))
      else (.indeterminate, "Unknown auditd catalogue requirement.") := by
  obtain ⟨enabledValue, enabledNonzero, enabled⟩ := running.enabled
  obtain ⟨pidValue, pidNonzero, pid⟩ := running.running
  simp [auditdVerdict, loadedRules, parsedStatus, parsedRules, running.readable, enabled, pid,
    GateValue.eqZero, enabledNonzero, pidNonzero]

theorem gap_verdicts_eq (running : RunningStatus status) :
    gapVerdicts rules status arch =
      [(evaluateProcessCreation (parseAuditdRules "auditctl -l" (listingText rules)) arch).1,
        (evaluateFileWatch (parseAuditdRules "auditctl -l" (listingText rules))).1] := by
  have process : (linuxFinding (loadedRules rules status) arch linuxProcessCreation).verdict =
      (auditdVerdict (loadedRules rules status) arch ⟨"auditd", some "process_creation"⟩).1 := rfl
  have file : (linuxFinding (loadedRules rules status) arch linuxFileEvent).verdict =
      (auditdVerdict (loadedRules rules status) arch ⟨"auditd", some "file_watch"⟩).1 := rfl
  simp only [gapVerdicts, runLinux, linuxMappings, List.map_cons, List.map_nil, process, file,
    auditd_verdict_running running, if_true]
  rfl

theorem listed_not_candidate {listed : ListedRule} (order : Nat) (origin : Origin)
    (irrelevant : listed.effect = .included → listed.scope = "exit" → ¬listed.SelectsExec) :
    isCandidate (listed.rule order origin) = false := by
  by_contra candidate
  have parts := candidate_iff.mp (by simpa using candidate)
  obtain ⟨onExit, always, selected⟩ := parts
  obtain ⟨syscall, member⟩ := List.exists_mem_of_ne_nil _ selected
  obtain ⟨target, selects⟩ := mem_selected_syscalls.mp member
  apply irrelevant always (by simpa [Rule.onList, ListedRule.rule] using onExit)
  simp only [Rule.syscalls, ListedRule.rule, List.mem_toFinset] at selects
  rcases selects with all | named
  · exact ⟨"all", all, by simp⟩
  · refine ⟨syscall, named, ?_⟩
    simp only [targetSyscalls, List.mem_cons, List.not_mem_nil, or_false] at target
    simp only [List.mem_cons, List.not_mem_nil, or_false]
    tauto

theorem listed_not_numeric {listed : ListedRule} (order : Nat) (origin : Origin)
    (irrelevant : listed.effect = .included → listed.scope = "exit" → ¬listed.SelectsExec) :
    isNumericRule (listed.rule order origin) = false := by
  by_contra numeric
  simp only [isNumericRule, Bool.not_eq_false, Bool.and_eq_true, beq_iff_eq,
    decide_eq_true_eq] at numeric
  obtain ⟨⟨⟨onExit, always⟩, nonempty⟩, digits⟩ := numeric
  obtain ⟨name, member⟩ := Finset.nonempty_iff_ne_empty.mpr nonempty
  have named : name ∈ listed.names := by
    simpa [Rule.syscalls, ListedRule.rule] using member
  apply irrelevant always (by simpa [Rule.onList, ListedRule.rule] using onExit)
  exact ⟨name, named, Or.inr (digits name member)⟩

theorem mem_listed_rules {sourceId : String} {rule : Rule}
    (member : rule ∈ listedRules sourceId rules) :
    ∃ listed ∈ rules, ∃ order origin, rule = listed.rule order origin := by
  obtain ⟨⟨listed, order⟩, inside, rfl⟩ := List.mem_map.mp member
  exact ⟨listed, List.fst_mem_of_mem_zipIdx inside, order, _, rfl⟩

theorem listed_exec_gap (provided : rules ≠ []) (plain : ∀ listed ∈ rules, listed.Plain)
    (lacks : LacksExec rules) :
    (evaluateProcessCreation (parseAuditdRules "auditctl -l" (listingText rules)) arch).1 =
      .notCovered := by
  rw [parse_listing "auditctl -l" provided plain]
  have idle : execCandidates (listedRules "auditctl -l" rules) = [] := by
    apply List.filter_eq_nil_iff.mpr
    intro rule member
    obtain ⟨listed, inside, order, origin, rfl⟩ := mem_listed_rules member
    have unselected := listed_not_candidate order origin fun always onExit =>
      (lacks listed inside always onExit).1
    rw [unselected]
    simp
  have numeric : (listedRules "auditctl -l" rules).any isNumericRule = false := by
    apply List.any_eq_false.mpr
    intro rule member
    obtain ⟨listed, inside, order, origin, rfl⟩ := mem_listed_rules member
    rw [listed_not_numeric order origin fun always onExit => (lacks listed inside always onExit).1]
    simp
  rw [exec_verdict_no_candidates arch rfl idle, numeric]
  rfl

theorem listed_watch_gap (provided : rules ≠ []) (plain : ∀ listed ∈ rules, listed.Plain)
    (lacks : LacksWatch rules) :
    (evaluateFileWatch (parseAuditdRules "auditctl -l" (listingText rules))).1 = .notCovered := by
  rw [parse_listing "auditctl -l" provided plain]
  have idle : watchTargets (listedRules "auditctl -l" rules) = [] := by
    rw [watch_targets_nil_iff]
    intro rule member target targets
    obtain ⟨listed, inside, order, origin, rfl⟩ := mem_listed_rules member
    obtain ⟨always, watches, predicate, held, isTarget, _⟩ := targets
    apply lacks listed inside always
    constructor
    · refine ⟨predicate, held, ?_⟩
      simpa [isWatchTarget] using isTarget
    · obtain ⟨permissions, found, letters⟩ := List.any_eq_true.mp watches
      obtain ⟨carried, field⟩ := List.mem_filter.mp found
      refine ⟨permissions, carried, by simpa using field, ?_⟩
      simpa using letters
  rw [file_watch_verdict rfl, if_pos (Or.inl idle)]

/-- The line that stands for an empty rule list is reported as no rule. -/
theorem empty_listing_unknown :
    (parseAuditdRules "auditctl -l" (listingText [])).determinacy = .unknown := by decide

/-- An empty rule list is never reported as a gap. -/
theorem empty_listing_unreported (running : RunningStatus status) :
    ¬GapsReported [] status arch := by
  intro reported
  have gap := reported.1 (by simp [LacksExec])
  rw [gap_verdicts_eq running] at gap
  simp [evaluateProcessCreation, empty_listing_unknown] at gap

/-- Gaps are reported for every printed rule list except the empty one. -/
theorem gaps_reported_iff (running : RunningStatus status)
    (plain : ∀ listed ∈ rules, listed.Plain) : GapsReported rules status arch ↔ rules ≠ [] := by
  constructor
  · rintro reported rfl
    exact empty_listing_unreported running reported
  · intro provided
    constructor
    · intro lacks
      rw [gap_verdicts_eq running, listed_exec_gap provided plain lacks]
      rfl
    · intro lacks
      rw [gap_verdicts_eq running, listed_watch_gap provided plain lacks]
      rfl

end Running

def sampleStatus : String := "enabled 1\nfailure 1\npid 827\n"

theorem sample_status_running : RunningStatus sampleStatus where
  readable := by decide
  enabled := ⟨1, by decide, by decide⟩
  running := ⟨827, by decide, by decide⟩

/-- Two rules that are about neither requirement. -/
def irrelevantRules : List ListedRule :=
  [.syscallRule .included "exit" false
      [.filter ⟨"arch", .eq, "b64"⟩, .syscalls ["unlink", "rename"], .key "delete"],
    .watch "/etc/my file" "r" none]

theorem irrelevant_rules_plain : ∀ listed ∈ irrelevantRules, listed.Plain := by
  intro listed member
  simp only [irrelevantRules, List.mem_cons, List.not_mem_nil, or_false] at member
  rcases member with rfl | rfl
  · have scope : CleanScope "exit" :=
      ⟨⟨by decide, none_of_all (by decide), by decide⟩, by decide, by decide⟩
    refine ⟨scope, ?_⟩
    intro item inside
    simp only [List.mem_cons, List.not_mem_nil, or_false] at inside
    rcases inside with rfl | rfl | rfl
    · constructor
      · exact ⟨by decide, by simp [isFieldPart, isAsciiLetter], by decide, by decide, by decide,
          none_of_all (by decide), by decide⟩
      · decide
    · refine ⟨by decide, ?_⟩
      intro name named
      simp only [List.mem_cons, List.not_mem_nil, or_false] at named
      rcases named with rfl | rfl
      · exact ⟨⟨by decide, none_of_all (by decide), by decide⟩, by decide⟩
      · exact ⟨⟨by decide, none_of_all (by decide), by decide⟩, by decide⟩
    · exact ⟨by decide, none_of_all (by decide), by decide⟩
  · refine ⟨⟨by decide, none_of_all (by decide), by decide⟩,
      ⟨by decide, none_of_all (by decide), by decide⟩, ?_⟩
    intro value held
    cases held

theorem gaps_reported_iff_irrelevant :
    GapsReported irrelevantRules sampleStatus "x86_64" ↔ irrelevantRules ≠ [] :=
  gaps_reported_iff sample_status_running irrelevant_rules_plain

/-- With no rule loaded, both requirements end up INDETERMINATE. -/
theorem no_rules_indeterminate :
    LacksExec [] ∧ LacksWatch [] ∧
      gapVerdicts [] sampleStatus "x86_64" = [.indeterminate, .indeterminate] := by
  refine ⟨by simp [LacksExec], by simp [LacksWatch], by decide⟩

end Sigmascope
