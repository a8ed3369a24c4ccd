import Sigmascope.Api.HostEvidence
import Sigmascope.Evaluate.ExitFilter

/-!
From the kernel to the report and back. A kernel filters exits of system calls by its loaded
rules, auditctl prints these rules, the run reads the text and judges it; when the report says
COVERED, the kernel that printed the text records every exec.
-/

namespace Sigmascope.Host

set_option autoImplicit false

open Sigmascope.Library Sigmascope.Library.PyText

/-- Loaded rules that the printed text determines: system calls by their names, and at most one
filter on the architecture in a rule. -/
structure NamedRules (rules : List ListedRule) : Prop where
  plain : ∀ listed ∈ rules, listed.Plain
  symbolic : ∀ listed ∈ rules, ∀ name ∈ listed.names, isDigit name = false
  once : ∀ listed ∈ rules, (listed.predicates.filter fun item => item.field == "arch").length ≤ 1
  shape : ∀ listed ∈ rules, ∀ item ∈ listed.predicates, item.field = "arch" →
    item.op = .eq ∧ (item.value = "b64" ∨ item.value = "b32")

/-- No task is left without a context, and of the exit rules the first one that matches an exec,
on either architecture and whatever its other properties are, is an always rule. -/
def ExitRecordsExec (rules : List ListedRule) : Prop :=
  let loaded := listedRules "auditctl -l" rules
  (∀ rule ∈ loaded, rule.effect = .excluded → rule.onList "task" = false) ∧
  ∀ pair ∈ requiredPairs, ∀ truth : Predicate → Bool, ∃ first,
    exitDecider loaded (archEvent pair.1 pair.2 truth) = some first ∧ first.effect = .included

/-- Every exec is recorded, and no record of it is dropped: a rule on the exclude list drops what
it matches, whether it is written with always or with never. -/
def RecordsEveryExec (rules : List ListedRule) : Prop :=
  ExitRecordsExec rules ∧
    ∀ rule ∈ listedRules "auditctl -l" rules, rule.onList "exclude" = false

/-- The exclude rules that the report does not look at. -/
def AlwaysExcludes (rules : List ListedRule) : Prop :=
  ∃ rule ∈ listedRules "auditctl -l" rules,
    rule.effect = .included ∧ rule.onList "exclude" = true

theorem listed_rules_increasing (sourceId : String) (rules : List ListedRule) :
    (listedRules sourceId rules).Pairwise fun left right => left.order < right.order := by
  rw [listedRules, List.pairwise_map]
  change (rules.zipIdx 1).Pairwise fun left right => left.2 < right.2
  rw [← List.pairwise_map (f := Prod.snd) (R := fun left right : Nat => left < right),
    List.zipIdx_map_snd]
  exact List.pairwise_lt_range' 1 Nat.one_pos

theorem listed_single_arch {rules : List ListedRule} (named : NamedRules rules) :
    SingleArch (listedRules "auditctl -l" rules) := by
  constructor
  · intro rule member
    obtain ⟨listed, inside, order, origin, rfl⟩ := mem_listed_rules (mem_exit_list.mp member).1
    exact named.once listed inside
  · intro rule member predicate held
    obtain ⟨listed, inside, order, origin, rfl⟩ := mem_listed_rules (mem_exit_list.mp member).1
    obtain ⟨carried, field⟩ := mem_predicates_on.mp held
    exact named.shape listed inside predicate carried field

/-- A listing that is reported as covered comes from a kernel that records every exec, but for the
always rules on its exclude list. -/
theorem covered_listing_records {rules : List ListedRule} (named : NamedRules rules)
    {arch : String} (x86 : isX86 arch = true)
    (covered : (evaluateProcessCreation
      (parseAuditdRules "auditctl -l" (listingText rules)) arch).1 = .covered) :
    ExitRecordsExec rules ∧ (RecordsEveryExec rules ↔ ¬AlwaysExcludes rules) := by
  have provided : rules ≠ [] := by
    rintro rfl
    simp [evaluateProcessCreation, empty_listing_unknown] at covered
  rw [parse_listing "auditctl -l" provided named.plain] at covered
  obtain ⟨unsuppressed, selection⟩ := (exec_covered_iff arch rfl).mp covered
  rw [Selection, if_pos x86] at selection
  have recorded : ExitRecordsExec rules := by
    refine ⟨fun rule member never => (unsuppressed rule member never).1, ?_⟩
    intro pair required truth
    have increasing := (listed_rules_increasing "auditctl -l" rules).filter
      fun rule => rule.onList "exit"
    exact selection_decides_include increasing (listed_single_arch named) selection required
  refine ⟨recorded, ?_, ?_⟩
  · rintro ⟨_, clear⟩ ⟨rule, member, _, listed⟩
    rw [clear rule member] at listed
    cases listed
  · intro unlisted
    refine ⟨recorded, ?_⟩
    intro rule member
    cases action : rule.effect with
    | excluded => exact (unsuppressed rule member action).2
    | included =>
        rw [← Bool.not_eq_true]
        exact fun listed => unlisted ⟨rule, member, action, listed⟩

variable (facts : HostFacts)

/-- COVERED on an x86-64 host means that the run read the rules and the status of a running
system with auditctl, and that any kernel whose listing is the text that was read records every
exec: without exception when it has no always rule on its exclude list, and only then. -/
theorem covered_run_records_exec (environment : Program.Environment hostInterface)
    {report : Report} (finished : (Program.run environment [] (run facts false)).1 = .ok report)
    (linux : report.host.os = "linux") (x86 : isX86 report.host.arch = true) {finding : Finding}
    (member : finding ∈ report.findings)
    (about : finding.logsource = linuxProcessCreation.logsource)
    (covered : finding.verdict = .covered) :
    ∃ executable listing status,
      Located (Program.run environment [] (run facts false)).2 executable ∧
      Answered facts (Program.run environment [] (run facts false)).2 executable "-l" listing ∧
      Answered facts (Program.run environment [] (run facts false)).2 executable "-s" status ∧
      RunningStatus status ∧
      ∀ rules, NamedRules rules → listing = listingText rules →
        ExitRecordsExec rules ∧ (RecordsEveryExec rules ↔ ¬AlwaysExcludes rules) := by
  obtain ⟨events, history, traces⟩ := Program.run_traces environment [] (run facts false)
  rw [finished] at traces
  rw [history, List.nil_append]
  obtain ⟨requirement, mapped, source, stands, _⟩ :=
    (run_traces_stand traces).requirement member
  have listed : requirement ∈ linuxMappings := by
    rwa [linux, mappingsByOs, if_neg (by decide), if_pos rfl] at mapped
  have process : requirement = linuxProcessCreation := by
    simp only [linuxMappings, List.mem_cons, List.not_mem_nil, or_false] at listed
    rcases listed with rfl | rfl
    · rfl
    · rw [about] at source
      exact absurd source (by decide)
  subst process
  obtain ⟨provider, offered, stands⟩ := stands (Or.inl covered)
  cases List.mem_singleton.mp offered
  rw [covered] at stands
  cases stands with
  | rules located answered shown running said =>
      refine ⟨_, _, _, located, answered, shown, running, ?_⟩
      rintro rules named rfl
      rcases said with ⟨_, verdict⟩ | ⟨file, _⟩
      · exact covered_listing_records named x86 verdict
      · exact absurd file (by decide)

/-- The exec calls of both architectures are recorded. -/
def execRules : List ListedRule :=
  ["b64", "b32"].map fun arch =>
    .syscallRule .included "exit" false
      [.filter ⟨"arch", .eq, arch⟩, .syscalls ["execve", "execveat"], .key "exec"]

def asciiBytes (text : String) : List UInt8 := text.toList.map fun char => char.toNat.toUInt8

/-- The bare host with auditd on it. -/
def auditedHost : Program.Environment hostInterface := fun past query =>
  match query with
  | .which _ => some "/usr/sbin/auditctl"
  | .run [_, argument] =>
      .completed 0 (asciiBytes (if argument = "-l" then listingText execRules else sampleStatus)) []
  | other => bareHost past other

def auditedCollection : AuditdCollection where
  installed := some true
  effectiveRules := some (bareFacts.decodeUtf8 (asciiBytes (listingText execRules)))
  status := some (bareFacts.decodeUtf8 (asciiBytes sampleStatus))
  errors := []

def auditedReport : Report where
  generatedUtc := bareReport.generatedUtc
  host := bareReport.host
  findings := linuxMappings.map (linuxFinding auditedCollection "x86_64")
  diagnostics :=
    (parsedRules auditedCollection).diagnostics ++ (parsedStatus auditedCollection).diagnostics
  collectionErrors := []

theorem covered_run_records_exec_audited :
    ∃ executable listing status,
      Located (Program.run auditedHost [] (run bareFacts false)).2 executable ∧
      Answered bareFacts (Program.run auditedHost [] (run bareFacts false)).2 executable "-l"
        listing ∧
      Answered bareFacts (Program.run auditedHost [] (run bareFacts false)).2 executable "-s"
        status ∧
      RunningStatus status ∧
      ∀ rules, NamedRules rules → listing = listingText rules →
        ExitRecordsExec rules ∧ (RecordsEveryExec rules ↔ ¬AlwaysExcludes rules) := by
  have finished : (Program.run auditedHost [] (run bareFacts false)).1 = .ok auditedReport := rfl
  have member : linuxFinding auditedCollection "x86_64" linuxProcessCreation ∈
      auditedReport.findings := List.mem_map_of_mem (by simp [linuxMappings])
  have covered : (linuxFinding auditedCollection "x86_64" linuxProcessCreation).verdict =
      .covered := by decide +kernel
  exact covered_run_records_exec bareFacts auditedHost finished rfl (by decide) member rfl covered

end Sigmascope.Host
