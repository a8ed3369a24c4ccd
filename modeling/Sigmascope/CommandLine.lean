import Sigmascope.Api.HostCoverage
import Sigmascope.Api.HostFailures
import Sigmascope.Api.ReportTable
import Sigmascope.Main

/-!
The command line as one program. A process leaves its output, its complaint and its exit code
behind; a caller that sees only these can check the exit code against the output, and the exit
code says something about the host.
-/

namespace Sigmascope

set_option autoImplicit false

open Sigmascope.Library Sigmascope.Library.PyText

inductive OutputFormat where
  | json
  | table
deriving DecidableEq, Repr

/-- The namespace that `_parser` makes of the arguments. -/
structure Arguments where
  format : OutputFormat := .table
  failOn : FailOn := .none
  printSchema : Bool := false
  printCatalogVersion : Bool := false
  demo : Bool := false
deriving DecidableEq, Repr

/-- What `parse_args` does with a command line: it returns a namespace, prints the help or the
version, or complains. The texts of the help and of a complaint are those of `argparse`, which
wraps them to the width of the terminal. -/
inductive Parsed where
  | arguments (args : Arguments)
  | help (text : Text)
  | version
  | usageError (complaint : Text)
deriving DecidableEq, Repr

/-- What a process leaves behind. -/
structure Ending where
  stdout : Text
  stderr : Text
  exitCode : Nat
deriving DecidableEq, Repr

section Main

/-- `--print-schema`; the data of the package may be missing. -/
def printSchema : Option Text → Ending
  | none => ⟨[], "sigmascope: embedded report schema is unavailable\n".toList, 1⟩
  | some text => ⟨if text.getLast? = some '\n' then text else text ++ ['\n'], [], 0⟩

def renderReport : OutputFormat → Report → Text
  | .json => renderJson
  | .table => renderTable

/-- The text of an exception that the clause `except (OSError, ValueError)` catches. -/
def caughtText : HostError → Option String
  | .osError error => some error.text
  | .valueError error => some error.message
  | .indexError => none
  | .csvError _ => none

def handleError (error : HostError) : HostProgram (Except String Report) :=
  match caughtText error with
  | some text => pure (.error text)
  | none => .raised error

/-- The `try` statement of `main`. -/
def tryRun (facts : HostFacts) (demo : Bool) : HostProgram (Except String Report) :=
  ((Host.run facts demo) >>= fun report => pure (.ok report)).catching handleError

/-- The part of `main` behind `parse_args`. -/
def perform (facts : HostFacts) (schema : Option Text) (args : Arguments) : HostProgram Ending :=
  if args.printSchema then pure (printSchema schema)
  else if args.printCatalogVersion then pure ⟨catalogVersion.toList ++ ['\n'], [], 0⟩
  else do
    match ← tryRun facts args.demo with
    | .error text => pure ⟨[], "sigmascope: ".toList ++ text.toList ++ ['\n'], 1⟩
    | .ok report => pure ⟨renderReport args.format report, [], exitCode report.findings args.failOn⟩

def main (facts : HostFacts) (schema : Option Text) : Parsed → HostProgram Ending
  | .arguments args => perform facts schema args
  | .help text => pure ⟨text, [], 0⟩
  | .version => pure ⟨toolVersion.toList ++ ['\n'], [], 0⟩
  | .usageError complaint => pure ⟨[], complaint, 2⟩

end Main

section Caller

/-- The verdicts that a caller finds in the output. -/
def printedVerdicts : OutputFormat → Text → Option (List String)
  | .json, text =>
      (readReport text).map fun report => report.findings.map fun finding => finding.verdict.value
  | .table, text =>
      (TextTable.read text).map fun read => read.2.map fun row => String.ofList (row.getD 1 [])

/-- The exit code that belongs to the verdicts. -/
def gateCode (failOn : FailOn) (verdicts : List String) : Nat :=
  if failOn ≠ .none ∧ (verdicts.any fun verdict => severity failOn.value ≤ severity verdict) = true
  then 3 else 0

/-- The process neither prints the schema nor the version of the catalogue. -/
structure Arguments.Live (args : Arguments) : Prop where
  printSchema : args.printSchema = false
  printCatalogVersion : args.printCatalogVersion = false

/-- How a process ends, with the history of its calls: it prints a text of its own, rejects the
command line, reports what the run of the collectors and the evaluation returned, tells of a
caught exception of that run, or lets one escape. -/
inductive Ends (facts : HostFacts) (schema : Option Text)
    (environment : Program.Environment hostInterface) :
    Parsed → Except HostError Ending × List (Event hostInterface) → Prop where
  | help (text : Text) : Ends facts schema environment (.help text) (.ok ⟨text, [], 0⟩, [])
  | version :
      Ends facts schema environment .version (.ok ⟨toolVersion.toList ++ ['\n'], [], 0⟩, [])
  | usageError (complaint : Text) :
      Ends facts schema environment (.usageError complaint) (.ok ⟨[], complaint, 2⟩, [])
  | schema {args : Arguments} {text : Text} (asked : args.printSchema = true)
      (packaged : schema = some text) :
      Ends facts schema environment (.arguments args)
        (.ok ⟨if text.getLast? = some '\n' then text else text ++ ['\n'], [], 0⟩, [])
  | noSchema {args : Arguments} (asked : args.printSchema = true) (missing : schema = none) :
      Ends facts schema environment (.arguments args)
        (.ok ⟨[], "sigmascope: embedded report schema is unavailable\n".toList, 1⟩, [])
  | catalogVersion {args : Arguments} (unasked : args.printSchema = false)
      (asked : args.printCatalogVersion = true) :
      Ends facts schema environment (.arguments args)
        (.ok ⟨catalogVersion.toList ++ ['\n'], [], 0⟩, [])
  | reported {args : Arguments} {report : Report} {verdicts : List String}
      {history : List (Event hostInterface)} (live : args.Live)
      (ran : Program.run environment [] (Host.run facts args.demo) = (.ok report, history))
      (held : verdicts = report.findings.map fun finding => finding.verdict.value)
      (read : printedVerdicts args.format (renderReport args.format report) = some verdicts) :
      Ends facts schema environment (.arguments args)
        (.ok ⟨renderReport args.format report, [], gateCode args.failOn verdicts⟩, history)
  | refused {args : Arguments} {error : HostError} {text : String}
      {history : List (Event hostInterface)} (live : args.Live)
      (ran : Program.run environment [] (Host.run facts args.demo) = (.error error, history))
      (caught : caughtText error = some text)
      (explained : Host.Explained facts history args.demo error) :
      Ends facts schema environment (.arguments args)
        (.ok ⟨[], "sigmascope: ".toList ++ text.toList ++ ['\n'], 1⟩, history)
  | uncaught {args : Arguments} {error : HostError} {history : List (Event hostInterface)}
      (live : args.Live)
      (ran : Program.run environment [] (Host.run facts args.demo) = (.error error, history))
      (missed : caughtText error = none) (evaluated : args.demo = false)
      (windows : String.ofList (lower facts.system.toList) = "windows")
      (failure : Host.Failure facts history error) :
      Ends facts schema environment (.arguments args) (.error error, history)

theorem exit_code_gate (findings : List Finding) (failOn : FailOn) :
    exitCode findings failOn =
      gateCode failOn (findings.map fun finding => finding.verdict.value) := by
  unfold exitCode gateCode thresholdMet
  by_cases off : failOn = .none
  · simp [off]
  · simp [off, List.any_map, Function.comp_def]

theorem json_verdicts {report : Report} (ordered : report.Ordered) :
    printedVerdicts .json (renderJson report) =
      some (report.findings.map fun finding => finding.verdict.value) := by
  rw [printedVerdicts, read_report_back ordered, Option.map_some]

theorem table_verdicts {report : Report} (tabular : report.Tabular) :
    printedVerdicts .table (renderTable report) =
      some (report.findings.map fun finding => finding.verdict.value) := by
  rw [printedVerdicts, render_table_reads_back tabular, Option.map_some, List.map_map]
  apply congrArg some
  apply List.map_congr_left
  intro finding member
  exact String.ofList_toList

end Caller

section Runs

variable {facts : HostFacts} {schema : Option Text} {args : Arguments}
  {history : List (Event hostInterface)} {environment : Program.Environment hostInterface}

theorem report_verdicts {demo : Bool} {report : Report} (plain : OneLine facts.machine)
    (format : OutputFormat) (traces : (Host.run facts demo).Traces history (.ok report)) :
    printedVerdicts format (renderReport format report) =
      some (report.findings.map fun finding => finding.verdict.value) := by
  have sourced := (run_report traces).2
  cases format with
  | json => exact json_verdicts fun finding member => sourced_ordered (sourced finding member)
  | table =>
      have sentences := run_sentences plain traces
      exact table_verdicts fun finding member =>
        ⟨source_name_plain (sourced finding member), sentence_plain (sentences finding member)⟩

theorem run_host_ran {demo : Bool} {outcome : Except HostError Report}
    (ran : Program.run environment [] (Host.run facts demo) = (outcome, history)) :
    (Host.run facts demo).Traces history outcome := by
  obtain ⟨events, after, traces⟩ := Program.run_traces environment [] (Host.run facts demo)
  rw [ran, List.nil_append] at after
  rw [ran, ← after] at traces
  exact traces

/-- The `try` statement calls nothing itself. -/
theorem try_run_returns {demo : Bool} {report : Report}
    (ran : Program.run environment [] (Host.run facts demo) = (.ok report, history)) :
    Program.run environment [] (tryRun facts demo) = (.ok (.ok report), history) := by
  apply Program.run_catching_ok
  rw [Program.run_bind_ok ran]
  rfl

theorem try_run_raises {demo : Bool} {error : HostError}
    (ran : Program.run environment [] (Host.run facts demo) = (.error error, history)) :
    Program.run environment [] (tryRun facts demo) =
      Program.run environment history (handleError error) :=
  Program.run_catching_error (Program.run_bind_error ran _) _

theorem perform_live (live : args.Live) :
    perform facts schema args = tryRun facts args.demo >>= fun attempt =>
      match attempt with
      | .error text => pure ⟨[], "sigmascope: ".toList ++ text.toList ++ ['\n'], 1⟩
      | .ok report =>
          pure ⟨renderReport args.format report, [], exitCode report.findings args.failOn⟩ := by
  rw [perform, live.printSchema, live.printCatalogVersion]
  rfl

theorem perform_reports (live : args.Live) {report : Report}
    (ran : Program.run environment [] (Host.run facts args.demo) = (.ok report, history)) :
    Program.run environment [] (perform facts schema args) =
      (.ok ⟨renderReport args.format report, [], exitCode report.findings args.failOn⟩,
        history) := by
  rw [perform_live live, Program.run_bind_ok (try_run_returns ran)]
  rfl

theorem perform_refuses (live : args.Live) {error : HostError} {text : String}
    (ran : Program.run environment [] (Host.run facts args.demo) = (.error error, history))
    (caught : caughtText error = some text) :
    Program.run environment [] (perform facts schema args) =
      (.ok ⟨[], "sigmascope: ".toList ++ text.toList ++ ['\n'], 1⟩, history) := by
  have tried :
      Program.run environment [] (tryRun facts args.demo) = (.ok (.error text), history) := by
    rw [try_run_raises ran, handleError, caught]
    rfl
  rw [perform_live live, Program.run_bind_ok tried]
  rfl

theorem perform_escapes (live : args.Live) {error : HostError}
    (ran : Program.run environment [] (Host.run facts args.demo) = (.error error, history))
    (missed : caughtText error = none) :
    Program.run environment [] (perform facts schema args) = (.error error, history) := by
  have tried : Program.run environment [] (tryRun facts args.demo) = (.error error, history) := by
    rw [try_run_raises ran, handleError, missed]
    rfl
  rw [perform_live live, Program.run_bind_error tried]

/-- A run that stays on Linux, or that is the demo, raises nothing that `main` lets through. -/
theorem uncaught_windows {demo : Bool} {error : HostError}
    (explained : Host.Explained facts history demo error) (missed : caughtText error = none) :
    demo = false ∧ String.ofList (lower facts.system.toList) = "windows" := by
  by_contra other
  rw [not_and_or, Bool.not_eq_false] at other
  obtain ⟨raised, rfl, _⟩ := explained.2 other
  cases missed

theorem live_ends (live : args.Live) (plain : OneLine facts.machine) :
    Ends facts schema environment (.arguments args)
      (Program.run environment [] (perform facts schema args)) := by
  cases ran : Program.run environment [] (Host.run facts args.demo) with
  | mk outcome history =>
      have traces := run_host_ran ran
      cases outcome with
      | ok report =>
          rw [perform_reports live ran, exit_code_gate]
          exact .reported live ran rfl (report_verdicts plain args.format traces)
      | error error =>
          have explained := Host.run_traces_raises traces
          cases caught : caughtText error with
          | some text =>
              rw [perform_refuses live ran caught]
              exact .refused live ran caught explained
          | none =>
              rw [perform_escapes live ran caught]
              obtain ⟨evaluated, windows⟩ := uncaught_windows explained caught
              exact .uncaught live ran caught evaluated windows explained.1

theorem schema_ends (asked : args.printSchema = true) :
    Ends facts schema environment (.arguments args)
      (Program.run environment [] (perform facts schema args)) := by
  rw [perform, if_pos asked]
  cases packaged : schema with
  | none => exact .noSchema asked rfl
  | some text => exact .schema asked rfl

variable (facts schema)

/-- Every process ends in one of these ways. When it reports, the exit code is the one that its
own output leads to, in either format. -/
theorem main_ends (parsed : Parsed) (environment : Program.Environment hostInterface)
    (plain : OneLine facts.machine) :
    Ends facts schema environment parsed
      (Program.run environment [] (main facts schema parsed)) := by
  cases parsed with
  | help text => exact .help text
  | version => exact .version
  | usageError complaint => exact .usageError complaint
  | arguments args =>
      cases asked : args.printSchema with
      | true => exact schema_ends asked
      | false =>
          cases version : args.printCatalogVersion with
          | true =>
              rw [main, perform, asked, version]
              exact .catalogVersion asked version
          | false => exact live_ends ⟨asked, version⟩ plain

theorem main_ends_bare :
    Ends Host.bareFacts none Host.bareHost (.arguments {})
      (Program.run Host.bareHost [] (main Host.bareFacts none (.arguments {}))) :=
  main_ends Host.bareFacts none (.arguments {}) Host.bareHost (one_line_literal (by decide))

end Runs

section Gate

open Host (Answered Located Stands FindingStands)

variable {facts : HostFacts} {history : List (Event hostInterface)} {args : Arguments}

/-- The gate asks for something, of the host that the process is on. -/
structure Arguments.Gated (args : Arguments) : Prop extends args.Live where
  failOn : args.failOn ≠ .none
  demo : args.demo = false

/-- What a passed gate says about a Linux host. -/
def LinuxPasses (facts : HostFacts) (history : List (Event hostInterface)) (failOn : FailOn) :
    Prop :=
  failOn ≠ .degraded ∧
    (failOn = .notCovered → ∀ requirement ∈ linuxMappings,
      ∃ provider verdict executable listing status, .auditd provider ∈ requirement.providers ∧
        (verdict = .covered ∨ verdict = .degraded) ∧ Located history executable ∧
        Answered facts history executable "-l" listing ∧
        Answered facts history executable "-s" status ∧
        RunningStatus status ∧ RulesSay listing facts.machine provider verdict)

/-- What a passed gate says about a Windows host: file events are known to be unaudited. -/
def WindowsPasses (facts : HostFacts) (history : List (Event hostInterface)) (failOn : FailOn) :
    Prop :=
  failOn = .indeterminate ∧ ∀ provider ∈ windowsFileEvent.providers,
    Stands facts history (policyGuids windowsMappings) facts.machine provider .notCovered

theorem exit_zero_passes {findings : List Finding} {failOn : FailOn}
    (passed : exitCode findings failOn = 0) {finding : Finding} (member : finding ∈ findings) :
    fails failOn finding.verdict = false := by
  unfold exitCode at passed
  split at passed
  · cases passed
  · rename_i below
    rw [threshold_met_eq, Bool.not_eq_true] at below
    exact Bool.eq_false_iff.mpr (List.any_eq_false.mp below finding member)

/-- Only a verdict about the rules of a running system is positive. -/
theorem positive_rules {subcategoryGuids : List String} {arch : String}
    {provider : AuditdProvider} {verdict : Verdict}
    (positive : verdict = .covered ∨ verdict = .degraded)
    (stands : Stands facts history subcategoryGuids arch (.auditd provider) verdict) :
    ∃ executable listing status, Located history executable ∧
      Answered facts history executable "-l" listing ∧
        Answered facts history executable "-s" status ∧ RunningStatus status ∧
          RulesSay listing arch provider verdict := by
  cases stands with
  | unlocated nowhere => rcases positive with impossible | impossible <;> cases impossible
  | idle located shown zero => rcases positive with impossible | impossible <;> cases impossible
  | rules located listed shown running said =>
      exact ⟨_, _, _, located, listed, shown, running, said⟩

/-- A file watch is a partial gap at best. -/
theorem file_watch_never_covered (parsed : ParseResult) :
    (evaluateFileWatch parsed).1 ≠ .covered := by
  cases determinacy : parsed.determinacy with
  | unknown => simp [evaluateFileWatch, determinacy]
  | effective =>
      rw [file_watch_verdict determinacy]
      split <;> decide

theorem passes_degraded {verdict : Verdict} (passes : fails .degraded verdict = false) :
    verdict = .covered := by
  revert passes
  cases verdict <;> decide

theorem passes_not_covered {verdict : Verdict} (passes : fails .notCovered verdict = false) :
    verdict = .covered ∨ verdict = .degraded := by
  revert passes
  cases verdict <;> decide

theorem passes_indeterminate {verdict : Verdict} (passes : fails .indeterminate verdict = false) :
    verdict ≠ .indeterminate := by
  revert passes
  cases verdict <;> decide

theorem linux_provider {requirement : Requirement} (listed : requirement ∈ linuxMappings)
    {provider : Provider} (offered : provider ∈ requirement.providers) :
    ∃ auditd, provider = .auditd auditd := by
  simp only [linuxMappings, List.mem_cons, List.not_mem_nil, or_false] at listed
  rcases listed with rfl | rfl
  · exact ⟨_, List.mem_singleton.mp offered⟩
  · exact ⟨_, List.mem_singleton.mp offered⟩

section Findings

variable {identity : HostIdentity} {findings : List Finding} {failOn : FailOn}
  (stands : Host.RunStands facts history identity findings)
  (passes : ∀ finding ∈ findings, fails failOn finding.verdict = false)
include stands passes

theorem linux_passes (linux : identity.os = "linux") (arch : identity.arch = facts.machine) :
    LinuxPasses facts history failOn := by
  have catalogue : mappingsByOs identity.os = linuxMappings := by
    rw [linux, mappingsByOs, if_neg (by decide), if_pos rfl]
  constructor
  · rintro rfl
    have mapped : linuxFileEvent ∈ mappingsByOs identity.os := by
      simp [catalogue, linuxMappings]
    obtain ⟨finding, member, _, positive, _⟩ := stands.finding mapped
    have covered := passes_degraded (passes finding member)
    obtain ⟨provider, offered, held⟩ := positive (Or.inl covered)
    cases List.mem_singleton.mp offered
    obtain ⟨_, listing, _, _, _, _, _, said⟩ := positive_rules (Or.inl covered) held
    rcases said with ⟨process, _⟩ | ⟨_, verdict⟩
    · exact absurd process (by decide)
    · exact file_watch_never_covered _ (verdict.trans covered)
  · rintro rfl requirement listed
    obtain ⟨finding, member, _, positive, _⟩ := stands.finding (catalogue ▸ listed)
    have reached := passes_not_covered (passes finding member)
    obtain ⟨provider, offered, held⟩ := positive reached
    rw [arch] at held
    obtain ⟨auditd, rfl⟩ := linux_provider listed offered
    obtain ⟨executable, listing, status, located, answered, shown, running, said⟩ :=
      positive_rules reached held
    exact ⟨auditd, _, executable, listing, status, offered, reached, located, answered, shown,
      running, said⟩

theorem windows_passes (chosen : failOn ≠ .none) (windows : identity.os = "windows")
    (arch : identity.arch = facts.machine) : WindowsPasses facts history failOn := by
  have catalogue : mappingsByOs identity.os = windowsMappings := by
    rw [windows, mappingsByOs, if_pos rfl]
  have mapped : windowsFileEvent ∈ mappingsByOs identity.os := by
    simp [catalogue, windowsMappings]
  obtain ⟨finding, member, _, positive, gap⟩ := stands.finding mapped
  -- The catalogue holds a reservation against file events and no field gate.
  have negative : ¬(finding.verdict = .covered ∨ finding.verdict = .degraded) := by
    intro reached
    obtain ⟨provider, offered, held⟩ := positive reached
    cases List.mem_singleton.mp offered
    generalize finding.verdict = verdict at held reached
    cases held with
    | channelOff closed => rcases reached with impossible | impossible <;> cases impossible
    | unaudited opened said missing =>
        rcases reached with impossible | impossible <;> cases impossible
    | audited opened said required field unreserved => exact absurd unreserved (by decide)
    | bare opened said required gated field => exact gated rfl
  have own := passes finding member
  cases failOn with
  | none => exact absurd rfl chosen
  | degraded => exact absurd (Or.inl (passes_degraded own)) negative
  | notCovered => exact absurd (passes_not_covered own) negative
  | indeterminate =>
      refine ⟨rfl, ?_⟩
      have known := passes_indeterminate own
      have missing : finding.verdict = .notCovered := by
        cases verdict : finding.verdict with
        | covered => exact absurd (Or.inl verdict) negative
        | degraded => exact absurd (Or.inr verdict) negative
        | indeterminate => exact absurd verdict known
        | notCovered => rfl
      have held := gap missing
      rwa [catalogue, arch] at held

end Findings

/-- A gated process that ends with exit code 0 has a report, and every finding of it passes. -/
theorem gated_report {schema : Option Text} {environment : Program.Environment hostInterface}
    (gated : args.Gated) {ending : Ending}
    (finished : (Program.run environment [] (main facts schema (.arguments args))).1 = .ok ending)
    (passed : ending.exitCode = 0) :
    ∃ report, (Host.run facts false).Traces
        (Program.run environment [] (main facts schema (.arguments args))).2 (.ok report) ∧
      ∀ finding ∈ report.findings, fails args.failOn finding.verdict = false := by
  rw [main] at finished ⊢
  cases ran : Program.run environment [] (Host.run facts args.demo) with
  | mk outcome history =>
      cases outcome with
      | ok report =>
          rw [perform_reports gated.toLive ran] at finished ⊢
          cases finished
          have traces := run_host_ran ran
          rw [gated.demo] at traces
          exact ⟨report, traces, fun finding member => exit_zero_passes passed member⟩
      | error error =>
          cases caught : caughtText error with
          | some text =>
              rw [perform_refuses gated.toLive ran caught] at finished
              cases finished
              cases passed
          | none =>
              rw [perform_escapes gated.toLive ran caught] at finished
              cases finished

variable (facts) (args) (schema : Option Text) (environment : Program.Environment hostInterface)

/-- On Linux the gate never passes when it fails on a partial gap. When it fails on a gap, exit
code 0 means that the rules of a running system were read and record something of each kind. -/
theorem passed_gate_linux (gated : args.Gated) {ending : Ending}
    (finished : (Program.run environment [] (main facts schema (.arguments args))).1 = .ok ending)
    (passed : ending.exitCode = 0) (linux : String.ofList (lower facts.system.toList) = "linux") :
    LinuxPasses facts (Program.run environment [] (main facts schema (.arguments args))).2
      args.failOn := by
  obtain ⟨report, traces, passes⟩ := gated_report gated finished passed
  obtain ⟨os, arch⟩ := Host.run_host_traces traces
  exact linux_passes (Host.run_traces_stand traces) passes (os.trans linux) arch

/-- On Windows the gate passes only when it fails on a lack of information and on nothing less,
and only when file events are known to be unaudited. -/
theorem passed_gate_windows (gated : args.Gated) {ending : Ending}
    (finished : (Program.run environment [] (main facts schema (.arguments args))).1 = .ok ending)
    (passed : ending.exitCode = 0)
    (windows : String.ofList (lower facts.system.toList) = "windows") :
    WindowsPasses facts (Program.run environment [] (main facts schema (.arguments args))).2
      args.failOn := by
  obtain ⟨report, traces, passes⟩ := gated_report gated finished passed
  obtain ⟨os, arch⟩ := Host.run_host_traces traces
  exact windows_passes (Host.run_traces_stand traces) passes gated.failOn (os.trans windows) arch

/-- The audited host with a watch beside the exec rules. -/
def watchedRules : List ListedRule := Host.execRules ++ [.watch "/etc/passwd" "wa" none]

def watchedHost : Program.Environment hostInterface := fun past query =>
  match query with
  | .run [_, argument] =>
      .completed 0
        (Host.asciiBytes (if argument = "-l" then listingText watchedRules else sampleStatus)) []
  | other => Host.auditedHost past other

def watchedCollection : AuditdCollection where
  installed := some true
  effectiveRules :=
    some (Host.bareFacts.decodeUtf8 (Host.asciiBytes (listingText watchedRules)))
  status := some (Host.bareFacts.decodeUtf8 (Host.asciiBytes sampleStatus))
  errors := []

def watchedReport : Report where
  generatedUtc := Host.bareReport.generatedUtc
  host := Host.bareReport.host
  findings := linuxMappings.map (linuxFinding watchedCollection "x86_64")
  diagnostics :=
    (parsedRules watchedCollection).diagnostics ++ (parsedStatus watchedCollection).diagnostics
  collectionErrors := []

def watchedEnding : Ending :=
  ⟨renderTable watchedReport, [], exitCode watchedReport.findings .notCovered⟩

theorem passed_gate_linux_watched :
    LinuxPasses Host.bareFacts
      (Program.run watchedHost []
        (main Host.bareFacts none (.arguments { failOn := .notCovered }))).2
      .notCovered := by
  have finished : (Program.run watchedHost []
      (main Host.bareFacts none (.arguments { failOn := .notCovered }))).1 = .ok watchedEnding := rfl
  have passed : watchedEnding.exitCode = 0 := by decide +kernel
  exact passed_gate_linux Host.bareFacts { failOn := .notCovered } none watchedHost
    ⟨⟨rfl, rfl⟩, by decide, rfl⟩ finished passed rfl

/-- A Windows host without Sysmon whose Security channel is off. -/
def quietHost : Program.Environment hostInterface := fun past query =>
  match query with
  | .loadLibrary _ => .ok ()
  | .openSCManager _ => .ok 1
  | .openService _ _ _ => .error 1060
  | .evtOpenChannelConfig _ => .ok 1
  | .evtGetChannelConfigProperty _ _ => .ok 0
  | other => Host.bareHost past other

def quietLook : String → ChannelConfig := fun _ => ⟨some false, none⟩

def quietInputs : Host.WindowsInputs where
  auditPolicy := { determinacy := .unknown }
  registry := Host.registryGates (.error .missing)
  sysmon := ⟨some false, none, none, []⟩
  parsed := none

def quietReport : Report where
  generatedUtc := Host.bareReport.generatedUtc
  host := ⟨"bare", "windows", "6.8", "AMD64"⟩
  findings := windowsMappings.map
    (judgedFinding (quietInputs.collection quietLook) quietInputs.parsed quietLook)
  diagnostics := []
  collectionErrors :=
    [⟨"windows.audit_policy", "[WinError 5] OpenProcessToken failed", "AuditQuerySystemPolicy"⟩,
      ⟨"windows.audit_policy", "No such file or directory", "auditpol /get /category:* /r"⟩]

def quietEnding : Ending :=
  ⟨renderJson quietReport, [], exitCode quietReport.findings .indeterminate⟩

theorem passed_gate_windows_quiet :
    WindowsPasses Host.windowsFacts
      (Program.run quietHost []
        (main Host.windowsFacts none (.arguments { format := .json, failOn := .indeterminate }))).2
      .indeterminate := by
  have finished : (Program.run quietHost []
      (main Host.windowsFacts none (.arguments { format := .json, failOn := .indeterminate }))).1 =
        .ok quietEnding := rfl
  have passed : quietEnding.exitCode = 0 := by decide +kernel
  exact passed_gate_windows Host.windowsFacts { format := .json, failOn := .indeterminate } none
    quietHost ⟨⟨rfl, rfl⟩, by decide, rfl⟩ finished passed rfl

end Gate

end Sigmascope
