import Mathlib.Data.List.Dedup
import Sigmascope.Library.Dict
import Sigmascope.Library.PyText
import Sigmascope.Model

/-!
auditd generation-coverage evaluation. Each function returns the verdict with
the explanation that the report prints for it.
-/

namespace Sigmascope

set_option autoImplicit false

open Sigmascope.Library

/-- `_TARGET_SYSCALLS`, in the order in which `sorted` lists them. -/
def targetSyscalls : List String := ["execve", "execveat"]

/-- `_NON_NARROWING_FIELDS`. -/
def nonNarrowingFields : List String := ["arch", "key"]

/-- The system calls of a rule, and none for a rule of another kind. -/
def Rule.syscalls (rule : Rule) : Finset String :=
  match rule.selector with
  | .syscall selector => selector.syscalls
  | .event _ => ∅

def selectedSyscalls (rule : Rule) : List String :=
  if "all" ∈ rule.syscalls then targetSyscalls
  else targetSyscalls.filter fun syscall => syscall ∈ rule.syscalls

/-- The values of the `arch=` predicates. -/
def arches (rule : Rule) : List String :=
  ((rule.predicatesOn "arch").filter fun predicate => predicate.op == .eq).map Predicate.value

def restrictive (rule : Rule) : Bool :=
  rule.predicates.any fun predicate => !nonNarrowingFields.contains predicate.field

def exitRuleSuppresses (rule : Rule) (arch syscall : String) : Bool :=
  if !(rule.onList "exit") || rule.effect != .excluded then false
  else if rule.syscalls ≠ ∅ ∧ "all" ∉ rule.syscalls ∧ syscall ∉ rule.syscalls then false
  else (arches rule).isEmpty || (arches rule).contains arch

def taskSuppressors (rules : List Rule) : List Rule :=
  rules.filter fun rule => rule.effect == .excluded && rule.onList "task"

/-- No predicate other than a key narrows the rule. -/
def unconditional (rule : Rule) : Bool :=
  rule.predicates.all fun predicate => predicate.field == "key"

/-- Report rules that suppress audit events regardless of the requirement. -/
def suppression (rules : List Rule) : Option (Verdict × String) :=
  if (taskSuppressors rules).any unconditional then
    some (.notCovered,
      "An unconditional auditd never,task rule leaves new processes " ++
        "without an audit context, so no syscall rule or watch is " ++
        "evaluated for them.")
  else if taskSuppressors rules ≠ [] then
    some (.degraded,
      "A scoped auditd never,task rule can suppress audit events for " ++
        "matching tasks.")
  else if rules.any fun rule => rule.effect == .excluded && rule.onList "exclude" then
    some (.degraded, "An auditd exclude rule can suppress a subset of audit events.")
  else none

def isCandidate (rule : Rule) : Bool :=
  rule.onList "exit" && rule.effect == .included && selectedSyscalls rule != []

def execCandidates (rules : List Rule) : List Rule := rules.filter isCandidate

/-- An always,exit rule whose selector consists of system call numbers only. -/
def isNumericRule (rule : Rule) : Bool :=
  rule.onList "exit" && rule.effect == .included && decide (rule.syscalls ≠ ∅) &&
    decide (∀ item ∈ rule.syscalls, PyText.isDigit item = true)

abbrev ArchSyscall := String × String

/-- The pairs that an x86-64 host has to cover, in the order of `sorted`. -/
def requiredPairs : List ArchSyscall :=
  ["b32", "b64"].flatMap fun arch => targetSyscalls.map fun syscall => (arch, syscall)

/-- The pairs a candidate claims in the coverage dictionary. -/
def claimedPairs (rule : Rule) : List ArchSyscall :=
  if restrictive rule then []
  else
    (["b64", "b32"].filter fun arch => (arches rule).contains arch).flatMap fun arch =>
      (selectedSyscalls rule).map fun syscall => (arch, syscall)

/-- The dictionary from pairs to the first unrestricted candidate that selects them. -/
def execCoverage (candidates : List Rule) : Dict ArchSyscall Rule :=
  Dict.claimAll claimedPairs Dict.empty candidates

def missingPairs (candidates : List Rule) : List ArchSyscall :=
  requiredPairs.filter fun pair => !(execCoverage candidates).contains pair

def pairText (pair : ArchSyscall) : String := pair.1 ++ "/" ++ pair.2

/-- An earlier never,exit rule applies to a pair before the rule that covers it. -/
def suppressedEarlier (rules : List Rule) (candidates : List Rule) : Bool :=
  (execCoverage candidates).items.any fun item =>
    rules.any fun rule =>
      decide (rule.order < item.2.order) && exitRuleSuppresses rule item.1.1 item.1.2

/-- The branch of `evaluate_process_creation` for x86-64 hosts. -/
def evaluateExecX86 (rules candidates : List Rule) : Verdict × String :=
  if candidates.any fun rule => (arches rule).isEmpty then
    (.degraded,
      "auditd exec rules omit an explicit arch selector; " ++
        "32-bit compatibility coverage cannot be established.")
  else if missingPairs candidates ≠ [] then
    let detail := ", ".intercalate ((missingPairs candidates).map pairText)
    let suffix :=
      if candidates.any restrictive then
        " Restrictive predicates on candidate rules prevent generic coverage."
      else ""
    (.degraded,
      "auditd process-creation coverage is incomplete; missing " ++ detail ++ "." ++ suffix)
  else if suppressedEarlier rules candidates then
    (.degraded,
      "An earlier auditd never,exit rule may suppress process-creation " ++
        "events before an always rule can match.")
  else
    (.covered,
      "Active auditd rules cover execve and execveat independently for " ++
        "b64 and b32 without narrowing predicates.")

/-- The system calls that unrestricted candidates leave out. -/
def missingSyscalls (candidates : List Rule) : List String :=
  targetSyscalls.filter fun syscall =>
    !(candidates.any fun rule => !restrictive rule && (selectedSyscalls rule).contains syscall)

/-- The branch of `evaluate_process_creation` for every other architecture. -/
def evaluateExecOther (candidates : List Rule) (machineArch : String) : Verdict × String :=
  if candidates.any fun rule => rule.predicatesOn "arch" != [] then
    (.indeterminate,
      "auditd exec rules carry an explicit arch selector, which " ++
        "sigmascope does not interpret for " ++ machineArch ++ ".")
  else if missingSyscalls candidates ≠ [] then
    (.degraded,
      "auditd does not select all process-creation syscalls; missing " ++
        ", ".intercalate (missingSyscalls candidates) ++ ".")
  else
    (.covered, "Active auditd rules cover execve and execveat without narrowing predicates.")

def isX86 (machineArch : String) : Bool := ["x86_64", "amd64"].contains machineArch

def evaluateProcessCreation (parsed : ParseResult) (machineArch : String) : Verdict × String :=
  let rules := parsed.rules
  let candidates := execCandidates rules
  if parsed.determinacy = .unknown then
    (.indeterminate,
      "auditd process-creation rules are incomplete or could not be parsed safely.")
  else if candidates = [] then
    if rules.any isNumericRule then
      (.indeterminate,
        "auditd uses numeric syscall selectors; architecture-specific " ++
          "syscall numbers are not guessed.")
    else (.notCovered, "No active always,exit rule selects execve or execveat.")
  else
    match suppression rules with
    | some outcome => outcome
    | none =>
        if isX86 machineArch then evaluateExecX86 rules candidates
        else evaluateExecOther candidates machineArch

/-- Some `perm` predicate of the rule names both write and attribute changes. -/
def watchesChanges (rule : Rule) : Bool :=
  (rule.predicatesOn "perm").any fun permissions =>
    permissions.value.toList.contains 'w' && permissions.value.toList.contains 'a'

def isWatchTarget (predicate : Predicate) : Bool := ["path", "dir"].contains predicate.field

/-- Append the targets of one rule that are not in the list yet. -/
def addTargets (targets : List String) (rule : Rule) : List String :=
  if rule.effect = .included ∧ watchesChanges rule = true then
    rule.predicates.foldl
      (fun found target =>
        if isWatchTarget target && !found.contains target.value then found ++ [target.value]
        else found)
      targets
  else targets

def watchTargets (rules : List Rule) : List String := rules.foldl addTargets []

def isNeverExit (rule : Rule) : Bool := rule.effect == .excluded && rule.onList "exit"

def evaluateFileWatch (parsed : ParseResult) : Verdict × String :=
  if parsed.determinacy = .unknown then
    (.indeterminate, "auditd file watch rules are incomplete or could not be parsed safely.")
  else
    let rules := parsed.rules
    let targets := watchTargets rules
    if targets = [] then
      (.notCovered, "No active auditd watch with write and attribute permissions was found.")
    else
      match suppression rules with
      | some (.notCovered, explanation) => (.notCovered, explanation)
      | outcome =>
          let notes :=
            (outcome.map Prod.snd).toList ++
              (if rules.any isNeverExit then
                ["An auditd never,exit rule can suppress matching watch events."]
              else [])
          let message :=
            "auditd file monitoring is path-scoped (" ++ toString targets.length ++
              " target(s)); generic file_event coverage is not global."
          (.degraded, " ".intercalate (message :: notes))

end Sigmascope
