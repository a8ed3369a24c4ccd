import Sigmascope.Library.PyText
import Sigmascope.Model

/-!
Collection of the auditd state. The file system and the outcomes of `auditctl`
are inputs; what is modelled is how they become a collection.
-/

namespace Sigmascope

set_option autoImplicit false

open Sigmascope.Library

structure AuditdCollection where
  installed : Option Bool
  effectiveRules : Option String
  status : Option String
  errors : List CollectionError

/-- What the collector asks of the file system. -/
structure FileSystem where
  which : String → Option String
  pathExists : String → Bool
  isDirectory : String → Bool
  searchable : String → Bool

/-- The outcome of running a program: an exception with its text, or an exit code
with the two output streams. -/
inductive ProcessOutcome where
  | raised (text : String)
  | exited (returnCode : Int) (stdout stderr : String)

def sbinCandidates : List String :=
  ["/usr/sbin/auditctl", "/sbin/auditctl", "/usr/local/sbin/auditctl"]

/-- The directories of the candidates, sorted. -/
def sbinDirectories : List String := ["/sbin", "/usr/local/sbin", "/usr/sbin"]

/-- The path of auditctl and whether a negative result is conclusive. -/
def locateAuditctl (fileSystem : FileSystem) : Option String × Bool :=
  match fileSystem.which "auditctl" with
  | some executable => (some executable, true)
  | none =>
      match sbinCandidates.find? fileSystem.pathExists with
      | some candidate => (some candidate, true)
      | none =>
          (none, !(sbinDirectories.any fun directory =>
            fileSystem.isDirectory directory && !fileSystem.searchable directory))

def auditctl (outcome : ProcessOutcome) (executable argument : String) :
    Option String × Option CollectionError :=
  let command := executable ++ " " ++ argument
  match outcome with
  | .raised text => (none, some ⟨"auditd", text, command⟩)
  | .exited returnCode stdout stderr =>
      if returnCode ≠ 0 then
        let stripped := PyText.strip stderr.toList
        let message :=
          if stripped ≠ [] then String.ofList stripped
          else "auditctl exited " ++ toString returnCode
        (none, some ⟨"auditd", message, command⟩)
      else (some stdout, none)

def collectAuditd (fileSystem : FileSystem) (execute : String → String → ProcessOutcome) :
    AuditdCollection :=
  match locateAuditctl fileSystem with
  | (none, true) => ⟨some false, none, none, []⟩
  | (none, false) =>
      ⟨none, none, none,
        [⟨"auditd",
          "auditctl is absent from PATH and the standard sbin " ++
            "directories could not be searched",
          "auditctl"⟩]⟩
  | (some executable, _) =>
      let (rules, rulesError) := auditctl (execute executable "-l") executable "-l"
      let (status, statusError) := auditctl (execute executable "-s") executable "-s"
      ⟨some true, rules, status, rulesError.toList ++ statusError.toList⟩

/-- Output is read only from an installed auditd, a conclusive absence is no error,
and an error of an installed auditd leaves an output unread. -/
structure CollectionShape (collection : AuditdCollection) : Prop where
  unread : collection.installed ≠ some true →
    collection.effectiveRules = none ∧ collection.status = none
  absent : collection.installed = some false → collection.errors = []
  present : collection.installed = some true → collection.errors ≠ [] →
    collection.effectiveRules = none ∨ collection.status = none

/-- A run of auditctl yields either output or an error. -/
theorem auditctl_exclusive (outcome : ProcessOutcome) (executable argument : String) :
    (auditctl outcome executable argument).2 = none ∨
      (auditctl outcome executable argument).1 = none := by
  unfold auditctl
  cases outcome with
  | raised text => exact Or.inr rfl
  | exited returnCode stdout stderr =>
      by_cases failed : returnCode = 0
      · simp [failed]
      · simp [failed]

theorem collect_auditd_shape (fileSystem : FileSystem)
    (execute : String → String → ProcessOutcome) :
    CollectionShape (collectAuditd fileSystem execute) := by
  unfold collectAuditd
  rcases locateAuditctl fileSystem with ⟨_ | executable, conclusive⟩
  · cases conclusive <;> constructor <;> simp
  · have rules := auditctl_exclusive (execute executable "-l") executable "-l"
    have status := auditctl_exclusive (execute executable "-s") executable "-s"
    constructor
    · simp
    · simp
    · intro _ failed
      rcases rules with noError | unread
      · rcases status with noStatusError | unreadStatus
        · simp [noError, noStatusError] at failed
        · exact Or.inr unreadStatus
      · exact Or.inl unread

end Sigmascope
