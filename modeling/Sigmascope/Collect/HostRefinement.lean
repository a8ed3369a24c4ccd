import Mathlib.Data.List.Find
import Mathlib.Logic.Function.Basic
import Sigmascope.Collect.HostPrograms

/-!
What comes out of the collectors call by call is what the collectors return for the answers
of some host, all at once. A host is asked for one name once, so the answers of a run make
a function of the names.
-/

namespace Sigmascope.Host

set_option autoImplicit false

open Sigmascope.Library Sigmascope.Library.PyText

section Rules

variable {Value : Type}

theorem yields_ask {query : HostCall} {next : HostReply query → HostProgram Value}
    {result : Except HostError Value} :
    (ask query >>= next).Yields result ↔ ∃ reply, (next reply).Yields result := Iff.rfl

theorem raise_os_error_ok {result : Except OsError Value} {value : Value}
    (yields : (raiseOsError result).Yields (.ok value)) : result = .ok value := by
  cases result with
  | error error => cases yields
  | ok other =>
      cases yields
      rfl

theorem of_except_ok {result : Except HostError Value} {value : Value}
    (yields : (Program.ofExcept result : HostProgram Value).Yields (.ok value)) :
    result = .ok value :=
  (Program.yields_of_except.mp yields).symm

theorem catching_ok {program : HostProgram Value} {handler : OsError → HostProgram Value}
    {value : Value} (yields : (catchingOsError program handler).Yields (.ok value)) :
    program.Yields (.ok value) ∨
      ∃ error, program.Yields (.error (.osError error)) ∧ (handler error).Yields (.ok value) := by
  rcases Program.yields_catching.mp yields with ⟨other, first, same⟩ | ⟨error, first, rest⟩
  · cases same
    exact Or.inl first
  · cases error with
    | osError error => exact Or.inr ⟨error, first, rest⟩
    | valueError error => cases rest
    | indexError => cases rest
    | csvError error => cases rest

end Rules

section Policy

variable {facts : HostFacts}

theorem query_once_ok {guids : List Guid} {states : Dict String String}
    (yields : (queryOnce guids).Yields (.ok states)) :
    ∃ buffer, states = policyStates buffer := by
  obtain ⟨reply, rest⟩ := yields
  cases reply with
  | error code => cases rest
  | ok address =>
      have read : (readBuffer address guids.length).Yields (.ok states) := by
        change (if address = 0 then _ else _ : HostProgram (Dict String String)).Yields
          (.ok states) at rest
        split at rest
        · exact rest
        · exact Program.yields_ensuring_ok rest
      unfold readBuffer at read
      split at read
      · cases read
      · obtain ⟨entries, _, same⟩ := Program.yields_bind_ok.mp read
        cases same
        exact ⟨entries, rfl⟩

theorem query_system_policy_ok {subcategoryGuids : List String} {states : Dict String String}
    (asked : subcategoryGuids ≠ [])
    (yields : (querySystemPolicy facts subcategoryGuids).Yields (.ok states)) :
    ∃ buffer, states = policyStates buffer := by
  rw [querySystemPolicy, if_neg asked] at yields
  obtain ⟨_, _, yields⟩ := Program.yields_bind_ok.mp yields
  obtain ⟨guids, _, yields⟩ := Program.yields_bind_ok.mp yields
  obtain ⟨first, tried, yields⟩ := Program.yields_bind_ok.mp yields
  cases first with
  | none =>
      obtain ⟨_, _, yields⟩ := Program.yields_bind_ok.mp yields
      exact query_once_ok yields
  | some known =>
      cases yields
      rcases catching_ok tried with answered | ⟨error, _, handled⟩
      · obtain ⟨other, once, same⟩ := Program.yields_bind_ok.mp answered
        cases same
        exact query_once_ok once
      · split at handled <;> cases handled

/-- The native policy is what some interface leads to. -/
theorem collect_native_policy_refines {subcategoryGuids : List String}
    {policy : NativeAuditPolicy}
    (yields : (collectNativePolicy facts subcategoryGuids).Yields (.ok policy)) :
    ∃ api, policy = Sigmascope.collectNativePolicy api subcategoryGuids := by
  rcases catching_ok yields with answered | ⟨error, refused, handled⟩
  · obtain ⟨states, queried, same⟩ := Program.yields_bind_ok.mp answered
    cases same
    by_cases asked : subcategoryGuids = []
    · refine ⟨⟨.ok (), fun _ _ => .ok [], .ok ()⟩, ?_⟩
      rw [querySystemPolicy, if_pos asked] at queried
      cases queried
      rw [Sigmascope.collectNativePolicy, Sigmascope.querySystemPolicy, if_pos asked]
    · obtain ⟨buffer, rfl⟩ := query_system_policy_ok asked queried
      refine ⟨⟨.ok (), fun _ _ => .ok buffer, .ok ()⟩, ?_⟩
      exact (collect_native_policy_returns asked ⟨rfl, Or.inl rfl⟩).symm
  · cases handled
    have asked : subcategoryGuids ≠ [] := by
      intro nothing
      rw [querySystemPolicy, if_pos nothing] at refused
      cases refused
    refine ⟨⟨.error error, fun _ _ => .error error, .ok ()⟩, ?_⟩
    rw [Sigmascope.collectNativePolicy, Sigmascope.querySystemPolicy, if_neg asked]
    rfl

/-- What `collect_cli_policy` returns on some outcome of the command. -/
def CliCollected (facts : HostFacts) (collection : AuditpolCliCollection) : Prop :=
  if facts.sysPlatform = "win32" then ∃ outcome, cliPolicy facts outcome = .ok collection
  else collection.parsed = none

theorem collect_cli_policy_ok {collection : AuditpolCliCollection}
    (yields : (collectCliPolicy facts).Yields (.ok collection)) :
    CliCollected facts collection := by
  unfold collectCliPolicy at yields
  unfold CliCollected
  split at yields
  · rename_i other
    rw [if_neg other]
    cases yields
    rfl
  · rename_i windows
    rw [if_pos (not_not.mp windows)]
    obtain ⟨outcome, rest⟩ := yields_ask.mp yields
    exact ⟨outcome, of_except_ok rest⟩

/-- A command that was not started. -/
theorem unasked_cli_collected :
    CliCollected facts ⟨none, some ⟨"windows.audit_policy", "", auditpolResource⟩⟩ := by
  unfold CliCollected
  split
  · exact ⟨.raised "", rfl⟩
  · rfl

end Policy

section Registry

/-- What `collect_registry_gates` returns on some content of the registry. -/
def RegistryCollected (facts : HostFacts) (registry : ParseResult) : Prop :=
  if facts.sysPlatform = "win32" then ∃ outcome, registry = registryGates outcome
  else registry = { determinacy := .unknown }

theorem collect_registry_gates_ok {facts : HostFacts} {registry : ParseResult}
    (yields : (collectRegistryGates facts).Yields (.ok registry)) :
    RegistryCollected facts registry := by
  unfold collectRegistryGates at yields
  unfold RegistryCollected
  split at yields
  · rename_i other
    rw [if_neg other]
    cases yields
    rfl
  · rename_i windows
    rw [if_pos (not_not.mp windows)]
    obtain ⟨outcome, _, same⟩ := Program.yields_bind_ok.mp yields
    cases same
    exact ⟨outcome, rfl⟩

end Registry

section Sysmon

variable (facts : HostFacts)

/-- The answers of a host about Sysmon, beside its facts. -/
structure SysmonAnswers where
  services : String → ServiceReply
  registry : String → RegistryReply
  which : String → Option String
  isFile : String → Except OsError Bool
  run : String → RunOutcome

def SysmonAnswers.host (answers : SysmonAnswers) : SysmonHost :=
  ⟨facts.sysPlatform, answers.services, answers.registry, facts.environ, facts.joinPath,
    answers.which, answers.isFile, answers.run⟩

/-- The state of a service behind a reply, on Windows. -/
def serviceReply : ServiceReply → Except OsError ServiceState
  | .libraryFailed error => .error error
  | .managerFailed code =>
      .ok ⟨none, false, some ("OpenSCManagerW failed: WinError " ++ toString code)⟩
  | .serviceFailed code =>
      if code = errorServiceDoesNotExist then .ok ⟨some false, false, none⟩
      else .ok ⟨none, false, some ("OpenServiceW failed: WinError " ++ toString code)⟩
  | .queryFailed code =>
      .ok ⟨none, true, some ("QueryServiceStatusEx failed: WinError " ++ toString code)⟩
  | .status currentState => .ok ⟨some (currentState == serviceRunning), true, none⟩

variable {facts} (windows : facts.sysPlatform = "win32")
include windows

theorem service_state_reply (answers : SysmonAnswers) (name : String) :
    Sigmascope.serviceState (answers.host facts) name = serviceReply (answers.services name) := by
  have platform : (answers.host facts).platform = "win32" := windows
  rw [Sigmascope.serviceState, if_neg (not_not.mpr platform)]
  rfl

theorem service_state_ok {name : String} {state : ServiceState}
    (yields : (serviceState facts name).Yields (.ok state)) :
    ∃ reply, serviceReply reply = .ok state := by
  rw [serviceState, if_neg (not_not.mpr windows)] at yields
  obtain ⟨loaded, yields⟩ := yields_ask.mp yields
  obtain ⟨_, _, yields⟩ := Program.yields_bind_ok.mp yields
  obtain ⟨opened, yields⟩ := yields_ask.mp yields
  cases opened with
  | error code =>
      cases yields
      exact ⟨.managerFailed code, rfl⟩
  | ok manager =>
      obtain ⟨opened, yields⟩ := yields_ask.mp (Program.yields_ensuring_ok yields)
      cases opened with
      | error code =>
          refine ⟨.serviceFailed code, ?_⟩
          dsimp only at yields
          unfold serviceReply
          split at yields <;> rename_i known <;> cases yields
          · exact if_pos known
          · exact if_neg known
      | ok service =>
          obtain ⟨status, yields⟩ := yields_ask.mp (Program.yields_ensuring_ok yields)
          cases status with
          | error code =>
              cases yields
              exact ⟨.queryFailed code, rfl⟩
          | ok currentState =>
              cases yields
              exact ⟨.status currentState, rfl⟩

/-- Only the services that are looked for matter. -/
theorem find_service_congr (first second : SysmonAnswers) {names : List String}
    (alike : ∀ name ∈ names, first.services name = second.services name) :
    Sigmascope.findService (first.host facts) names =
      Sigmascope.findService (second.host facts) names := by
  induction names with
  | nil => rfl
  | cons name names induction =>
      have rest := induction fun other member => alike other (List.mem_cons_of_mem _ member)
      rw [Sigmascope.findService, Sigmascope.findService, service_state_reply windows,
        service_state_reply windows, alike name List.mem_cons_self, rest]

theorem find_service_ok {names : List String} (distinct : names.Nodup)
    {found : List CollectionError × Option (String × Option Bool)}
    (yields : (findService facts names).Yields (.ok found)) :
    ∃ services, ∀ answers : SysmonAnswers, answers.services = services →
      Sigmascope.findService (answers.host facts) names = .ok found := by
  induction names generalizing found with
  | nil =>
      cases yields
      exact ⟨fun _ => .status 0, fun _ _ => rfl⟩
  | cons name names induction =>
      obtain ⟨fresh, distinct⟩ := List.nodup_cons.mp distinct
      obtain ⟨state, asked, yields⟩ := Program.yields_bind_ok.mp yields
      obtain ⟨reply, state⟩ := service_state_ok windows asked
      dsimp only at yields
      split at yields
      · rename_i present
        cases yields
        refine ⟨fun _ => reply, ?_⟩
        intro answers same
        rw [Sigmascope.findService, service_state_reply windows, same, state]
        exact if_pos present
      · rename_i absent
        obtain ⟨more, searched, same⟩ := Program.yields_bind_ok.mp yields
        cases same
        obtain ⟨services, rest⟩ := induction distinct searched
        refine ⟨Function.update services name reply, ?_⟩
        intro answers same
        have others : Sigmascope.findService (answers.host facts) names = .ok more := by
          rw [← rest { answers with services := services } rfl]
          apply find_service_congr windows
          intro other member
          have apart : other ≠ name := fun equal => fresh (equal ▸ member)
          rw [same]
          exact Function.update_of_ne apart _ _
        rw [Sigmascope.findService, service_state_reply windows, same, Function.update_self, state,
          others]
        exact if_neg absent

omit windows

/-- One round of the loop over the executable names. -/
def foundPaths (paths : List String) (reply : Option String) : List String :=
  match reply with
  | some found => if found = "" ∨ found ∈ paths then paths else paths ++ [found]
  | none => paths

theorem add_found_step (answers : SysmonAnswers) (paths : List String) (name : String) :
    Sigmascope.addFound (answers.host facts) paths name = foundPaths paths (answers.which name) :=
  rfl

theorem add_found_ask (paths : List String) (name : String) (names : List String)
    {result : Except HostError (List String)}
    (yields : (addFound paths (name :: names)).Yields result) :
    ∃ reply, (addFound (foundPaths paths reply) names).Yields result := by
  obtain ⟨reply, yields⟩ := yields_ask.mp yields
  refine ⟨reply, ?_⟩
  cases reply with
  | none => exact yields
  | some found =>
      dsimp only [foundPaths] at yields ⊢
      split
      · rename_i known
        rwa [if_pos known] at yields
      · rename_i new
        rwa [if_neg new] at yields

theorem add_found_ok {names : List String} (distinct : names.Nodup) {paths found : List String}
    (yields : (addFound paths names).Yields (.ok found)) :
    ∃ which, ∀ answers : SysmonAnswers, answers.which = which →
      names.foldl (Sigmascope.addFound (answers.host facts)) paths = found := by
  induction names generalizing paths with
  | nil =>
      cases yields
      exact ⟨fun _ => none, fun _ _ => rfl⟩
  | cons name names induction =>
      obtain ⟨fresh, distinct⟩ := List.nodup_cons.mp distinct
      obtain ⟨reply, yields⟩ := add_found_ask paths name names yields
      obtain ⟨which, rest⟩ := induction distinct yields
      refine ⟨Function.update which name reply, ?_⟩
      intro answers same
      rw [List.foldl_cons, add_found_step, same, Function.update_self,
        ← rest { answers with which := which } rfl]
      apply List.foldl_ext
      intro paths other member
      have apart : other ≠ name := fun equal => fresh (equal ▸ member)
      rw [add_found_step, add_found_step, same, Function.update_of_ne apart]

/-- No path is looked at twice. -/
theorem found_paths_nodup {paths : List String} (distinct : paths.Nodup) (reply : Option String) :
    (foundPaths paths reply).Nodup := by
  cases reply with
  | none => exact distinct
  | some found =>
      unfold foundPaths
      dsimp only
      split
      · exact distinct
      · rename_i new
        exact List.Nodup.append distinct (List.nodup_singleton _)
          (List.disjoint_singleton.mpr fun member => new (Or.inr member))

theorem add_found_nodup {names paths found : List String} (distinct : paths.Nodup)
    (yields : (addFound paths names).Yields (.ok found)) : found.Nodup := by
  induction names generalizing paths with
  | nil =>
      cases yields
      exact distinct
  | cons name names induction =>
      obtain ⟨reply, yields⟩ := add_found_ask paths name names yields
      exact induction (found_paths_nodup distinct reply) yields

/-- Only the paths that are looked at matter. -/
theorem first_file_congr {first second : String → Except OsError Bool} {paths : List String}
    (alike : ∀ path ∈ paths, first path = second path) :
    Sigmascope.firstFile first paths = Sigmascope.firstFile second paths := by
  induction paths with
  | nil => rfl
  | cons path paths induction =>
      have rest := induction fun other member => alike other (List.mem_cons_of_mem _ member)
      rw [Sigmascope.firstFile, Sigmascope.firstFile, alike path List.mem_cons_self, rest]

theorem first_file_ok {paths : List String} (distinct : paths.Nodup) {found : Option String}
    (yields : (firstFile paths).Yields (.ok found)) :
    ∃ isFile, Sigmascope.firstFile isFile paths = .ok found := by
  induction paths with
  | nil =>
      cases yields
      exact ⟨fun _ => .ok false, rfl⟩
  | cons path paths induction =>
      obtain ⟨fresh, distinct⟩ := List.nodup_cons.mp distinct
      obtain ⟨reply, yields⟩ := yields_ask.mp yields
      obtain ⟨there, raised, yields⟩ := Program.yields_bind_ok.mp yields
      cases raise_os_error_ok raised
      cases there with
      | true =>
          cases yields
          exact ⟨fun _ => .ok true, by rw [Sigmascope.firstFile]⟩
      | false =>
          obtain ⟨isFile, rest⟩ := induction distinct yields
          refine ⟨Function.update isFile path (.ok false), ?_⟩
          rw [Sigmascope.firstFile, Function.update_self, ← rest]
          apply first_file_congr
          intro other member
          have apart : other ≠ path := fun equal => fresh (equal ▸ member)
          exact Function.update_of_ne apart _ _

/-- What the value of a registry key says to the collector. -/
def registryReply : Except KeyFailure RegistryValue → RegistryReply
  | .error _ => .failed
  | .ok (.other _) => .notText
  | .ok (.text raw) => .text raw

theorem image_path_ok (windows : facts.sysPlatform = "win32")
    {outcome : Except KeyFailure RegistryValue} {image : Option String}
    (read : imagePath facts outcome = .ok image) {answers : SysmonAnswers} {name : String}
    (same : answers.registry (serviceKey name) = registryReply outcome) :
    Sigmascope.serviceImagePath (answers.host facts) name = .ok image := by
  have platform : (answers.host facts).platform = "win32" := windows
  have replied : (answers.host facts).registry (serviceKey name) = registryReply outcome := same
  rw [Sigmascope.serviceImagePath, if_neg (not_not.mpr platform), replied]
  rcases outcome with failure | raw | truth
  · cases read
    rfl
  · have sameEnviron : (answers.host facts).environ = facts.environ := rfl
    simp only [registryReply, sameEnviron]
    unfold imagePath at read
    dsimp only at read
    cases found : commandExecutable (expandVars facts.environ (strip raw.toList)) with
    | none =>
        rw [found] at read
        cases read
    | some executable =>
        rw [found] at read
        dsimp only at read ⊢
        unfold resolveSystemRoot
        split at read <;> rename_i below <;> cases read
        · rw [if_pos below]
          rfl
        · rw [if_neg below]
  · cases read
    rfl

theorem service_image_path_ok (windows : facts.sysPlatform = "win32") {name : String}
    {image : Option String} (yields : (serviceImagePath facts name).Yields (.ok image)) :
    ∃ registry, ∀ answers : SysmonAnswers, answers.registry = registry →
      Sigmascope.serviceImagePath (answers.host facts) name = .ok image := by
  rw [serviceImagePath, if_neg (not_not.mpr windows)] at yields
  obtain ⟨outcome, _, yields⟩ := Program.yields_bind_ok.mp yields
  refine ⟨fun _ => registryReply outcome, ?_⟩
  intro answers same
  apply image_path_ok windows (of_except_ok yields)
  rw [same]

theorem executable_names_nodup : executableNames.Nodup := by decide

theorem service_names_nodup : serviceNames.Nodup := by decide

theorem executable_paths_ok (windows : facts.sysPlatform = "win32") {name : String}
    {paths : List String} (yields : (executablePaths facts name).Yields (.ok paths)) :
    paths.Nodup ∧ ∃ registry which, ∀ answers : SysmonAnswers, answers.registry = registry →
      answers.which = which → Sigmascope.executablePaths (answers.host facts) name = .ok paths := by
  obtain ⟨image, read, yields⟩ := Program.yields_bind_ok.mp yields
  obtain ⟨registry, located⟩ := service_image_path_ok windows read
  obtain ⟨which, searched⟩ := add_found_ok executable_names_nodup yields
  constructor
  · apply add_found_nodup _ yields
    cases image with
    | none => exact List.nodup_nil
    | some path => exact (List.nodup_singleton path).filter _
  · refine ⟨registry, which, ?_⟩
    intro answers sameRegistry sameWhich
    rw [Sigmascope.executablePaths, located answers sameRegistry]
    exact congrArg Except.ok (searched answers sameWhich)

theorem run_sysmon_outcome (answers : SysmonAnswers) (errors : List CollectionError)
    (executable : String) :
    runSysmon facts.decodeOem (answers.host facts) errors executable =
      sysmonOutcome facts errors executable (answers.run executable) := rfl

theorem collect_running_ok (windows : facts.sysPlatform = "win32")
    {errors : List CollectionError} {name : String} {sysmon : SysmonCollection}
    (yields : (collectRunning facts errors name).Yields (.ok sysmon)) :
    ∃ registry which isFile run, ∀ answers : SysmonAnswers, answers.registry = registry →
      answers.which = which → answers.isFile = isFile → answers.run = run →
      Sigmascope.collectRunning facts.decodeOem (answers.host facts) errors name = .ok sysmon := by
  obtain ⟨paths, listed, yields⟩ := Program.yields_bind_ok.mp yields
  obtain ⟨distinct, registry, which, searched⟩ := executable_paths_ok windows listed
  obtain ⟨found, looked, yields⟩ := Program.yields_bind_ok.mp yields
  obtain ⟨isFile, probed⟩ := first_file_ok distinct looked
  have reached : ∀ answers : SysmonAnswers, answers.registry = registry →
      answers.which = which → answers.isFile = isFile →
      Sigmascope.executablePaths (answers.host facts) name = .ok paths ∧
        Sigmascope.firstFile (answers.host facts).isFile paths = .ok found := by
    intro answers sameRegistry sameWhich sameFiles
    refine ⟨searched answers sameRegistry sameWhich, ?_⟩
    rw [← probed, ← sameFiles]
    rfl
  cases found with
  | none =>
      cases yields
      refine ⟨registry, which, isFile, fun _ => .raised "", ?_⟩
      intro answers sameRegistry sameWhich sameFiles _
      obtain ⟨listed, probed⟩ := reached answers sameRegistry sameWhich sameFiles
      rw [Sigmascope.collectRunning, listed]
      dsimp only
      rw [probed]
  | some executable =>
      obtain ⟨outcome, yields⟩ := yields_ask.mp yields
      cases yields
      refine ⟨registry, which, isFile, fun _ => outcome, ?_⟩
      intro answers sameRegistry sameWhich sameFiles sameRun
      obtain ⟨listed, probed⟩ := reached answers sameRegistry sameWhich sameFiles
      rw [Sigmascope.collectRunning, listed]
      dsimp only
      rw [probed]
      dsimp only
      rw [run_sysmon_outcome, sameRun]

/-- What `collect_sysmon` returns on some host with these facts. -/
def SysmonCollected (facts : HostFacts) (sysmon : SysmonCollection) : Prop :=
  ∃ answers : SysmonAnswers,
    Sigmascope.collectSysmon facts.decodeOem (answers.host facts) = .ok sysmon

/-- The Sysmon state is what some host leads to. -/
theorem collect_sysmon_ok {sysmon : SysmonCollection}
    (yields : (collectSysmon facts).Yields (.ok sysmon)) : SysmonCollected facts sysmon := by
  by_cases windows : facts.sysPlatform = "win32"
  · rw [collectSysmon, if_neg (not_not.mpr windows)] at yields
    obtain ⟨⟨errors, service⟩, asked, yields⟩ := Program.yields_bind_ok.mp yields
    obtain ⟨services, found⟩ := find_service_ok windows service_names_nodup asked
    have platform : ∀ answers : SysmonAnswers, (answers.host facts).platform = "win32" :=
      fun _ => windows
    let silent : SysmonAnswers :=
      ⟨services, fun _ => .failed, fun _ => none, fun _ => .ok false, fun _ => .raised ""⟩
    rcases service with _ | ⟨name, running⟩
    · refine ⟨silent, ?_⟩
      simp only [Sigmascope.collectSysmon, if_neg (not_not.mpr (platform silent)),
        found silent rfl]
      dsimp only at yields
      split at yields <;> rename_i quiet <;> cases yields
      · exact if_pos quiet
      · exact if_neg quiet
    · have start : ∀ answers : SysmonAnswers, answers.services = services →
          Sigmascope.collectSysmon facts.decodeOem (answers.host facts) =
            if running ≠ some true then .ok ⟨some true, running, none, errors⟩
            else Sigmascope.collectRunning facts.decodeOem (answers.host facts) errors name := by
        intro answers same
        simp only [Sigmascope.collectSysmon, if_neg (not_not.mpr (platform answers)),
          found answers same]
      dsimp only at yields
      split at yields
      · rename_i stopped
        cases yields
        refine ⟨silent, ?_⟩
        rw [start silent rfl]
        exact if_pos stopped
      · rename_i active
        obtain ⟨registry, which, isFile, run, collected⟩ := collect_running_ok windows yields
        refine ⟨⟨services, registry, which, isFile, run⟩, ?_⟩
        rw [start _ rfl, if_neg active]
        exact collected _ rfl rfl rfl rfl
  · rw [collectSysmon, if_pos windows] at yields
    cases yields
    refine ⟨⟨fun _ => .status 0, fun _ => .failed, fun _ => none, fun _ => .ok false,
      fun _ => .raised ""⟩, ?_⟩
    exact if_pos windows

end Sysmon

section Auditd

variable {facts : HostFacts}

theorem first_candidate_ok {candidates : List String} (distinct : candidates.Nodup)
    {found : Option String} (yields : (firstCandidate candidates).Yields (.ok found)) :
    ∃ pathExists : String → Bool, candidates.find? pathExists = found := by
  induction candidates with
  | nil =>
      cases yields
      exact ⟨fun _ => false, rfl⟩
  | cons candidate candidates induction =>
      obtain ⟨fresh, distinct⟩ := List.nodup_cons.mp distinct
      obtain ⟨there, yields⟩ := yields_ask.mp yields
      cases there with
      | true =>
          cases yields
          exact ⟨fun _ => true, rfl⟩
      | false =>
          obtain ⟨pathExists, rest⟩ := induction distinct yields
          refine ⟨Function.update pathExists candidate false, ?_⟩
          rw [List.find?_cons, Function.update_self, ← rest]
          apply List.find?_congr
          intro other member
          have apart : other ≠ candidate := fun equal => fresh (equal ▸ member)
          exact Function.update_of_ne apart _ _

theorem unsearchable_ok {directories : List String} (distinct : directories.Nodup)
    {blocked : Bool} (yields : (unsearchable directories).Yields (.ok blocked)) :
    ∃ isDirectory searchable : String → Bool,
      (directories.any fun directory => isDirectory directory && !searchable directory) =
        blocked := by
  induction directories with
  | nil =>
      cases yields
      exact ⟨fun _ => false, fun _ => false, rfl⟩
  | cons directory directories induction =>
      obtain ⟨fresh, distinct⟩ := List.nodup_cons.mp distinct
      have apart : ∀ other ∈ directories, other ≠ directory :=
        fun other member equal => fresh (equal ▸ member)
      have go : ∀ there access : Bool, (there && !access) = false →
          (unsearchable directories).Yields (.ok blocked) →
          ∃ isDirectory searchable : String → Bool,
            ((directory :: directories).any fun name =>
              isDirectory name && !searchable name) = blocked := by
        intro there access clear yields
        obtain ⟨isDirectory, searchable, rest⟩ := induction distinct yields
        refine ⟨Function.update isDirectory directory there,
          Function.update searchable directory access, ?_⟩
        rw [List.any_cons, Function.update_self, Function.update_self, clear, Bool.false_or,
          ← rest]
        rw [Bool.eq_iff_iff, List.any_eq_true, List.any_eq_true]
        apply exists_congr
        intro other
        apply and_congr_right
        intro member
        rw [Function.update_of_ne (apart other member),
          Function.update_of_ne (apart other member)]
      obtain ⟨there, yields⟩ := yields_ask.mp yields
      cases there with
      | false => exact go false true rfl yields
      | true =>
          obtain ⟨access, yields⟩ := yields_ask.mp yields
          cases access with
          | true => exact go true true rfl yields
          | false =>
              cases yields
              exact ⟨fun _ => true, fun _ => false, rfl⟩

theorem sbin_candidates_nodup : sbinCandidates.Nodup := by decide

theorem sbin_directories_nodup : sbinDirectories.Nodup := by decide

theorem locate_auditctl_ok {located : Option String × Bool}
    (yields : locateAuditctl.Yields (.ok located)) :
    ∃ fileSystem, Sigmascope.locateAuditctl fileSystem = located := by
  obtain ⟨reply, yields⟩ := yields_ask.mp yields
  cases reply with
  | some executable =>
      cases yields
      exact ⟨⟨fun _ => some executable, fun _ => false, fun _ => false, fun _ => false⟩, rfl⟩
  | none =>
      obtain ⟨candidate, tried, yields⟩ := Program.yields_bind_ok.mp yields
      obtain ⟨pathExists, found⟩ := first_candidate_ok sbin_candidates_nodup tried
      cases candidate with
      | some path =>
          cases yields
          refine ⟨⟨fun _ => none, pathExists, fun _ => false, fun _ => false⟩, ?_⟩
          rw [Sigmascope.locateAuditctl]
          dsimp only
          rw [found]
      | none =>
          obtain ⟨blocked, searched, same⟩ := Program.yields_bind_ok.mp yields
          cases same
          obtain ⟨isDirectory, searchable, outcome⟩ :=
            unsearchable_ok sbin_directories_nodup searched
          refine ⟨⟨fun _ => none, pathExists, isDirectory, searchable⟩, ?_⟩
          rw [Sigmascope.locateAuditctl]
          dsimp only
          rw [found]
          exact congrArg (fun blocked => (none, !blocked)) outcome

/-- What `collect_auditd` returns on some host. -/
def AuditdCollected (collection : AuditdCollection) : Prop :=
  ∃ fileSystem execute, collection = Sigmascope.collectAuditd fileSystem execute

/-- The auditd state is what some host leads to. -/
theorem collect_auditd_ok {collection : AuditdCollection}
    (yields : (collectAuditd facts).Yields (.ok collection)) : AuditdCollected collection := by
  obtain ⟨⟨executable, conclusive⟩, searched, yields⟩ := Program.yields_bind_ok.mp yields
  obtain ⟨fileSystem, located⟩ := locate_auditctl_ok searched
  cases executable with
  | none =>
      refine ⟨fileSystem, fun _ _ => .raised "", ?_⟩
      rw [Sigmascope.collectAuditd, located]
      cases conclusive <;> cases yields <;> rfl
  | some executable =>
      obtain ⟨rules, listed, yields⟩ := Program.yields_bind_ok.mp yields
      obtain ⟨status, shown, same⟩ := Program.yields_bind_ok.mp yields
      obtain ⟨rulesOutcome, listed⟩ := yields_ask.mp listed
      obtain ⟨statusOutcome, shown⟩ := yields_ask.mp shown
      cases listed
      cases shown
      cases same
      refine ⟨fileSystem, fun _ argument =>
        decodeOutcome facts (if argument = "-l" then rulesOutcome else statusOutcome), ?_⟩
      rw [Sigmascope.collectAuditd, located]
      rfl

end Auditd

end Sigmascope.Host
