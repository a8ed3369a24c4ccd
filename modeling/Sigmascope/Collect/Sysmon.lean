import Sigmascope.Collect.AuditpolNative
import Sigmascope.Library.Regex

/-!
The collection of the Sysmon state. The service manager, the registry, the environment,
the file system and `sysmon -c` answer as they like; the way to the executable is cut
out of a registry text, and what that raises ends the collection.
-/

namespace Sigmascope

set_option autoImplicit false

open Sigmascope.Library Sigmascope.Library.PyText

/-- How far the query of a service gets; its first step loads the library of the interface. -/
inductive ServiceReply where
  | libraryFailed (error : OsError)
  | managerFailed (code : Int)
  | serviceFailed (code : Int)
  | queryFailed (code : Int)
  | status (currentState : Nat)

inductive RegistryReply where
  | failed
  | notText
  | text (raw : String)

/-- A started process that is finished, or the text of the `OSError` or `TimeoutExpired`. -/
inductive RunOutcome where
  | raised (text : String)
  | completed (returnCode : Int) (stdout stderr : List UInt8)

/-- What the collector asks of the host. `os.environ` has its names in upper case. -/
structure SysmonHost where
  platform : String
  services : String → ServiceReply
  registry : String → RegistryReply
  environ : Text → Option Text
  joinPath : Text → Text → Text
  which : String → Option String
  isFile : String → Except OsError Bool
  run : String → RunOutcome

/-- The exceptions that leave `collect_sysmon`. -/
inductive SysmonRaise where
  | indexError
  | osError (error : OsError)
deriving DecidableEq

structure ServiceState where
  running : Option Bool
  present : Bool
  error : Option String

def serviceRunning : Nat := 4

def errorServiceDoesNotExist : Int := 1060

/-- `_service_state` -/
def serviceState (host : SysmonHost) (name : String) : Except OsError ServiceState :=
  if host.platform ≠ "win32" then .ok ⟨none, false, some "Windows service APIs are unavailable"⟩
  else
    match host.services name with
    | .libraryFailed error => .error error
    | .managerFailed code =>
        .ok ⟨none, false, some ("OpenSCManagerW failed: WinError " ++ toString code)⟩
    | .serviceFailed code =>
        if code = errorServiceDoesNotExist then .ok ⟨some false, false, none⟩
        else .ok ⟨none, false, some ("OpenServiceW failed: WinError " ++ toString code)⟩
    | .queryFailed code =>
        .ok ⟨none, true, some ("QueryServiceStatusEx failed: WinError " ++ toString code)⟩
    | .status currentState => .ok ⟨some (currentState == serviceRunning), true, none⟩

def serviceKey (name : String) : String := "SYSTEM\\CurrentControlSet\\Services\\" ++ name

/-- Where `os.path.expandvars` is in its text. -/
inductive ExpandMode where
  | plain
  | quoted
  | percent (name : Text)
  | dollar
  | braced (name : Text)
  | named (name : Text)

def isVariableChar (char : Char) : Bool :=
  isAsciiLetter char || isAsciiDigit char || char == '_' || char == '-'

/-- The value of a variable, or its spelling when there is none. -/
def variableValue (environ : Text → Option Text) (name spelling : Text) : Text :=
  (environ (upper name)).getD spelling

/-- A character outside of quotes and variables. -/
def expandPlain (char : Char) : Text × ExpandMode :=
  if char = '\'' then ([char], .quoted)
  else if char = '%' then ([], .percent [])
  else if char = '$' then ([], .dollar)
  else ([char], .plain)

/-- A character behind an unbraced name ends the name and counts for itself. -/
def endName (environ : Text → Option Text) (name : Text) (char : Char) : Text × ExpandMode :=
  (variableValue environ name ('$' :: name) ++ (expandPlain char).1, (expandPlain char).2)

def expandStep (environ : Text → Option Text) (mode : ExpandMode) (char : Char) :
    Text × ExpandMode :=
  match mode with
  | .plain => expandPlain char
  | .quoted => ([char], if char = '\'' then .plain else .quoted)
  | .percent name =>
      if char ≠ '%' then ([], .percent (name ++ [char]))
      else if name = [] then (['%'], .plain)
      else (variableValue environ name ('%' :: name ++ ['%']), .plain)
  | .dollar =>
      if char = '$' then (['$'], .plain)
      else if char = '{' then ([], .braced [])
      else if isVariableChar char then ([], .named [char])
      else endName environ [] char
  | .braced name =>
      if char = '}' then (variableValue environ name ('$' :: '{' :: name ++ ['}']), .plain)
      else ([], .braced (name ++ [char]))
  | .named name =>
      if isVariableChar char then ([], .named (name ++ [char])) else endName environ name char

/-- What is left to write at the end of the text. -/
def expandEnd (environ : Text → Option Text) : ExpandMode → Text
  | .plain => []
  | .quoted => []
  | .percent name => '%' :: name
  | .dollar => variableValue environ [] ['$']
  | .braced name => '$' :: '{' :: name
  | .named name => variableValue environ name ('$' :: name)

def expandFrom (environ : Text → Option Text) : ExpandMode → Text → Text
  | mode, [] => expandEnd environ mode
  | mode, char :: rest =>
      let (written, next) := expandStep environ mode char
      written ++ expandFrom environ next rest

/-- `os.path.expandvars` on Windows. -/
def expandVars (environ : Text → Option Text) (text : Text) : Text :=
  if !text.contains '$' && !text.contains '%' then text else expandFrom environ .plain text

/-- `^"([^"]+)"` -/
def quotedPath : Regex :=
  Regex.concat
    [.single (· == '"'), .group "1" (.seq (.single (· != '"')) (.greedy (· != '"'))),
      .single (· == '"')]

/-- The executable at the start of a command line; `none` stands for `IndexError`. -/
def commandExecutable (value : Text) : Option Text :=
  match quotedPath.matchText value with
  | some captures => some (Regex.captured captures "1")
  | none => (words value).head?

def systemRootPrefix : Text := "\\systemroot\\".toList

/-- A path under the variable of the kernel is moved to the directory of Windows. -/
def resolveSystemRoot (host : SysmonHost) (executable : Text) : Text :=
  if systemRootPrefix.isPrefixOf (lower executable) then
    host.joinPath ((host.environ "SYSTEMROOT".toList).getD "C:\\Windows".toList)
      (executable.drop systemRootPrefix.length)
  else executable

/-- `_service_image_path` -/
def serviceImagePath (host : SysmonHost) (name : String) : Except SysmonRaise (Option String) :=
  if host.platform ≠ "win32" then .ok none
  else
    match host.registry (serviceKey name) with
    | .failed => .ok none
    | .notText => .ok none
    | .text raw =>
        match commandExecutable (expandVars host.environ (strip raw.toList)) with
        | none => .error .indexError
        | some executable => .ok (some (String.ofList (resolveSystemRoot host executable)))

def serviceNames : List String := ["Sysmon64", "Sysmon"]

def executableNames : List String := ["Sysmon64.exe", "Sysmon.exe", "sysmon.exe"]

/-- The loop over the service names: the errors on the way, and the service that is there. -/
def findService (host : SysmonHost) :
    List String → Except OsError (List CollectionError × Option (String × Option Bool))
  | [] => .ok ([], none)
  | name :: names =>
      match serviceState host name with
      | .error error => .error error
      | .ok state =>
          let errors := state.error.toList.map fun message => ⟨"sysmon", message, name⟩
          if state.present then .ok (errors, some (name, state.running))
          else (findService host names).map fun (more, found) => (errors ++ more, found)

/-- One round of the loop over the executable names. -/
def addFound (host : SysmonHost) (paths : List String) (name : String) : List String :=
  match host.which name with
  | some found => if found = "" ∨ found ∈ paths then paths else paths ++ [found]
  | none => paths

/-- The paths where the executable may be. -/
def executablePaths (host : SysmonHost) (name : String) : Except SysmonRaise (List String) :=
  (serviceImagePath host name).map fun image =>
    executableNames.foldl (addFound host) (image.toList.filter (· != ""))

/-- The first path with a file; later ones are not looked at. -/
def firstFile (isFile : String → Except OsError Bool) : List String → Except OsError (Option String)
  | [] => .ok none
  | path :: paths =>
      match isFile path with
      | .error error => .error error
      | .ok true => .ok (some path)
      | .ok false => firstFile isFile paths

/-- The outcome of `sysmon -c`. -/
def runSysmon (decodeOem : List UInt8 → String) (host : SysmonHost)
    (errors : List CollectionError) (executable : String) : SysmonCollection :=
  match host.run executable with
  | .raised text =>
      ⟨some true, some true, none, errors ++ [⟨"sysmon", text, executable ++ " -c"⟩]⟩
  | .completed returnCode stdout stderr =>
      if returnCode ≠ 0 then
        let message := String.ofList (strip (decodeOem stderr).toList)
        let report := if message = "" then "sysmon -c exited " ++ toString returnCode else message
        ⟨some true, some true, none, errors ++ [⟨"sysmon", report, executable ++ " -c"⟩]⟩
      else ⟨some true, some true, some (if stdout = [] then stderr else stdout), errors⟩

/-- `collect_sysmon` behind the queries of the services. -/
def collectRunning (decodeOem : List UInt8 → String) (host : SysmonHost)
    (errors : List CollectionError) (name : String) : Except SysmonRaise SysmonCollection :=
  match executablePaths host name with
  | .error raised => .error raised
  | .ok paths =>
      match firstFile host.isFile paths with
      | .error error => .error (.osError error)
      | .ok none =>
          .ok ⟨some true, some true, none, errors ++
            [⟨"sysmon", "Sysmon service is running but its executable could not be located",
              name⟩]⟩
      | .ok (some executable) => .ok (runSysmon decodeOem host errors executable)

def collectSysmon (decodeOem : List UInt8 → String) (host : SysmonHost) :
    Except SysmonRaise SysmonCollection :=
  if host.platform ≠ "win32" then
    .ok ⟨none, none, none,
      [⟨"sysmon", "Sysmon collection is only available on Windows", "Windows SCM"⟩]⟩
  else
    match findService host serviceNames with
    | .error error => .error (.osError error)
    | .ok (errors, none) =>
        if errors = [] then .ok ⟨some false, some false, none, errors⟩
        else .ok ⟨none, none, none, errors⟩
    | .ok (errors, some (name, running)) =>
        if running ≠ some true then .ok ⟨some true, running, none, errors⟩
        else collectRunning decodeOem host errors name

/-- The library loads, and the query of the service gets as far as the service. -/
def servicePresent (host : SysmonHost) (name : String) : Bool :=
  (serviceState host name).toOption.any ServiceState.present

def serviceRuns (host : SysmonHost) (name : String) : Bool :=
  (serviceState host name).toOption.any fun state => state.running == some true

/-- The service that is asked for its executable. -/
def runningService (host : SysmonHost) : Option String :=
  (serviceNames.find? (servicePresent host)).filter (serviceRuns host)

/-- The library of the service manager does not load when a service is looked for. -/
def UnloadedLibrary (host : SysmonHost) : Prop :=
  host.platform = "win32" ∧ ∃ front name back error, serviceNames = front ++ name :: back ∧
    (∀ earlier ∈ front, servicePresent host earlier = false) ∧
    host.services name = .libraryFailed error

/-- The registry text of the running service is blank when its variables are expanded. -/
def BlankImagePath (host : SysmonHost) : Prop :=
  ∃ name raw, runningService host = some name ∧ host.registry (serviceKey name) = .text raw ∧
    ∀ char ∈ expandVars host.environ (strip raw.toList), isSpace char = true

/-- The file system refuses to tell about a path before a file is found. -/
def RefusedProbe (host : SysmonHost) : Prop :=
  ∃ name front path back error, runningService host = some name ∧
    executablePaths host name = .ok (front ++ path :: back) ∧
    (∀ earlier ∈ front, host.isFile earlier = .ok false) ∧ host.isFile path = .error error

/-- A collection comes back, and it does not keep silent about a missing configuration. -/
def Collects (decodeOem : List UInt8 → String) (host : SysmonHost) : Prop :=
  ∃ collection, collectSysmon decodeOem host = .ok collection ∧
    (collection.installed = some true → collection.running = some true →
      collection.currentConfig = none → collection.errors ≠ [])

section Executable

theorem quoted_path_blank {text : Text} (blank : ∀ char ∈ text, isSpace char = true) :
    quotedPath.matchText text = none := by
  cases text with
  | nil => rfl
  | cons char rest =>
      have apart : (char == '"') = false := by
        rw [beq_eq_false_iff_ne]
        intro same
        have space := blank char List.mem_cons_self
        rw [same] at space
        revert space
        decide
      simp [quotedPath, Regex.concat, Regex.matchText, Regex.matchAt, Regex.run, apart]

/-- The executable is missing from blank texts only. -/
theorem command_executable_none_iff (text : Text) :
    commandExecutable text = none ↔ ∀ char ∈ text, isSpace char = true := by
  unfold commandExecutable
  cases quoted : quotedPath.matchText text with
  | none => rw [List.head?_eq_none_iff, words_nil_iff]
  | some captures =>
      constructor
      · intro missing
        cases missing
      · intro blank
        rw [quoted_path_blank blank] at quoted
        cases quoted

variable (host : SysmonHost) (name : String)

theorem service_image_path_raises_iff (windows : host.platform = "win32") (raised : SysmonRaise) :
    serviceImagePath host name = .error raised ↔
      raised = .indexError ∧ ∃ raw, host.registry (serviceKey name) = .text raw ∧
        ∀ char ∈ expandVars host.environ (strip raw.toList), isSpace char = true := by
  rw [serviceImagePath, if_neg (not_not.mpr windows)]
  cases reply : host.registry (serviceKey name) with
  | failed => simp
  | notText => simp
  | text raw =>
      simp only [RegistryReply.text.injEq, exists_eq_left', ← command_executable_none_iff]
      cases commandExecutable (expandVars host.environ (strip raw.toList)) with
      | none => simp [eq_comm]
      | some executable => simp

theorem map_raises_iff {Error Value Result : Type} (result : Except Error Value)
    (change : Value → Result) (error : Error) :
    result.map change = .error error ↔ result = .error error := by
  cases result <;> simp [Except.map]

theorem executable_paths_raises_iff (raised : SysmonRaise) :
    executablePaths host name = .error raised ↔ serviceImagePath host name = .error raised :=
  map_raises_iff _ _ raised

section Probes

variable {isFile : String → Except OsError Bool}

theorem first_file_skip {front : List String}
    (absent : ∀ earlier ∈ front, isFile earlier = .ok false) (paths : List String) :
    firstFile isFile (front ++ paths) = firstFile isFile paths := by
  induction front with
  | nil => rfl
  | cons earlier front induction =>
      rw [List.cons_append, firstFile, absent earlier List.mem_cons_self]
      exact induction fun other member => absent other (List.mem_cons_of_mem _ member)

theorem first_file_error_iff {paths : List String} {error : OsError} :
    firstFile isFile paths = .error error ↔
      ∃ front path back, paths = front ++ path :: back ∧
        (∀ earlier ∈ front, isFile earlier = .ok false) ∧ isFile path = .error error := by
  constructor
  · intro failed
    induction paths with
    | nil => cases failed
    | cons path paths induction =>
        rw [firstFile] at failed
        cases probe : isFile path with
        | error other =>
            rw [probe] at failed
            cases failed
            exact ⟨[], path, paths, rfl, by simp, probe⟩
        | ok found =>
            rw [probe] at failed
            cases found with
            | true => cases failed
            | false =>
                obtain ⟨front, refused, back, rfl, absent, reason⟩ := induction failed
                refine ⟨path :: front, refused, back, rfl, ?_, reason⟩
                exact List.forall_mem_cons.mpr ⟨probe, absent⟩
  · intro given
    obtain ⟨front, path, back, rfl, absent, probe⟩ := given
    rw [first_file_skip absent, firstFile, probe]

end Probes

end Executable

section Services

variable (host : SysmonHost)

theorem service_state_raises_iff (name : String) (error : OsError) :
    serviceState host name = .error error ↔
      host.platform = "win32" ∧ host.services name = .libraryFailed error := by
  unfold serviceState
  by_cases windows : host.platform = "win32"
  · rw [if_neg (not_not.mpr windows)]
    cases reply : host.services name with
    | serviceFailed code =>
        dsimp only
        split <;> simp
    | _ => simp [windows]
  · rw [if_pos windows]
    simp [windows]

/-- The first service that is there ends the search, unless the library fails before. -/
theorem find_service_found {names : List String}
    {found : List CollectionError × Option (String × Option Bool)}
    (searched : findService host names = .ok found) :
    found.2.map Prod.fst = names.find? (servicePresent host) ∧
      ∀ name running, found.2 = some (name, running) →
        serviceRuns host name = (running == some true) := by
  induction names generalizing found with
  | nil =>
      cases searched
      exact ⟨rfl, nofun⟩
  | cons name names induction =>
      rw [findService] at searched
      cases asked : serviceState host name with
      | error error =>
          rw [asked] at searched
          cases searched
      | ok state =>
          have own : servicePresent host name = state.present := by
            rw [servicePresent, asked]
            rfl
          simp only [asked] at searched
          rw [List.find?_cons, own]
          cases present : state.present with
          | true =>
              rw [present, if_pos rfl] at searched
              cases searched
              refine ⟨rfl, ?_⟩
              intro other running same
              cases same
              rw [serviceRuns, asked]
              rfl
          | false =>
              rw [present, if_neg Bool.false_ne_true] at searched
              cases rest : findService host names with
              | error error =>
                  rw [rest] at searched
                  cases searched
              | ok more =>
                  rw [rest] at searched
                  cases searched
                  obtain ⟨first, runs⟩ := induction rest
                  exact ⟨first, runs⟩

theorem find_service_raises_iff (names : List String) :
    (∃ error, findService host names = .error error) ↔
      host.platform = "win32" ∧ ∃ front name back error, names = front ++ name :: back ∧
        (∀ earlier ∈ front, servicePresent host earlier = false) ∧
        host.services name = .libraryFailed error := by
  induction names with
  | nil => simp [findService]
  | cons name names induction =>
      rw [findService]
      cases asked : serviceState host name with
      | error error =>
          obtain ⟨windows, failed⟩ := (service_state_raises_iff host name error).mp asked
          exact iff_of_true ⟨error, rfl⟩
            ⟨windows, [], name, names, error, rfl, by simp, failed⟩
      | ok state =>
          have own : servicePresent host name = state.present := by
            rw [servicePresent, asked]
            rfl
          have loaded : ∀ error, host.platform = "win32" →
              host.services name ≠ .libraryFailed error := by
            intro error windows failed
            rw [(service_state_raises_iff host name error).mpr ⟨windows, failed⟩] at asked
            cases asked
          dsimp only
          cases present : state.present with
          | true =>
              rw [if_pos rfl]
              apply iff_of_false
              · rintro ⟨error, same⟩
                cases same
              · rintro ⟨windows, front, other, back, error, split, absent, failed⟩
                cases front with
                | nil =>
                    cases split
                    exact loaded error windows failed
                | cons first front =>
                    cases split
                    rw [present, absent name List.mem_cons_self] at own
                    cases own
          | false =>
              rw [if_neg Bool.false_ne_true]
              simp only [map_raises_iff]
              rw [induction]
              apply and_congr_right
              intro windows
              constructor
              · rintro ⟨front, other, back, error, rfl, absent, failed⟩
                refine ⟨name :: front, other, back, error, rfl, ?_, failed⟩
                exact List.forall_mem_cons.mpr ⟨own.trans present, absent⟩
              · rintro ⟨front, other, back, error, split, absent, failed⟩
                cases front with
                | nil =>
                    cases split
                    exact absurd failed (loaded error windows)
                | cons first front =>
                    cases split
                    exact ⟨front, other, back, error, rfl,
                      (List.forall_mem_cons.mp absent).2, failed⟩

theorem unloaded_library_iff :
    (∃ error, findService host serviceNames = .error error) ↔ UnloadedLibrary host :=
  find_service_raises_iff host serviceNames

theorem running_service_windows {name : String} (running : runningService host = some name) :
    host.platform = "win32" := by
  by_contra other
  have absent : servicePresent host = fun _ => false := by
    funext name
    rw [servicePresent, serviceState, if_pos other]
    rfl
  rw [runningService, absent, List.find?_eq_none.mpr (by simp)] at running
  cases running

end Services

section Collection

variable (decodeOem : List UInt8 → String) (host : SysmonHost)

theorem run_sysmon_reports (errors : List CollectionError) (executable : String)
    (missing : (runSysmon decodeOem host errors executable).currentConfig = none) :
    (runSysmon decodeOem host errors executable).errors ≠ [] := by
  unfold runSysmon at missing ⊢
  cases outcome : host.run executable with
  | raised text => exact List.append_ne_nil_of_right_ne_nil _ (List.cons_ne_nil _ _)
  | completed returnCode stdout stderr =>
      simp only [outcome] at missing ⊢
      split at missing
      · rename_i failed
        rw [if_pos failed]
        exact List.append_ne_nil_of_right_ne_nil _ (List.cons_ne_nil _ _)
      · cases missing

theorem collect_running_reports {errors : List CollectionError} {name : String}
    {collection : SysmonCollection}
    (collected : collectRunning decodeOem host errors name = .ok collection)
    (missing : collection.currentConfig = none) : collection.errors ≠ [] := by
  unfold collectRunning at collected
  cases located : executablePaths host name with
  | error raised =>
      rw [located] at collected
      cases collected
  | ok paths =>
      simp only [located] at collected
      cases probed : firstFile host.isFile paths with
      | error error =>
          rw [probed] at collected
          cases collected
      | ok found =>
          rw [probed] at collected
          cases found with
          | none =>
              cases collected
              exact List.append_ne_nil_of_right_ne_nil _ (List.cons_ne_nil _ _)
          | some executable =>
              cases collected
              exact run_sysmon_reports decodeOem host errors executable missing

/-- What keeps a collection from coming back: the way to the executable, or the probes of it. -/
theorem collect_running_ok_iff (errors : List CollectionError) (name : String) :
    (∃ collection, collectRunning decodeOem host errors name = .ok collection) ↔
      (∀ raised, executablePaths host name ≠ .error raised) ∧
        ∀ paths error, executablePaths host name = .ok paths →
          firstFile host.isFile paths ≠ .error error := by
  constructor
  · intro given
    obtain ⟨collection, collected⟩ := given
    unfold collectRunning at collected
    constructor
    · intro raised located
      rw [located] at collected
      cases collected
    · intro paths error located refused
      simp only [located, refused] at collected
      cases collected
  · intro given
    unfold collectRunning
    cases located : executablePaths host name with
    | error raised => exact absurd located (given.1 raised)
    | ok paths =>
        cases probed : firstFile host.isFile paths with
        | error error => exact absurd probed (given.2 paths error located)
        | ok found =>
            simp only [probed]
            cases found with
            | none => exact ⟨_, rfl⟩
            | some executable => exact ⟨_, rfl⟩

theorem collect_sysmon_unloaded (unloaded : UnloadedLibrary host) :
    ¬Collects decodeOem host := by
  obtain ⟨error, failed⟩ := (unloaded_library_iff host).mpr unloaded
  rintro ⟨collection, collected, _⟩
  rw [collectSysmon, if_neg (not_not.mpr unloaded.1), failed] at collected
  cases collected

variable {host}

/-- While the library loads, the search finds the running service, if there is one. -/
theorem find_service_loaded (loaded : ¬UnloadedLibrary host) :
    ∃ errors service, findService host serviceNames = .ok (errors, service) ∧
      runningService host =
        (service.filter fun found => found.2 == some true).map Prod.fst := by
  cases searched : findService host serviceNames with
  | error error => exact absurd ((unloaded_library_iff host).mp ⟨error, searched⟩) loaded
  | ok found =>
      obtain ⟨first, runs⟩ := find_service_found host searched
      obtain ⟨errors, service⟩ := found
      refine ⟨errors, service, rfl, ?_⟩
      rw [runningService, ← first]
      cases service with
      | none => rfl
      | some pair =>
          obtain ⟨name, running⟩ := pair
          have own := runs name running rfl
          dsimp only [Option.map_some]
          rw [Option.filter_some, Option.filter_some, own]
          split <;> rfl

variable (host)

theorem collect_sysmon_running (loaded : ¬UnloadedLibrary host) {name : String}
    (running : runningService host = some name) :
    ∃ errors, collectSysmon decodeOem host = collectRunning decodeOem host errors name := by
  have windows := running_service_windows host running
  obtain ⟨errors, service, searched, same⟩ := find_service_loaded loaded
  obtain ⟨found, held, rfl⟩ := Option.map_eq_some_iff.mp (same.symm.trans running)
  obtain ⟨rfl, started⟩ := Option.filter_eq_some_iff.mp held
  refine ⟨errors, ?_⟩
  rw [collectSysmon, if_neg (not_not.mpr windows), searched]
  exact if_neg (not_not.mpr (beq_iff_eq.mp started))

theorem collect_sysmon_idle (loaded : ¬UnloadedLibrary host) (idle : runningService host = none) :
    ∃ collection, collectSysmon decodeOem host = .ok collection ∧
      ¬collection.running = some true := by
  unfold collectSysmon
  by_cases windows : host.platform = "win32"
  · obtain ⟨errors, service, searched, same⟩ := find_service_loaded loaded
    rw [if_neg (not_not.mpr windows), searched]
    rcases service with _ | ⟨name, running⟩
    · dsimp only
      split
      · exact ⟨_, rfl, by simp⟩
      · exact ⟨_, rfl, by simp⟩
    · have stopped : running ≠ some true := by
        rintro rfl
        rw [idle] at same
        cases same
      dsimp only
      rw [if_pos stopped]
      exact ⟨_, rfl, stopped⟩
  · rw [if_pos windows]
    exact ⟨_, rfl, by simp⟩

/-- Where no service runs, there is nothing else to go wrong. -/
theorem idle_undisturbed (idle : runningService host = none) :
    ¬BlankImagePath host ∧ ¬RefusedProbe host := by
  constructor
  · intro blank
    obtain ⟨name, raw, running, _⟩ := blank
    rw [idle] at running
    cases running
  · intro refused
    obtain ⟨name, front, path, back, error, running, _⟩ := refused
    rw [idle] at running
    cases running

section Running

variable {host} {name : String} (running : runningService host = some name)
include running

theorem blank_image_path_iff :
    (∃ raised, executablePaths host name = .error raised) ↔ BlankImagePath host := by
  have windows := running_service_windows host running
  simp only [executable_paths_raises_iff, service_image_path_raises_iff host name windows]
  constructor
  · intro given
    obtain ⟨raised, _, raw, stored, blank⟩ := given
    exact ⟨name, raw, running, stored, blank⟩
  · intro given
    obtain ⟨other, raw, same, stored, blank⟩ := given
    cases running.symm.trans same
    exact ⟨.indexError, rfl, raw, stored, blank⟩

theorem refused_probe_iff :
    (∃ paths error, executablePaths host name = .ok paths ∧
      firstFile host.isFile paths = .error error) ↔ RefusedProbe host := by
  constructor
  · intro given
    obtain ⟨paths, error, located, refused⟩ := given
    obtain ⟨front, path, back, rfl, absent, probe⟩ := first_file_error_iff.mp refused
    exact ⟨name, front, path, back, error, running, located, absent, probe⟩
  · intro given
    obtain ⟨other, front, path, back, error, same, located, absent, probe⟩ := given
    cases running.symm.trans same
    have refused := first_file_error_iff.mpr ⟨front, path, back, rfl, absent, probe⟩
    exact ⟨_, error, located, refused⟩

end Running

end Collection

theorem collect_sysmon_collects_iff (decodeOem : List UInt8 → String) (host : SysmonHost) :
    Collects decodeOem host ↔
      ¬UnloadedLibrary host ∧ ¬BlankImagePath host ∧ ¬RefusedProbe host := by
  by_cases loaded : ¬UnloadedLibrary host
  · rw [and_iff_right loaded]
    cases service : runningService host with
    | none =>
        obtain ⟨collection, collected, stopped⟩ := collect_sysmon_idle decodeOem host loaded service
        exact iff_of_true ⟨collection, collected, fun _ running => absurd running stopped⟩
          (idle_undisturbed host service)
    | some name =>
        obtain ⟨errors, started⟩ := collect_sysmon_running decodeOem host loaded service
        have comesBack : Collects decodeOem host ↔
            ∃ collection, collectRunning decodeOem host errors name = .ok collection := by
          unfold Collects
          rw [started]
          constructor
          · intro given
            exact ⟨given.choose, given.choose_spec.1⟩
          · intro given
            obtain ⟨collection, collected⟩ := given
            exact ⟨collection, collected, fun _ _ missing =>
              collect_running_reports decodeOem host collected missing⟩
        rw [comesBack, collect_running_ok_iff, ← blank_image_path_iff service,
          ← refused_probe_iff service]
        simp only [not_exists, not_and, ne_eq]
  · exact iff_of_false (collect_sysmon_unloaded decodeOem host (not_not.mp loaded))
      fun whole => loaded whole.1

/-- Sysmon runs as a service without a command line. -/
def blankPathHost : SysmonHost where
  platform := "win32"
  services := fun _ => .status serviceRunning
  registry := fun _ => .text ""
  environ := fun _ => none
  joinPath := fun root rest => root ++ '\\' :: rest
  which := fun _ => none
  isFile := fun _ => .ok false
  run := fun _ => .completed 0 [] []

theorem blank_path_aborts :
    collectSysmon (fun _ => "") blankPathHost = .error .indexError ∧
      ¬Collects (fun _ => "") blankPathHost := by
  have raised : collectSysmon (fun _ => "") blankPathHost = .error .indexError := by decide
  refine ⟨raised, ?_⟩
  intro given
  obtain ⟨collection, collected, _⟩ := given
  rw [raised] at collected
  cases collected

end Sigmascope
