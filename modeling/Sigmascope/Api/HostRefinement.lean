import Sigmascope.Api.ChannelTrace
import Sigmascope.Api.HostRun
import Sigmascope.Collect.HostReadings

/-!
A report of a whole run is the result of the two halves on collected data: what the host
answers call by call, while the run goes on, can be put together to one state of the host
that is there from the start. The state is what the collectors return on the replies of this
very run. The channels are the ones that need an argument, because the provider loop asks for
them in between.
-/

namespace Sigmascope.Host

set_option autoImplicit false

open Sigmascope.Library Sigmascope.Library.PyText

variable {facts : HostFacts}

section Channels

/-- A channel is either known or has an error. -/
def ChannelCollected (config : ChannelConfig) : Prop :=
  (∃ enabled, config = ⟨some enabled, none⟩) ∨ ∃ error, config = ⟨none, some error⟩

theorem get_channel_config_ok {name : String} {config : ChannelConfig}
    (yields : (getChannelConfig facts name).Yields (.ok config)) : ChannelCollected config := by
  unfold getChannelConfig at yields
  split at yields
  · cases yields
    exact Or.inr ⟨_, rfl⟩
  · obtain ⟨loaded, yields⟩ := yields_ask.mp yields
    obtain ⟨_, _, yields⟩ := Program.yields_bind_ok.mp yields
    obtain ⟨opened, yields⟩ := yields_ask.mp yields
    cases opened with
    | error code =>
        cases yields
        exact Or.inr ⟨_, rfl⟩
    | ok handle =>
        obtain ⟨property, yields⟩ := yields_ask.mp (Program.yields_ensuring_ok yields)
        cases property with
        | error code =>
            cases yields
            exact Or.inr ⟨_, rfl⟩
        | ok booleanVal =>
            cases yields
            exact Or.inl ⟨_, rfl⟩

/-- The channels were asked for in this order, and the view holds what each of them led to. -/
inductive ChannelsAsked (facts : HostFacts) (look : String → ChannelConfig) :
    List String → History → Prop where
  | nil : ChannelsAsked facts look [] []
  | cons {name : String} {names : List String} {front back : History}
      (asked : (getChannelConfig facts name).Traces front (.ok (look name)))
      (rest : ChannelsAsked facts look names back) :
      ChannelsAsked facts look (name :: names) (front ++ back)

theorem channels_asked_append {look : String → ChannelConfig} {names more : List String}
    {front back : History} (first : ChannelsAsked facts look names front)
    (second : ChannelsAsked facts look more back) :
    ChannelsAsked facts look (names ++ more) (front ++ back) := by
  induction first with
  | nil => exact second
  | cons asked _ induction =>
      rw [List.append_assoc]
      exact .cons asked induction

/-- A view of the channels that agrees with the dictionary. -/
def Sees (look : String → ChannelConfig) (table : ChannelTable) : Prop :=
  ∀ name config, table.channels.get? name = some config → look name = config

/-- The two loops have seen the same channels and the same errors. -/
def Alike (table : ChannelTable) (state : WindowsState) : Prop :=
  table.channels = state.channels.table ∧ table.errors = state.errors

/-- What the loop collects. -/
def TableCollected (table : ChannelTable) : Prop :=
  ∀ name config, table.channels.get? name = some config → ChannelCollected config

variable {collection : WindowsCollection} {look : String → ChannelConfig} {events : History}

/-- What the pure loop and the loop of the program have in common behind a part of a run: the
same value, tables alike, and the same channels asked for. -/
structure Refines {Value : Type} (facts : HostFacts) (look : String → ChannelConfig)
    (events : History) (table next : ChannelTable) (value : Value)
    (pureLoop : WindowsState → Value × WindowsState) : Prop where
  sees : Sees look table
  collected : TableCollected table → TableCollected next
  asked : ∃ names, ChannelsAsked facts look names events ∧ ∀ state, Alike table state →
    (pureLoop state).1 = value ∧ Alike next (pureLoop state).2 ∧
      (pureLoop state).2.channels.queries = state.channels.queries ++ names

/-- A part of a run without calls. -/
theorem refines_silent {Value : Type} {table : ChannelTable} {value : Value}
    (sees : Sees look table) :
    Refines facts look [] table table value fun state => (value, state) where
  sees := sees
  collected := id
  asked := by
    refine ⟨[], .nil, ?_⟩
    intro state alike
    exact ⟨rfl, alike, (List.append_nil _).symm⟩

/-- What the loops make of the value. -/
theorem Refines.map {First Value : Type} {table next : ChannelTable} {first : First}
    {pureLoop : WindowsState → First × WindowsState}
    (refines : Refines facts look events table next first pureLoop) (make : First → Value) :
    Refines facts look events table next (make first) fun state =>
      (make (pureLoop state).1, (pureLoop state).2) where
  sees := refines.sees
  collected := refines.collected
  asked := by
    obtain ⟨names, asked, refined⟩ := refines.asked
    refine ⟨names, asked, ?_⟩
    intro state alike
    obtain ⟨same, alike, queries⟩ := refined state alike
    exact ⟨congrArg make same, alike, queries⟩

/-- Two parts of a run, one after the other. -/
theorem refines_append {First Second Value : Type} {front back : History}
    {table between next : ChannelTable} {first : First} {second : Second}
    {pureFirst : WindowsState → First × WindowsState}
    {pureSecond : WindowsState → Second × WindowsState}
    (one : Refines facts look front table between first pureFirst)
    (two : Refines facts look back between next second pureSecond)
    (join : First → Second → Value) :
    Refines facts look (front ++ back) table next (join first second) fun state =>
      (join (pureFirst state).1 (pureSecond (pureFirst state).2).1,
        (pureSecond (pureFirst state).2).2) where
  sees := one.sees
  collected := two.collected ∘ one.collected
  asked := by
    obtain ⟨names, asked, refined⟩ := one.asked
    obtain ⟨more, askedMore, refinedMore⟩ := two.asked
    refine ⟨names ++ more, channels_asked_append asked askedMore, ?_⟩
    intro state alike
    obtain ⟨sameFirst, alike, queries⟩ := refined state alike
    obtain ⟨sameSecond, alike, queriesMore⟩ := refinedMore _ alike
    refine ⟨?_, alike, ?_⟩
    · dsimp only
      rw [sameFirst, sameSecond]
    · dsimp only
      rw [queriesMore, queries, List.append_assoc]

variable (steady : collection.getChannelConfig = fun _ => look)
include steady

/-- A view of the channels after a query was one before it, and the query with this view
ends in the same place. -/
theorem channel_refines {table next : ChannelTable} {name : String} {config : ChannelConfig}
    (traces : (channel facts table name).Traces events (.ok (config, next)))
    (sees : Sees look next) :
    Refines facts look events table next config fun state =>
      Sigmascope.channel collection state name := by
  unfold channel at traces
  cases found : table.channels.get? name with
  | some known =>
      rw [found] at traces
      obtain ⟨rfl, same⟩ := traces
      cases same
      refine ⟨sees, id, [], .nil, ?_⟩
      intro state alike
      have held : state.channels.table.get? name = some config := alike.1 ▸ found
      simpa [Sigmascope.channel, Memo.fetch, held, Dict.contains] using alike
  | none =>
      rw [found] at traces
      obtain ⟨answer, front, back, rfl, asked, rfl, same⟩ := Program.traces_bind_ok.mp traces
      cases same
      have answered : look name = config := by
        apply sees
        rw [Dict.get_set, if_pos rfl]
      refine ⟨?_, ?_, [name], .cons (answered ▸ asked) .nil, ?_⟩
      · intro other known present
        apply sees
        have apart : other ≠ name := by
          intro equal
          rw [equal, found] at present
          cases present
        rw [Dict.get_set, if_neg apart]
        exact present
      · intro collected other known present
        rw [Dict.get_set] at present
        split at present
        · cases present
          exact get_channel_config_ok asked.yields
        · exact collected other known present
      · intro state alike
        have missing : state.channels.table.get? name = none := alike.1 ▸ found
        simp [Sigmascope.channel, Memo.fetch, missing, Dict.contains, steady, answered, Alike,
          alike.1, alike.2]

end Channels

section Loops

variable {inputs : WindowsInputs} {collection : WindowsCollection}
  {look : String → ChannelConfig}

/-- The loops work on the same collection, with channels that always answer alike. -/
structure Shares (inputs : WindowsInputs) (collection : WindowsCollection)
    (look : String → ChannelConfig) : Prop where
  auditPolicy : collection.auditPolicy = inputs.auditPolicy
  registry : collection.registry = inputs.registry
  sysmon : collection.sysmon = inputs.sysmon
  steady : collection.getChannelConfig = fun _ => look

variable (shares : Shares inputs collection look)
include shares

theorem windows_audit_output_shared (provider : WindowsAuditProvider) (config : ChannelConfig) :
    windowsAuditOutput inputs provider config =
      Sigmascope.windowsAuditOutput collection provider config := by
  rw [windowsAuditOutput, Sigmascope.windowsAuditOutput, shares.auditPolicy, shares.registry]

variable {events : History}

theorem windows_output_refines {table next : ChannelTable} {provider : Provider}
    {output : Option ProviderResult}
    (traces : (windowsOutput facts inputs table provider).Traces events (.ok (output, next)))
    (sees : Sees look next) :
    Refines facts look events table next output fun state =>
      Sigmascope.windowsOutput collection inputs.parsed state provider := by
  cases provider with
  | windowsAudit audit =>
      obtain ⟨⟨config, after⟩, front, back, rfl, asked, rfl, same⟩ :=
        Program.traces_bind_ok.mp traces
      cases same
      rw [List.append_nil, windows_audit_output_shared shares]
      exact (channel_refines shares.steady asked sees).map fun config =>
        some (Sigmascope.windowsAuditOutput collection audit config)
  | sysmon sysmon =>
      unfold Sigmascope.windowsOutput
      unfold windowsOutput at traces
      dsimp only at traces ⊢
      rw [shares.sysmon]
      cases ready : sysmonReady inputs.sysmon inputs.parsed with
      | inl outcome =>
          rw [ready] at traces
          obtain ⟨rfl, same⟩ := traces
          cases same
          exact refines_silent sees
      | inr result =>
          rw [ready] at traces
          obtain ⟨⟨config, after⟩, front, back, rfl, asked, rfl, same⟩ :=
            Program.traces_bind_ok.mp traces
          cases same
          rw [List.append_nil]
          exact (channel_refines shares.steady asked sees).map fun config =>
            some (sysmonOutput sysmon result config)
  | auditd auditd =>
      obtain ⟨rfl, same⟩ := traces
      cases same
      exact refines_silent sees
  | unknownKind =>
      obtain ⟨rfl, same⟩ := traces
      cases same
      exact refines_silent sees

theorem windows_outputs_refines {providers : List Provider} {table next : ChannelTable}
    {outputs : List ProviderResult}
    (traces : (windowsOutputs facts inputs table providers).Traces events (.ok (outputs, next)))
    (sees : Sees look next) :
    Refines facts look events table next outputs fun state =>
      Sigmascope.windowsOutputs collection inputs.parsed state providers := by
  induction providers generalizing table outputs events with
  | nil =>
      obtain ⟨rfl, same⟩ := traces
      cases same
      exact refines_silent sees
  | cons provider providers induction =>
      obtain ⟨⟨output, between⟩, front, rest, rfl, first, traces⟩ :=
        Program.traces_bind_ok.mp traces
      obtain ⟨⟨others, last⟩, back, nothing, rfl, remaining, rfl, same⟩ :=
        Program.traces_bind_ok.mp traces
      cases same
      have later := induction remaining
      have earlier := windows_output_refines shares first later.sees
      rw [List.append_nil]
      exact refines_append earlier later fun output others => output.toList ++ others

theorem windows_findings_refines {requirements : List Requirement} {table next : ChannelTable}
    {findings : List Finding}
    (traces : (windowsFindings facts inputs table requirements).Traces events
      (.ok (findings, next)))
    (sees : Sees look next) :
    Refines facts look events table next findings fun state =>
      Sigmascope.windowsFindings collection inputs.parsed state requirements := by
  induction requirements generalizing table findings events with
  | nil =>
      obtain ⟨rfl, same⟩ := traces
      cases same
      exact refines_silent sees
  | cons requirement requirements induction =>
      obtain ⟨⟨outputs, between⟩, front, rest, rfl, first, traces⟩ :=
        Program.traces_bind_ok.mp traces
      obtain ⟨⟨others, last⟩, back, nothing, rfl, remaining, rfl, same⟩ :=
        Program.traces_bind_ok.mp traces
      cases same
      have later := induction remaining
      have earlier := windows_outputs_refines shares first later.sees
      rw [List.append_nil]
      exact refines_append earlier later fun outputs others =>
        resolveProviderDisjunction requirement outputs :: others

end Loops

section Runs

/-- The view that answers as the dictionary and calls every other channel disabled. -/
def tableLook (table : ChannelTable) (name : String) : ChannelConfig :=
  (table.channels.get? name).getD ⟨some false, none⟩

theorem table_look_sees (table : ChannelTable) : Sees (tableLook table) table := by
  intro name config present
  rw [tableLook, present, Option.getD_some]

theorem table_look_collected {table : ChannelTable} (collected : TableCollected table)
    (name : String) : ChannelCollected (tableLook table name) := by
  unfold tableLook
  cases found : table.channels.get? name with
  | none => exact Or.inl ⟨false, rfl⟩
  | some config => exact collected name config found

/-- The audit policy was asked for: the report of the command only when the native query had
failed. -/
inductive PolicyAsked (facts : HostFacts) (subcategoryGuids : List String) :
    History → NativeAuditPolicy → AuditpolCliCollection → Prop where
  | native {events : History} {native : NativeAuditPolicy} (unused : AuditpolCliCollection)
      (asked : (collectNativePolicy facts subcategoryGuids).Traces events (.ok native))
      (answered : native.error = none) :
      PolicyAsked facts subcategoryGuids events native unused
  | report {front back : History} {native : NativeAuditPolicy} {cli : AuditpolCliCollection}
      (asked : (collectNativePolicy facts subcategoryGuids).Traces front (.ok native))
      (failed : native.error ≠ none) (printed : (collectCliPolicy facts).Traces back (.ok cli)) :
      PolicyAsked facts subcategoryGuids (front ++ back) native cli

theorem native_policy_result_ok {requirements : List Requirement} {events : History}
    {result : ParseResult × List CollectionError}
    (traces : (nativePolicyResult facts requirements).Traces events (.ok result)) :
    ∃ api cli, PolicyAsked facts (policyGuids requirements) events
        (Sigmascope.collectNativePolicy api (policyGuids requirements)) cli ∧
      CliCollected facts cli ∧
      Sigmascope.nativePolicyResult (Sigmascope.collectNativePolicy api) cli requirements =
        result := by
  obtain ⟨native, front, rest, rfl, asked, traces⟩ := Program.traces_bind_ok.mp traces
  obtain ⟨api, rfl⟩ := collect_native_policy_refines asked.yields
  cases failed : (Sigmascope.collectNativePolicy api (policyGuids requirements)).error with
  | none =>
      rw [failed] at traces
      obtain ⟨rfl, same⟩ := traces
      cases same
      rw [List.append_nil]
      refine ⟨api, _, .native _ asked failed, unasked_cli_collected, ?_⟩
      rw [Sigmascope.nativePolicyResult, failed]
  | some error =>
      rw [failed] at traces
      obtain ⟨cli, back, nothing, rfl, printed, traces⟩ := Program.traces_bind_ok.mp traces
      have given : (Sigmascope.collectNativePolicy api (policyGuids requirements)).error ≠ none := by
        rw [failed]
        exact nofun
      have silent : nothing = [] := by
        cases parsed : cli.parsed <;> rw [parsed] at traces <;> exact traces.1
      rw [silent, List.append_nil]
      refine ⟨api, cli, .report asked given printed, collect_cli_policy_ok printed.yields, ?_⟩
      rw [Sigmascope.nativePolicyResult, failed]
      dsimp only
      cases parsed : cli.parsed with
      | none =>
          rw [parsed] at traces
          cases traces.2
          rfl
      | some other =>
          rw [parsed] at traces
          cases traces.2
          rfl

/-- The state of a Windows host, as the pure half takes it. -/
structure WindowsAnswers where
  api : AuditApi
  cli : AuditpolCliCollection
  registry : ParseResult
  sysmon : SysmonCollection
  look : String → ChannelConfig

def WindowsAnswers.collection (answers : WindowsAnswers) (requirements : List Requirement) :
    WindowsCollection :=
  collectWindows (Sigmascope.collectNativePolicy answers.api) answers.cli answers.registry
    answers.sysmon (fun _ => answers.look) requirements

/-- The state is what the collectors return on these events, one collector after the other. The
channels are those that the pure half queries, in its order. -/
inductive WindowsAnswers.From (facts : HostFacts) (requirements : List Requirement)
    (answers : WindowsAnswers) : History → Prop where
  | parts {policy registry sysmon channels : History}
      (policyAsked : PolicyAsked facts (policyGuids requirements) policy
        (Sigmascope.collectNativePolicy answers.api (policyGuids requirements)) answers.cli)
      (registryAsked : (collectRegistryGates facts).Traces registry (.ok answers.registry))
      (sysmonAsked : (collectSysmon facts).Traces sysmon (.ok answers.sysmon))
      (channelsAsked : ChannelsAsked facts answers.look
        (channelQueries facts.decodeOem (answers.collection requirements) requirements) channels) :
      answers.From facts requirements (policy ++ (registry ++ (sysmon ++ channels)))

/-- A state that the pure collectors lead to on some host with these facts. -/
structure WindowsAnswers.Collected (facts : HostFacts) (answers : WindowsAnswers) : Prop where
  cli : CliCollected facts answers.cli
  registry : RegistryCollected facts answers.registry
  sysmon : SysmonCollected facts answers.sysmon
  channels : ∀ name, ChannelCollected (answers.look name)

/-- What a run without the demo returns: the result of the pure half on the state that the
collectors return on these events. -/
inductive SystemResult (facts : HostFacts) (identity : HostIdentity) : History → RunResult → Prop
    where
  | linux {events : History} {collection : AuditdCollection} (system : identity.os = "linux")
      (asked : (collectAuditd facts).Traces events (.ok collection))
      (collected : AuditdCollected collection) :
      SystemResult facts identity events
        (Sigmascope.runLinux collection (mappingsByOs identity.os) identity.arch)
  | windows {events : History} {answers : WindowsAnswers} {result : RunResult}
      (system : identity.os = "windows")
      (asked : answers.From facts (mappingsByOs identity.os) events)
      (collected : answers.Collected facts)
      (returned : Sigmascope.runWindows facts.decodeOem
        (answers.collection (mappingsByOs identity.os)) (mappingsByOs identity.os) = .ok result) :
      SystemResult facts identity events result
  | unsupported (other : identity.os ≠ "linux" ∧ identity.os ≠ "windows") :
      SystemResult facts identity [] (unsupported facts identity.os)

theorem run_windows_refines {identity : HostIdentity} (system : identity.os = "windows")
    {events : History} {result : RunResult}
    (traces : (runWindows facts (mappingsByOs identity.os)).Traces events (.ok result)) :
    SystemResult facts identity events result := by
  obtain ⟨⟨auditPolicy, auditErrors⟩, policyEvents, rest, rfl, asked, traces⟩ :=
    Program.traces_bind_ok.mp traces
  obtain ⟨registry, registryEvents, rest, rfl, read, traces⟩ := Program.traces_bind_ok.mp traces
  obtain ⟨sysmon, sysmonEvents, rest, rfl, looked, traces⟩ := Program.traces_bind_ok.mp traces
  obtain ⟨parsed, nothing, rest, rfl, converted, traces⟩ := Program.traces_bind_ok.mp traces
  obtain ⟨⟨findings, last⟩, channelEvents, closing, rfl, judged, rfl, same⟩ :=
    Program.traces_bind_ok.mp traces
  cases same
  obtain ⟨api, cli, policyAsked, cliCollected, policy⟩ := native_policy_result_ok asked
  let answers : WindowsAnswers := ⟨api, cli, registry, sysmon, tableLook last⟩
  have gathered : answers.collection (mappingsByOs identity.os) =
      ⟨auditPolicy, auditErrors, registry, sysmon, fun _ => tableLook last⟩ := by
    rw [WindowsAnswers.collection, collectWindows, policy]
  have shares : Shares ⟨auditPolicy, registry, sysmon, parsed⟩
      (answers.collection (mappingsByOs identity.os)) (tableLook last) := by
    rw [gathered]
    exact ⟨rfl, rfl, rfl, rfl⟩
  have refines := windows_findings_refines shares judged (table_look_sees last)
  obtain ⟨names, channelsAsked, refined⟩ := refines.asked
  obtain ⟨sameFindings, ⟨_, sameErrors⟩, queries⟩ :=
    refined (windowsStart (answers.collection (mappingsByOs identity.os)))
      ⟨rfl, by rw [gathered]; rfl⟩
  have start : TableCollected ⟨Dict.empty, auditErrors ++ sysmon.errors⟩ := by
    intro name config present
    cases present
  obtain ⟨rfl, config⟩ := Program.traces_of_except.mp converted
  have decoded : parsedConfig facts.decodeOem
      (answers.collection (mappingsByOs identity.os)).sysmon = .ok parsed := by
    rw [gathered]
    cases found : parsedConfig facts.decodeOem sysmon with
    | error error =>
        rw [found] at config
        cases config
    | ok other =>
        rw [found] at config
        cases config
        rfl
  have asked : answers.From facts (mappingsByOs identity.os)
      (policyEvents ++ (registryEvents ++ (sysmonEvents ++ channelEvents))) := by
    apply WindowsAnswers.From.parts policyAsked read looked
    rw [channelQueries, decoded]
    dsimp only
    rw [queries]
    exact channelsAsked
  rw [List.nil_append, List.append_nil]
  apply SystemResult.windows system asked
  · exact ⟨cliCollected, collect_registry_gates_ok read.yields, collect_sysmon_ok looked.yields,
      table_look_collected (refines.collected start)⟩
  · rw [Sigmascope.runWindows, decoded]
    change Except.ok _ = Except.ok _
    rw [← sameFindings, sameErrors, gathered]

theorem run_system_refines {identity : HostIdentity} {events : History} {result : RunResult}
    (traces : (runSystem facts identity).Traces events (.ok result)) :
    SystemResult facts identity events result := by
  unfold runSystem at traces
  split at traces
  · rename_i linux
    obtain ⟨collection, front, back, rfl, asked, rfl, same⟩ := Program.traces_bind_ok.mp traces
    cases same
    rw [List.append_nil]
    exact .linux linux asked (collect_auditd_ok asked.yields)
  · rename_i notLinux
    split at traces
    · rename_i windows
      exact run_windows_refines windows traces
    · rename_i notWindows
      obtain ⟨rfl, same⟩ := traces
      cases same
      exact .unsupported ⟨notLinux, notWindows⟩

/-- A report is the result of the two halves on what this history says, from the name of the host
to the time. -/
inductive RefinedReport (facts : HostFacts) (history : History) (report : Report) : Prop where
  | parts {events : History} {now : DateTime}
      (history : history =
        ⟨.gethostname, .ok report.host.hostname⟩ :: (events ++ [⟨.now, now⟩]))
      (system : report.host.os = String.ofList (lower facts.system.toList))
      (release : report.host.osVersion = facts.release) (arch : report.host.arch = facts.machine)
      (time : report.generatedUtc = generatedUtc now)
      (result : SystemResult facts report.host events
        ⟨report.findings, report.diagnostics, report.collectionErrors⟩)

theorem run_ok {events : History} {report : Report}
    (traces : (run facts false).Traces events (.ok report)) :
    RefinedReport facts events report := by
  obtain ⟨identity, front, rest, rfl, named, traces⟩ := Program.traces_bind_ok.mp traces
  obtain ⟨result, middle, back, rfl, collected, traces⟩ := Program.traces_bind_ok.mp traces
  obtain ⟨now, nothing, rfl, rfl, same⟩ := traces_ask.mp traces
  cases same
  obtain ⟨reply, rest, rfl, known⟩ := traces_ask.mp named
  obtain ⟨hostname, _, _, rfl, raised, rfl, same⟩ := Program.traces_bind_ok.mp known
  cases same
  obtain ⟨rfl, rfl⟩ := traces_raise_os_error raised
  exact .parts rfl rfl rfl rfl rfl (run_system_refines collected)

variable (facts)

/-- Every report of a run, whatever the host answers and however its answers change, is the
result of the two halves on one collected state, the one that its own history determines. -/
theorem run_refines_collection (environment : Program.Environment hostInterface)
    (past : History) {report : Report}
    (finished : (Program.run environment past (run facts false)).1 = .ok report) :
    ∃ events, (Program.run environment past (run facts false)).2 = past ++ events ∧
      RefinedReport facts events report := by
  obtain ⟨events, history, traces⟩ := Program.run_traces environment past (run facts false)
  rw [finished] at traces
  exact ⟨events, history, run_ok traces⟩

/-- The facts about a Linux host. -/
def bareFacts : HostFacts where
  sysPlatform := "linux"
  system := "Linux"
  release := "6.8"
  machine := "x86_64"
  platform := "Linux-6.8-x86_64"
  environ := fun _ => none
  joinPath := fun first second => first ++ '/' :: second
  decodeUtf8 := fun bytes => String.ofList (bytes.map fun byte => Char.ofNat byte.toNat)
  decodeOem := fun bytes => String.ofList (bytes.map fun byte => Char.ofNat byte.toNat)
  acceptsNul := true

def windowsFacts : HostFacts :=
  { bareFacts with sysPlatform := "win32", system := "Windows", machine := "AMD64" }

/-- A host with nothing on it. -/
def bareHost : Program.Environment hostInterface := fun _ query =>
  match query with
  | .gethostname => .ok "bare"
  | .now => ⟨2024, 2, 29, 12, 0, 0, 0, by decide, by decide⟩
  | .which _ => none
  | .pathExists _ => false
  | .isDirectory _ => true
  | .searchable _ => true
  | .isFile _ => .ok false
  | .run _ => .raised "No such file or directory"
  | .loadLibrary _ => .error ⟨none, "no such library"⟩
  | .openProcessToken _ => .error 5
  | .lookupPrivilegeValue _ => .error 5
  | .adjustTokenPrivileges _ _ _ => .error 5
  | .closeHandle _ => ()
  | .auditQuerySystemPolicy _ => .error 5
  | .readAuditEntry _ _ => ⟨⟨0, 0, 0, Vector.replicate 8 0⟩, 0⟩
  | .auditFree _ => ()
  | .openSCManager _ => .error 5
  | .openService _ _ _ => .error 5
  | .queryServiceStatusEx _ => .error 5
  | .closeServiceHandle _ => ()
  | .openKey _ _ => .error .missing
  | .queryValueEx _ _ => .error .missing
  | .closeKey _ => ()
  | .evtOpenChannelConfig _ => .error 5
  | .evtGetChannelConfigProperty _ _ => .error 5
  | .evtClose _ => ()

def bareReport : Report where
  generatedUtc := "2024-02-29T12:00:00Z"
  host := ⟨"bare", "linux", "6.8", "x86_64"⟩
  findings := linuxMappings.map (linuxFinding ⟨some false, none, none, []⟩ "x86_64")
  diagnostics := []
  collectionErrors := []

theorem run_refines_collection_bare :
    ∃ events, (Program.run bareHost [] (run bareFacts false)).2 = [] ++ events ∧
      RefinedReport bareFacts events bareReport :=
  run_refines_collection bareFacts bareHost [] rfl

end Runs

end Sigmascope.Host
