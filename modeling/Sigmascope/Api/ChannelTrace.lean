import Sigmascope.Api.Windows

/-!
What a Windows run asks the event log for. The state of the loops keeps the queries
beside the answers, so a run can be compared with the uses of channels that its
requirements lead to.
-/

namespace Sigmascope

set_option autoImplicit false

open Sigmascope.Library

/-- The channel that a provider consults: a Sysmon provider only gets to its channel when
every earlier question is settled. -/
def consultedChannel (collection : WindowsCollection) (parsed : Option ParseResult) :
    Provider → Option String
  | .windowsAudit audit => some audit.channel
  | .sysmon sysmon =>
      match sysmonReady collection.sysmon parsed with
      | .inl _ => none
      | .inr _ => some sysmon.channel
  | _ => none

/-- The uses of channels in a run, in order and with repetition. -/
def consultedChannels (collection : WindowsCollection) (parsed : Option ParseResult)
    (requirements : List Requirement) : List String :=
  (requirements.flatMap Requirement.providers).filterMap (consultedChannel collection parsed)

/-- The errors that the answers to the queries carried. -/
def queryErrors (answer : Nat → String → ChannelConfig) (queries : List String) :
    List CollectionError :=
  queries.zipIdx.filterMap fun query => (answer query.2 query.1).error

/-- The calls of `get_channel_config` during a run, in order. -/
def channelQueries (decodeOem : List UInt8 → String) (collection : WindowsCollection)
    (requirements : List Requirement) : List String :=
  match parsedConfig decodeOem collection.sysmon with
  | .error _ => []
  | .ok parsed =>
      (windowsFindings collection parsed (windowsStart collection) requirements).2.channels.queries

theorem query_errors_snoc (answer : Nat → String → ChannelConfig) (queries : List String)
    (name : String) :
    queryErrors answer (queries ++ [name]) =
      queryErrors answer queries ++ (answer queries.length name).error.toList := by
  unfold queryErrors
  rw [List.zipIdx_append, List.filterMap_append, Nat.zero_add]
  cases carried : (answer queries.length name).error with
  | none => simp [carried]
  | some error => simp [carried]

/-- The table holds the answers to the queries, and behind the errors of the collectors
stand those that the answers carried. -/
structure ChannelsTraced (collection : WindowsCollection) (state : WindowsState) : Prop where
  channels : Memo.Traced collection.getChannelConfig state.channels
  errors : state.errors = collection.auditErrors ++ collection.sysmon.errors ++
    queryErrors collection.getChannelConfig state.channels.queries

section Trace

variable (collection : WindowsCollection) (parsed : Option ParseResult)

theorem windows_start_traced : ChannelsTraced collection (windowsStart collection) := by
  constructor
  · exact Memo.traced_empty collection.getChannelConfig
  · exact (List.append_nil _).symm

/-- The state after a provider only depends on the channel that it consults. -/
theorem windows_output_state (state : WindowsState) (provider : Provider) :
    (windowsOutput collection parsed state provider).2 =
      (consultedChannel collection parsed provider).elim state
        fun name => (channel collection state name).2 := by
  cases provider with
  | windowsAudit audit => rfl
  | sysmon sysmon =>
      unfold windowsOutput consultedChannel
      cases sysmonReady collection.sysmon parsed with
      | inl outcome => rfl
      | inr result => rfl
  | auditd auditd => rfl
  | unknownKind => rfl

variable {collection} {state : WindowsState} (traced : ChannelsTraced collection state)
include traced

theorem channel_queries (name : String) :
    (channel collection state name).2.channels.queries =
      addAbsent state.channels.queries name := by
  rw [channel_channels, Memo.fetch_queries traced.channels]

theorem channel_traced (name : String) :
    ChannelsTraced collection (channel collection state name).2 := by
  constructor
  · rw [channel_channels]
    exact Memo.fetch_traced traced.channels name
  · rw [channel_queries traced]
    unfold addAbsent
    cases found : state.channels.table.get? name with
    | some config =>
        have asked : name ∈ state.channels.queries := by
          by_contra absent
          rw [(Memo.missing_iff traced.channels name).mpr absent] at found
          cases found
        rw [if_pos asked, ← traced.errors]
        simp only [channel, Memo.fetch, Dict.contains, found, Option.isSome_some, if_true]
    | none =>
        have absent := (Memo.missing_iff traced.channels name).mp found
        rw [if_neg absent, query_errors_snoc, ← List.append_assoc, ← traced.errors]
        simp [channel, Memo.fetch, Dict.contains, found]

theorem windows_output_traced (provider : Provider) :
    ChannelsTraced collection (windowsOutput collection parsed state provider).2 ∧
      (windowsOutput collection parsed state provider).2.channels.queries =
        (consultedChannel collection parsed provider).toList.foldl addAbsent
          state.channels.queries := by
  rw [windows_output_state]
  cases consultedChannel collection parsed provider with
  | none => exact ⟨traced, rfl⟩
  | some name => exact ⟨channel_traced traced name, channel_queries traced name⟩

theorem windows_outputs_traced (given : List Provider) :
    ChannelsTraced collection (windowsOutputs collection parsed state given).2 ∧
      (windowsOutputs collection parsed state given).2.channels.queries =
        (given.filterMap (consultedChannel collection parsed)).foldl addAbsent
          state.channels.queries := by
  induction given generalizing state with
  | nil => exact ⟨traced, rfl⟩
  | cons provider rest induction =>
      have head := windows_output_traced parsed traced provider
      have tail := induction head.1
      constructor
      · exact tail.1
      · rw [windowsOutputs, tail.2, head.2, ← List.foldl_append, List.filterMap_cons]
        cases consultedChannel collection parsed provider with
        | none => rfl
        | some name => rfl

/-- A run passes on the first use of each channel, and keeps the account of its errors. -/
theorem windows_findings_traced (requirements : List Requirement) :
    ChannelsTraced collection (windowsFindings collection parsed state requirements).2 ∧
      (windowsFindings collection parsed state requirements).2.channels.queries =
        (consultedChannels collection parsed requirements).foldl addAbsent
          state.channels.queries := by
  induction requirements generalizing state with
  | nil => exact ⟨traced, rfl⟩
  | cons requirement rest induction =>
      have head := windows_outputs_traced parsed traced requirement.providers
      have tail := induction head.1
      constructor
      · exact tail.1
      · rw [windowsFindings, tail.2, head.2, ← List.foldl_append]
        unfold consultedChannels
        rw [List.flatMap_cons, List.filterMap_append]

end Trace

/-- One answer for each channel is what a whole run works with. -/
structure OneSnapshot (collection : WindowsCollection) (parsed : Option ParseResult)
    (requirements : List Requirement) (queries : List String) (result : RunResult) : Prop where
  distinct : queries.Nodup
  firstUse : queries = gather (consultedChannels collection parsed requirements)
  judged : ∃ look : String → ChannelConfig,
    (∀ index name, queries[index]? = some name →
      look name = collection.getChannelConfig index name) ∧
    result.findings = requirements.map (judgedFinding collection parsed look)
  errors : result.errors = collection.auditErrors ++ collection.sysmon.errors ++
    queryErrors collection.getChannelConfig queries

/-- The view of the channels that a table gives; other channels are left unknown. -/
def tableView (channels : Memo String ChannelConfig) (name : String) : ChannelConfig :=
  (channels.table.get? name).getD ⟨none, none⟩

theorem table_view_snapshot (channels : Memo String ChannelConfig) :
    channels.Snapshot (tableView channels) := by
  intro name config present
  unfold tableView
  rw [present, Option.getD_some]

/-- A run raises exactly when its printed Sysmon configuration does not parse, and asks for no
channel then. -/
theorem run_windows_snapshot (decodeOem : List UInt8 → String) (collection : WindowsCollection)
    (requirements : List Requirement) :
    (∃ raised, parsedConfig decodeOem collection.sysmon = .error raised ∧
      runWindows decodeOem collection requirements = .error raised ∧
      channelQueries decodeOem collection requirements = []) ∨
    ∃ result parsed, runWindows decodeOem collection requirements = .ok result ∧
      parsedConfig decodeOem collection.sysmon = .ok parsed ∧
      OneSnapshot collection parsed requirements
        (channelQueries decodeOem collection requirements) result := by
  unfold channelQueries
  cases config : parsedConfig decodeOem collection.sysmon with
  | error raised =>
      left
      refine ⟨raised, rfl, ?_, rfl⟩
      unfold runWindows
      rw [config]
      rfl
  | ok parsed =>
      right
      have run := windows_findings_traced parsed (windows_start_traced collection) requirements
      let last := (windowsFindings collection parsed (windowsStart collection) requirements).2
      have judged := @windows_findings_judged collection parsed (tableView last.channels)
        requirements (windowsStart collection) (table_view_snapshot last.channels)
      have ran : runWindows decodeOem collection requirements = .ok
          { findings :=
              (windowsFindings collection parsed (windowsStart collection) requirements).1
            diagnostics := collection.auditPolicy.diagnostics ++
              collection.registry.diagnostics ++ parsed.toList.flatMap ParseResult.diagnostics
            errors := last.errors } := by
        unfold runWindows
        rw [config]
        rfl
      refine ⟨_, parsed, ran, rfl, ?_⟩
      constructor
      · exact run.1.channels.distinct
      · exact run.2
      · refine ⟨tableView last.channels, ?_, judged.2⟩
        intro index name asked
        have held := (run.1.channels.held name _).mpr ⟨index, asked, rfl⟩
        exact table_view_snapshot last.channels name _ held
      · exact run.1.errors

end Sigmascope
