import Sigmascope.Api.HostRefinement

/-!
The explanations of the findings. Whatever the host answers, an explanation is one line of
text that ends with a full stop, as long as the name of the machine is one line.
-/

namespace Sigmascope

set_option autoImplicit false

open Sigmascope.Library Sigmascope.Library.PyText

def OneLine (text : String) : Prop := ∀ char ∈ text.toList, isLineBreak char = false

def Sentence (text : String) : Prop := OneLine text ∧ text.toList.getLast? = some '.'

section Texts

theorem one_line_literal {chars : Text}
    (whole : (chars.all fun char => !isLineBreak char) = true) :
    OneLine (String.ofList chars) := by
  intro char member
  rw [String.toList_ofList] at member
  exact Bool.not_eq_true' _ ▸ List.all_eq_true.mp whole char member

/-- The texts of a table, all at once. -/
theorem one_line_each {Item : Type} {render : Item → String} {items : List Item}
    (whole : (items.all fun item =>
      (render item).toList.all fun char => !isLineBreak char) = true) :
    ∀ item ∈ items, OneLine (render item) := by
  intro item listed char member
  have own := List.all_eq_true.mp (List.all_eq_true.mp whole item listed) char member
  exact Bool.not_eq_true' _ ▸ own

theorem sentence_literal {chars : Text}
    (whole : (chars.all fun char => !isLineBreak char) = true)
    (ends : chars.getLast? = some '.') : Sentence (String.ofList chars) := by
  refine ⟨one_line_literal whole, ?_⟩
  rw [String.toList_ofList]
  exact ends

variable {front back : String}

theorem one_line_append (first : OneLine front) (second : OneLine back) :
    OneLine (front ++ back) := by
  intro char member
  rw [String.toList_append] at member
  rcases List.mem_append.mp member with inFront | inBack
  · exact first char inFront
  · exact second char inBack

theorem sentence_append (first : OneLine front) (second : Sentence back) :
    Sentence (front ++ back) := by
  refine ⟨one_line_append first second.1, ?_⟩
  rw [String.toList_append, List.getLast?_append, second.2, Option.some_or]

theorem sentence_pair {first second : Text}
    (wholeFirst : (first.all fun char => !isLineBreak char) = true)
    (wholeSecond : (second.all fun char => !isLineBreak char) = true)
    (ends : second.getLast? = some '.') :
    Sentence (String.ofList first ++ String.ofList second) :=
  sentence_append (one_line_literal wholeFirst) (sentence_literal wholeSecond ends)

theorem one_line_intercalate {separator : String} {texts : List String}
    (joint : OneLine separator) (all : ∀ text ∈ texts, OneLine text) :
    OneLine (separator.intercalate texts) := by
  intro char member
  rw [String.toList_intercalate] at member
  rcases mem_joined member with found | inside
  · obtain ⟨part, listed, found⟩ := found
    obtain ⟨text, inTexts, rfl⟩ := List.mem_map.mp listed
    exact all text inTexts char found
  · exact joint char inside

/-- Sentences in a row are a sentence. -/
theorem sentence_intercalate {separator : String} {texts : List String} (filled : texts ≠ [])
    (joint : OneLine separator) (all : ∀ text ∈ texts, Sentence text) :
    Sentence (separator.intercalate texts) := by
  induction texts with
  | nil => exact absurd rfl filled
  | cons text texts induction =>
      have own := all text List.mem_cons_self
      cases texts with
      | nil =>
          rw [String.intercalate_singleton]
          exact own
      | cons next texts =>
          have rest := induction (List.cons_ne_nil next texts) fun other member =>
            all other (List.mem_cons_of_mem _ member)
          rw [String.intercalate_cons_cons]
          exact sentence_append (one_line_append own.1 joint) rest

theorem one_line_number (number : Nat) : OneLine (toString number) := by
  intro char member
  exact line_break_space (number_solid number char member)

end Texts

section Linux

theorem suppression_sentence {rules : List Rule} {outcome : Verdict × String}
    (suppressed : suppression rules = some outcome) : Sentence outcome.2 := by
  unfold suppression at suppressed
  split at suppressed
  · cases suppressed
    exact sentence_append (one_line_append (one_line_literal (by decide))
      (one_line_literal (by decide))) (sentence_literal (by decide) (by decide))
  · split at suppressed
    · cases suppressed
      exact sentence_pair (by decide) (by decide) (by decide)
    · split at suppressed
      · cases suppressed
        exact sentence_literal (by decide) (by decide)
      · cases suppressed

theorem missing_pairs_one_line (candidates : List Rule) :
    OneLine (", ".intercalate ((missingPairs candidates).map pairText)) := by
  have named : ∀ pair ∈ requiredPairs, OneLine (pairText pair) :=
    one_line_each (by decide +kernel)
  apply one_line_intercalate (one_line_literal (by decide))
  intro text member
  obtain ⟨pair, missing, rfl⟩ := List.mem_map.mp member
  exact named pair (List.mem_of_mem_filter missing)

theorem exec_x86_sentence (rules candidates : List Rule) :
    Sentence (evaluateExecX86 rules candidates).2 := by
  unfold evaluateExecX86
  split
  · exact sentence_pair (by decide) (by decide) (by decide)
  · split
    · have detail := missing_pairs_one_line candidates
      have front : OneLine ("auditd process-creation coverage is incomplete; missing " ++
          ", ".intercalate ((missingPairs candidates).map pairText)) :=
        one_line_append (one_line_literal (by decide)) detail
      dsimp only
      split
      · exact sentence_append (one_line_append front (one_line_literal (by decide)))
          (sentence_literal (by decide) (by decide))
      · rw [String.append_empty]
        exact sentence_append front (sentence_literal (by decide) (by decide))
    · split
      · exact sentence_pair (by decide) (by decide) (by decide)
      · exact sentence_pair (by decide) (by decide) (by decide)

theorem exec_other_sentence (candidates : List Rule) {machineArch : String}
    (plain : OneLine machineArch) : Sentence (evaluateExecOther candidates machineArch).2 := by
  unfold evaluateExecOther
  split
  · exact sentence_append (one_line_append
      (one_line_append (one_line_literal (by decide)) (one_line_literal (by decide))) plain)
      (sentence_literal (by decide) (by decide))
  · split
    · have named : ∀ syscall ∈ targetSyscalls, OneLine syscall :=
        one_line_each (by decide +kernel)
      have detail : OneLine (", ".intercalate (missingSyscalls candidates)) :=
        one_line_intercalate (one_line_literal (by decide)) fun syscall missing =>
          named syscall (List.mem_of_mem_filter missing)
      exact sentence_append (one_line_append (one_line_literal (by decide)) detail)
        (sentence_literal (by decide) (by decide))
    · exact sentence_literal (by decide) (by decide)

theorem process_creation_sentence (parsed : ParseResult) {machineArch : String}
    (plain : OneLine machineArch) :
    Sentence (evaluateProcessCreation parsed machineArch).2 := by
  unfold evaluateProcessCreation
  dsimp only
  split
  · exact sentence_literal (by decide) (by decide)
  · split
    · split
      · exact sentence_pair (by decide) (by decide) (by decide)
      · exact sentence_literal (by decide) (by decide)
    · split
      · rename_i outcome suppressed
        exact suppression_sentence suppressed
      · split
        · exact exec_x86_sentence _ _
        · exact exec_other_sentence _ plain

theorem file_watch_sentence (parsed : ParseResult) : Sentence (evaluateFileWatch parsed).2 := by
  unfold evaluateFileWatch
  split
  · exact sentence_literal (by decide) (by decide)
  · dsimp only
    split
    · exact sentence_literal (by decide) (by decide)
    · split
      · rename_i explanation suppressed
        exact suppression_sentence suppressed
      · apply sentence_intercalate (List.cons_ne_nil _ _) (one_line_literal (by decide))
        intro text member
        rcases List.mem_cons.mp member with rfl | note
        · exact sentence_append (one_line_append (one_line_literal (by decide)) (one_line_number _))
            (sentence_literal (by decide) (by decide))
        · rcases List.mem_append.mp note with suppressed | never
          · obtain ⟨outcome, found, rfl⟩ :=
              Option.map_eq_some_iff.mp (Option.mem_toList.mp suppressed)
            exact suppression_sentence found
          · split at never
            · cases List.mem_singleton.mp never
              exact sentence_literal (by decide) (by decide)
            · cases never

theorem auditd_sentence (collection : AuditdCollection) {arch : String} (plain : OneLine arch)
    (provider : AuditdProvider) : Sentence (auditdVerdict collection arch provider).2 := by
  unfold auditdVerdict
  dsimp only
  split
  · exact sentence_literal (by decide) (by decide)
  · exact sentence_literal (by decide) (by decide)
  · split
    · exact sentence_literal (by decide) (by decide)
    · split
      · exact sentence_literal (by decide) (by decide)
      · split
        · exact sentence_literal (by decide) (by decide)
        · split
          · exact sentence_literal (by decide) (by decide)
          · split
            · exact process_creation_sentence _ plain
            · split
              · exact file_watch_sentence _
              · exact sentence_literal (by decide) (by decide)

end Linux

section Windows

/-- The texts that a provider brings along. -/
structure WindowsAuditProvider.Spelled (provider : WindowsAuditProvider) : Prop where
  guid : OneLine (upperText provider.subcategoryGuid)
  channel : OneLine provider.channel
  states : OneLine (" or ".intercalate (sortedSet provider.requiredStates))
  gate : ∀ gate ∈ provider.fieldGate, OneLine gate.key ∧ Sentence gate.explanation
  reservation : ∀ text ∈ provider.necessaryButInsufficient, Sentence text

variable {provider : WindowsAuditProvider} (spelled : provider.Spelled)
include spelled

theorem field_gate_sentence (registry : ParseResult) (auditGate : Gate) :
    Sentence (evaluateFieldGate provider registry auditGate).2.1 := by
  have enabled : Sentence ("Windows Security auditing is enabled for subcategory " ++
      upperText provider.subcategoryGuid ++ ".") :=
    sentence_append (one_line_append (one_line_literal (by decide)) spelled.guid)
      (sentence_literal (by decide) (by decide))
  have reserved : ∀ insufficient,
      provider.necessaryButInsufficient.filter (· != "") = some insufficient →
        Sentence insufficient :=
    fun insufficient kept => spelled.reservation insufficient
      (Option.mem_def.mpr (Option.filter_eq_some_iff.mp kept).1)
  unfold evaluateFieldGate
  dsimp only
  split
  · split
    · rename_i insufficient kept
      exact reserved insufficient kept
    · exact enabled
  · rename_i fieldGate given
    obtain ⟨key, explanation⟩ := spelled.gate fieldGate given
    split
    · exact sentence_append (one_line_append (one_line_literal (by decide)) key)
        (sentence_literal (by decide) (by decide))
    · split
      · exact explanation
      · split
        · rename_i insufficient kept
          exact reserved insufficient kept
        · exact enabled

theorem audit_gate_sentence (registry : ParseResult) {auditGate : Gate}
    (plain : OneLine auditGate.value.toText) :
    Sentence (evaluateAuditGate provider registry auditGate).2.1 := by
  unfold evaluateAuditGate
  dsimp only
  split
  · exact sentence_append (one_line_append (one_line_literal (by decide)) spelled.guid)
      (sentence_literal (by decide) (by decide))
  · split
    · have front : OneLine ("Windows Security auditing is present, but audit subcategory " ++
          upperText provider.subcategoryGuid) :=
        one_line_append (one_line_literal (by decide)) spelled.guid
      have value := one_line_append (one_line_append (one_line_append front
        (one_line_literal (by decide) : OneLine " is ")) plain)
        (one_line_literal (by decide) : OneLine "; required state is ")
      exact sentence_append (one_line_append value spelled.states)
        (sentence_literal (by decide) (by decide))
    · exact field_gate_sentence spelled registry auditGate

/-- The values of the gates are names of states. -/
def PlainGates (parsed : ParseResult) : Prop := ∀ gate ∈ parsed.gates, OneLine gate.value.toText

theorem windows_audit_sentence {auditPolicy : ParseResult} (plain : PlainGates auditPolicy)
    (registry : ParseResult) (channel : ChannelConfig) :
    Sentence (evaluateWindowsAudit provider auditPolicy registry channel).2.1 := by
  unfold evaluateWindowsAudit
  dsimp only
  split
  · exact sentence_append (one_line_append (one_line_literal (by decide)) spelled.channel)
      (sentence_literal (by decide) (by decide))
  · split
    · exact sentence_append (one_line_append (one_line_literal (by decide)) spelled.channel)
        (sentence_literal (by decide) (by decide))
    · split
      · dsimp only
        split
        · exact sentence_pair (by decide) (by decide) (by decide)
        · exact sentence_append (one_line_append (one_line_literal (by decide)) spelled.guid)
            (sentence_literal (by decide) (by decide))
      · rename_i auditGate found
        exact audit_gate_sentence spelled registry
          (plain auditGate (List.mem_of_find?_eq_some found))

end Windows

section Sysmon

variable {eventType : String} (plain : OneLine eventType)
include plain

theorem blocks_sentence (matching : List Rule) :
    Sentence (evaluateBlocks matching eventType).2 := by
  have about : OneLine ("Sysmon " ++ eventType) :=
    one_line_append (one_line_literal (by decide)) plain
  unfold evaluateBlocks
  dsimp only
  split
  · exact sentence_append about (sentence_literal (by decide) (by decide))
  · split
    · split
      · exact sentence_append about (sentence_literal (by decide) (by decide))
      · split
        · exact sentence_append (one_line_append about (one_line_literal (by decide)))
            (sentence_literal (by decide) (by decide))
        · exact sentence_append about (sentence_literal (by decide) (by decide))
    · split <;> exact sentence_append about (sentence_literal (by decide) (by decide))

theorem event_type_sentence (parsed : ParseResult) :
    Sentence (evaluateEventType parsed eventType).2 := by
  unfold evaluateEventType
  dsimp only
  split
  · exact sentence_append (one_line_append (one_line_literal (by decide)) plain)
      (sentence_literal (by decide) (by decide))
  · split
    · exact sentence_append (one_line_append (one_line_literal (by decide)) plain)
        (sentence_literal (by decide) (by decide))
    · split
      · exact sentence_append (one_line_append (one_line_literal (by decide)) plain)
          (sentence_literal (by decide) (by decide))
      · exact blocks_sentence plain _

theorem sysmon_sentence (parsed : ParseResult) (config : ChannelConfig) :
    Sentence (evaluateSysmon parsed config eventType).2 := by
  unfold evaluateSysmon
  split
  · exact sentence_literal (by decide) (by decide)
  · split
    · exact sentence_pair (by decide) (by decide) (by decide)
    · exact event_type_sentence plain parsed

end Sysmon

theorem sysmon_ready_sentence {sysmon : SysmonCollection} {parsed : Option ParseResult}
    {verdict : Verdict} {explanation : String}
    (unready : sysmonReady sysmon parsed = .inl (verdict, explanation)) : Sentence explanation := by
  unfold sysmonReady at unready
  split at unready
  · cases unready
    exact sentence_literal (by decide) (by decide)
  · cases unready
    exact sentence_literal (by decide) (by decide)
  · split at unready
    · cases unready
      exact sentence_literal (by decide) (by decide)
    · cases unready
      exact sentence_literal (by decide) (by decide)
    · split at unready
      · cases unready
        exact sentence_pair (by decide) (by decide) (by decide)
      · cases unready

section Policies

theorem policy_state_plain (flags : Nat) : OneLine (policyState flags) := by
  unfold policyState
  split
  · exact one_line_literal (by decide)
  · exact one_line_literal (by decide)
  · exact one_line_literal (by decide)
  · exact one_line_literal (by decide)
  · exact one_line_literal (by decide)
  · exact one_line_append (one_line_literal (by decide)) (one_line_number _)

theorem native_gates_plain {states : List (String × String)}
    (plain : ∀ item ∈ states, OneLine item.2) :
    PlainGates { determinacy := .effective, gates := nativeGates states } := by
  intro gate member
  obtain ⟨item, inside, rfl⟩ := List.mem_map.mp member
  exact plain item inside

theorem policy_states_plain (buffer : List AuditPolicyInformation) :
    ∀ item ∈ (policyStates buffer).items, OneLine item.2 := by
  intro item member
  rcases Dict.mem_assign_all_items member with empty | listed
  · cases empty
  · obtain ⟨entry, _, rfl⟩ := List.mem_map.mp listed
    exact policy_state_plain _

theorem setting_state_plain (raw : String) : OneLine (settingState raw).1 := by
  have named : ∀ item ∈ settingStates, OneLine item.2 := one_line_each (by decide +kernel)
  unfold settingState
  split
  · exact one_line_literal (by decide)
  · split
    · rename_i state found
      exact named (raw, state)
        ((Dict.lookup_eq_some_iff settingStates raw state (by decide)).mp found)
    · exact one_line_literal (by decide)

theorem auditpol_rows_plain (sourceId text : String) (rows : List Row) :
    PlainGates (parseAuditpolRows sourceId text rows) := by
  intro gate member
  unfold parseAuditpolRows at member
  split at member
  · cases member
  · obtain ⟨read, numbered, inside⟩ := List.mem_flatMap.mp member
    obtain ⟨row, _, rfl⟩ := List.mem_map.mp numbered
    unfold readAuditpolRow at inside
    split at inside
    · cases inside
    · dsimp only at inside
      split at inside
      · cases inside
      · cases List.mem_singleton.mp inside
        exact setting_state_plain _

theorem query_once_plain {api : AuditApi} {privileged : Bool} {guids : List String}
    {states : Dict String String} (answered : queryOnce api privileged guids = .ok states) :
    ∀ item ∈ states.items, OneLine item.2 := by
  unfold queryOnce at answered
  cases reply : api.auditQuerySystemPolicy privileged guids with
  | error error =>
      rw [reply] at answered
      cases answered
  | ok buffer =>
      rw [reply] at answered
      cases answered
      exact policy_states_plain buffer

theorem query_system_policy_plain {api : AuditApi} {guids : List String}
    {states : Dict String String} (answered : querySystemPolicy api guids = .ok states) :
    ∀ item ∈ states.items, OneLine item.2 := by
  unfold querySystemPolicy at answered
  split at answered
  · cases answered
    intro item member
    cases member
  · cases loaded : api.libraries with
    | error error =>
        rw [loaded] at answered
        cases answered
    | ok done =>
        rw [loaded] at answered
        dsimp only [Except.bind] at answered
        split at answered
        · rename_i first found
          cases answered
          exact query_once_plain found
        · split at answered
          · cases answered
          · cases enabled : api.enableSecurityPrivilege with
            | error error =>
                rw [enabled] at answered
                cases answered
            | ok done =>
                rw [enabled] at answered
                exact query_once_plain answered

theorem collect_native_policy_plain (api : AuditApi) (guids : List String) :
    ∀ item ∈ (collectNativePolicy api guids).states, OneLine item.2 := by
  unfold collectNativePolicy
  split
  · rename_i states answered
    exact query_system_policy_plain answered
  · intro item member
    cases member

theorem cli_plain {facts : HostFacts} {cli : AuditpolCliCollection}
    (collected : Host.CliCollected facts cli) {parsed : ParseResult}
    (read : cli.parsed = some parsed) : PlainGates parsed := by
  unfold Host.CliCollected at collected
  split at collected
  · obtain ⟨outcome, given⟩ := collected
    unfold Host.cliPolicy at given
    split at given
    · cases given
      cases read
    · split at given
      · cases given
        cases read
      · rename_i stdout stderr succeeded
        unfold parseAuditpolText at given
        cases rows : csvRows facts.acceptsNul (facts.decodeOem stdout) with
        | error refused =>
            rw [rows] at given
            cases given
        | ok rows =>
            rw [rows] at given
            cases given
            cases read
            exact auditpol_rows_plain _ _ _
  · rw [collected] at read
    cases read

theorem native_policy_plain (api : AuditApi) {facts : HostFacts} {cli : AuditpolCliCollection}
    (collected : Host.CliCollected facts cli) (requirements : List Requirement) :
    PlainGates (nativePolicyResult (collectNativePolicy api) cli requirements).1 := by
  unfold nativePolicyResult
  dsimp only
  split
  · exact native_gates_plain (collect_native_policy_plain api _)
  · split
    · rename_i parsed read
      exact cli_plain collected read
    · intro gate member
      cases member

end Policies

section Findings

/-- What the catalogue says about a provider is spelled on one line. -/
def Provider.Spelled : Provider → Prop
  | .windowsAudit provider => OneLine provider.sourceId ∧ provider.Spelled
  | .sysmon provider => OneLine provider.sourceId ∧ OneLine provider.eventType
  | .auditd provider => OneLine provider.sourceId
  | .unknownKind => True

def Requirement.Spelled (requirement : Requirement) : Prop :=
  ∀ provider ∈ requirement.providers, provider.Spelled

/-- A result that can be shown. -/
structure ProviderResult.Spoken (result : ProviderResult) : Prop where
  source : OneLine result.sourceId
  explanation : Sentence result.explanation

theorem resolve_sentence (requirement : Requirement) {providers : List ProviderResult}
    (spoken : ∀ result ∈ providers, result.Spoken) :
    Sentence (resolveProviderDisjunction requirement providers).explanation := by
  cases providers with
  | nil => exact sentence_literal (by decide) (by decide)
  | cons first rest =>
      unfold resolveProviderDisjunction
      dsimp only
      split
      · exact (spoken _ (first_maximum_mem _ first rest)).explanation
      · apply sentence_intercalate (by simp) (one_line_literal (by decide))
        intro text member
        obtain ⟨result, inside, rfl⟩ := List.mem_map.mp member
        obtain ⟨source, explanation⟩ := spoken result inside
        exact sentence_append (one_line_append source (one_line_literal (by decide))) explanation

theorem linux_finding_sentence (collection : AuditdCollection) {arch : String}
    (plain : OneLine arch) {requirement : Requirement} (spelled : requirement.Spelled) :
    Sentence (linuxFinding collection arch requirement).explanation := by
  apply resolve_sentence
  intro result member
  obtain ⟨provider, listed, found⟩ := List.mem_filterMap.mp member
  have own := spelled provider listed
  cases provider with
  | auditd auditd =>
      cases found
      exact ⟨own, auditd_sentence collection plain auditd⟩
  | windowsAudit audit => cases found
  | sysmon sysmon => cases found
  | unknownKind => cases found

theorem judged_finding_sentence {collection : WindowsCollection}
    (plain : PlainGates collection.auditPolicy) (parsed : Option ParseResult)
    (look : String → ChannelConfig) {requirement : Requirement} (spelled : requirement.Spelled) :
    Sentence (judgedFinding collection parsed look requirement).explanation := by
  apply resolve_sentence
  intro result member
  obtain ⟨provider, listed, found⟩ := List.mem_filterMap.mp member
  have own := spelled provider listed
  cases provider with
  | windowsAudit audit =>
      cases found
      exact ⟨own.1, windows_audit_sentence own.2 plain _ _⟩
  | sysmon sysmon =>
      unfold judgedOutput at found
      dsimp only at found
      cases ready : sysmonReady collection.sysmon parsed with
      | inl outcome =>
          rw [ready] at found
          cases found
          exact ⟨own.1, sysmon_ready_sentence ready⟩
      | inr parsed =>
          rw [ready] at found
          cases found
          exact ⟨own.1, sysmon_sentence own.2 _ _⟩
  | auditd auditd => cases found
  | unknownKind => cases found

/-- A provider of the catalogue asks for the states of a successful event. -/
theorem windows_provider_spelled {provider : WindowsAuditProvider}
    (guid : OneLine (upperText provider.subcategoryGuid)) (channel : provider.channel = "Security")
    (states : provider.requiredStates = ["success", "both"])
    (gate : ∀ gate ∈ provider.fieldGate, OneLine gate.key ∧ Sentence gate.explanation)
    (reservation : ∀ text ∈ provider.necessaryButInsufficient, Sentence text) :
    provider.Spelled := by
  have required : sortedSet ["success", "both"] = ["both", "success"] := by decide
  refine ⟨guid, ?_, ?_, gate, reservation⟩
  · rw [channel]
    exact one_line_literal (by decide)
  · rw [states, required]
    apply one_line_intercalate (one_line_literal (by decide))
    intro text member
    simp only [List.mem_cons, List.not_mem_nil, or_false] at member
    rcases member with rfl | rfl <;> exact one_line_literal (by decide)

theorem mappings_spelled : ∀ requirement ∈ windowsMappings ++ linuxMappings,
    requirement.Spelled := by
  have guids : ∀ guid ∈ ["\x7b0CCE922B-69AE-11D9-BED3-505054503030\x7d",
      "\x7b0CCE9226-69AE-11D9-BED3-505054503030\x7d",
      "\x7b0CCE921D-69AE-11D9-BED3-505054503030\x7d"], OneLine (upperText guid) :=
    one_line_each (by decide +kernel)
  intro requirement member provider listed
  simp only [windowsMappings, linuxMappings, List.cons_append, List.nil_append, List.mem_cons,
    List.not_mem_nil, or_false] at member
  rcases member with rfl | rfl | rfl | rfl | rfl
  · simp only [windowsProcessCreation, List.mem_cons, List.not_mem_nil, or_false] at listed
    rcases listed with rfl | rfl
    · refine ⟨one_line_literal (by decide),
        windows_provider_spelled (guids _ (by simp)) rfl rfl ?_ ?_⟩
      · intro gate given
        cases given
        exact ⟨one_line_literal (by decide), sentence_pair (by decide) (by decide) (by decide)⟩
      · intro text given
        cases given
    · exact ⟨one_line_literal (by decide), one_line_literal (by decide)⟩
  · simp only [windowsNetworkConnection, List.mem_cons, List.not_mem_nil, or_false] at listed
    rcases listed with rfl | rfl
    · refine ⟨one_line_literal (by decide),
        windows_provider_spelled (guids _ (by simp)) rfl rfl ?_ ?_⟩
      · intro gate given
        cases given
      · intro text given
        cases given
    · exact ⟨one_line_literal (by decide), one_line_literal (by decide)⟩
  · cases List.mem_singleton.mp listed
    refine ⟨one_line_literal (by decide),
        windows_provider_spelled (guids _ (by simp)) rfl rfl ?_ ?_⟩
    · intro gate given
      cases given
    · intro text given
      cases given
      exact sentence_pair (by decide) (by decide) (by decide)
  · cases List.mem_singleton.mp listed
    exact one_line_literal (by decide)
  · cases List.mem_singleton.mp listed
    exact one_line_literal (by decide)

theorem mapping_spelled {product : String} {requirement : Requirement}
    (member : requirement ∈ mappingsByOs product) : requirement.Spelled := by
  apply mappings_spelled
  unfold mappingsByOs at member
  split at member
  · exact List.mem_append_left _ member
  · split at member
    · exact List.mem_append_right _ member
    · cases member

/-- Channels that always answer alike make one view of all of them. -/
theorem run_windows_judges {decodeOem : List UInt8 → String} {collection : WindowsCollection}
    {look : String → ChannelConfig} (steady : collection.getChannelConfig = fun _ => look)
    {requirements : List Requirement} {result : RunResult}
    (returned : runWindows decodeOem collection requirements = .ok result) :
    ∃ parsed, result.findings = requirements.map (judgedFinding collection parsed look) := by
  unfold runWindows at returned
  cases config : parsedConfig decodeOem collection.sysmon with
  | error raised =>
      rw [config] at returned
      cases returned
  | ok parsed =>
      rw [config] at returned
      cases returned
      have snapshot := @windows_findings_steady collection parsed look steady
        (windowsStart collection) requirements (Memo.snapshot_empty look)
      exact ⟨parsed, (windows_findings_judged snapshot).2⟩

variable {facts : HostFacts}

theorem system_result_sentences {identity : HostIdentity} (plain : OneLine identity.arch)
    {events : Host.History} {result : RunResult}
    (given : Host.SystemResult facts identity events result) :
    ∀ finding ∈ result.findings, Sentence finding.explanation := by
  intro finding member
  cases given with
  | linux system asked collected =>
      obtain ⟨requirement, mapped, rfl⟩ := List.mem_map.mp member
      exact linux_finding_sentence _ plain (mapping_spelled mapped)
  | windows system asked collected returned =>
      rename_i answers
      obtain ⟨parsed, judged⟩ := run_windows_judges rfl returned
      rw [judged] at member
      obtain ⟨requirement, mapped, rfl⟩ := List.mem_map.mp member
      have policy := native_policy_plain answers.api collected.cli (mappingsByOs identity.os)
      exact judged_finding_sentence policy parsed _ (mapping_spelled mapped)
  | unsupported other => cases member

/-- Every explanation of a run is a sentence. -/
theorem run_sentences (plain : OneLine facts.machine) {demo : Bool} {events : Host.History}
    {report : Report} (traces : (Host.run facts demo).Traces events (.ok report)) :
    ∀ finding ∈ report.findings, Sentence finding.explanation := by
  cases demo with
  | true =>
      obtain ⟨now, _, _, traces⟩ := Host.traces_ask.mp traces
      obtain ⟨identity, _, _, _, _, _, same⟩ := Program.traces_bind_ok.mp traces
      cases same
      intro finding member
      cases List.mem_singleton.mp member
      exact sentence_literal (by decide) (by decide)
  | false =>
      obtain ⟨_, _, _, arch, _, given⟩ := Host.run_ok traces
      exact system_result_sentences (arch ▸ plain) given

end Findings

end Sigmascope
