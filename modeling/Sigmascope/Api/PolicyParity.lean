import Sigmascope.Api.HostRun
import Sigmascope.Api.NativePolicy
import Sigmascope.Evaluate.Disjunction

/-!
One audit policy from two sources. The native interface and the report of auditpol
have the same word for each setting but one: a subcategory that is not audited is
`none` to the interface, and 0 in the report, which the parser does not take for a
state. The loops of the evaluation are run side by side on the two policies.
-/

namespace Sigmascope

set_option autoImplicit false

open Sigmascope.Library

section Setting

/-- The state in a native policy; without a setting the subcategory is not audited. -/
def nativeName : Option AuditState → String
  | some state => state.name
  | none => "none"

/-- The state in the policy that a report gives. -/
def reportName : Option AuditState → String
  | some state => state.name
  | none => "unknown"

/-- Both policies hold the setting of a subcategory, each in its own words. -/
structure HoldsSetting (setting : Option AuditState) (native report : ParseResult)
    (provider : WindowsAuditProvider) : Prop where
  native : (findGate native (auditKey (upperText provider.subcategoryGuid))).map Gate.value =
    some (.str (nativeName setting))
  report : (findGate report (auditKey (upperText provider.subcategoryGuid))).map Gate.value =
    some (.str (reportName setting))

variable {provider : WindowsAuditProvider} {setting : Option AuditState}
  {native report : ParseResult}

/-- A channel that is not open decides without the policy. -/
theorem windows_audit_closed {channel : ChannelConfig} (closed : ¬channel.Open)
    (registry : ParseResult) :
    (evaluateWindowsAudit provider native registry channel).1 =
        (evaluateWindowsAudit provider report registry channel).1 ∧
      (evaluateWindowsAudit provider native registry channel).2.1 =
        (evaluateWindowsAudit provider report registry channel).2.1 := by
  rcases channel_cases channel with ⟨disabled, _⟩ | isOpen | ⟨notDisabled, unknown, _⟩
  · simp only [evaluateWindowsAudit, disabled, if_true, and_self]
  · exact absurd isOpen closed
  · simp only [evaluateWindowsAudit, if_neg notDisabled, if_pos unknown, and_self]

/-- A setting has the same word in both policies. -/
theorem windows_audit_set {state : AuditState}
    (holds : HoldsSetting (some state) native report provider) (registry : ParseResult)
    (channel : ChannelConfig) :
    (evaluateWindowsAudit provider native registry channel).1 =
        (evaluateWindowsAudit provider report registry channel).1 ∧
      (evaluateWindowsAudit provider native registry channel).2.1 =
        (evaluateWindowsAudit provider report registry channel).2.1 := by
  obtain ⟨gate, found, value⟩ := Option.map_eq_some_iff.mp holds.native
  obtain ⟨other, also, otherValue⟩ := Option.map_eq_some_iff.mp holds.report
  simp only [evaluateWindowsAudit, found, also]
  split
  · exact ⟨rfl, rfl⟩
  · split
    · exact ⟨rfl, rfl⟩
    · exact audit_gate_value provider registry (value.trans otherValue.symm)

/-- Behind an open channel, no auditing is a gap of the native policy and an open question to
the report. -/
theorem windows_audit_unset (holds : HoldsSetting none native report provider)
    (shaped : CatalogueShape provider) (registry : ParseResult) {channel : ChannelConfig}
    (isOpen : channel.Open) :
    (evaluateWindowsAudit provider native registry channel).1 = .notCovered ∧
      (evaluateWindowsAudit provider report registry channel).1 = .indeterminate := by
  obtain ⟨gate, found, value⟩ := Option.map_eq_some_iff.mp holds.native
  obtain ⟨other, also, otherValue⟩ := Option.map_eq_some_iff.mp holds.report
  constructor
  · apply windows_audit_not_covered_iff.mpr
    refine Or.inr ⟨isOpen, gate, found, ?_, ?_⟩
    · constructor <;> rw [value] <;> decide
    · intro required
      have known := shaped _ required
      rw [value] at known
      revert known
      decide
  · rw [audit_open_channel provider registry report isOpen.1 isOpen.2, also, Option.map_some,
      Option.getD_some]
    exact audit_gate_undetermined provider registry (Or.inl otherValue)

end Setting

/-- The judgement of a provider by the two sources of the policy. A lost provider has a gap by
the native policy, which the report leaves open; any other provider is judged alike. What it was
read from may differ. -/
structure ProviderResult.Parity (lost : Prop) (first second : ProviderResult) : Prop where
  sourceId : first.sourceId = second.sourceId
  kept : ¬lost → first.verdict = second.verdict ∧ first.explanation = second.explanation
  gap : lost → first.verdict = .notCovered ∧ second.verdict = .indeterminate

/-- The identifier of the source that a provider reads. -/
def Provider.sourceId : Provider → Option String
  | .windowsAudit provider => some provider.sourceId
  | .sysmon provider => some provider.sourceId
  | .auditd provider => some provider.sourceId
  | .unknownKind => none

/-- The results are those of providers of the list. -/
abbrev ResultsParity (lost : Provider → Prop) (providers : List Provider)
    (first second : List ProviderResult) : Prop :=
  List.Forall₂
    (fun left right => ∃ provider ∈ providers, provider.sourceId = some left.sourceId ∧
      left.Parity (lost provider) right)
    first second

/-- The findings about a requirement by the two sources. With a lost provider the finding keeps
its verdict or is left open, and full coverage stays as it is. -/
structure Finding.Parity (lost : Provider → Prop) (requirement : Requirement)
    (first second : Finding) : Prop where
  logsource : first.logsource = requirement.logsource ∧ second.logsource = requirement.logsource
  references : first.references = second.references
  providers : ResultsParity lost requirement.providers first.providers second.providers
  kept : (∀ provider ∈ requirement.providers, ¬lost provider) →
    first.verdict = second.verdict ∧ first.explanation = second.explanation
  blurred : Blurs .indeterminate first.verdict second.verdict
  covered : first.verdict = .covered →
    second.verdict = .covered ∧ first.explanation = second.explanation
  satisfied : first.satisfied = first.verdict.satisfied ∧
    second.satisfied = second.verdict.satisfied

section Resolve

variable {lost : Provider → Prop} {requirement : Requirement}
  {first second : List ProviderResult}

theorem ProviderResult.Parity.refl {lost : Prop} (not_lost : ¬lost) (result : ProviderResult) :
    result.Parity lost result :=
  ⟨rfl, fun _ => ⟨rfl, rfl⟩, fun gone => absurd gone not_lost⟩

theorem ProviderResult.Parity.blurred {lost : Prop} {left right : ProviderResult}
    (parity : left.Parity lost right) : Blurs .indeterminate left.verdict right.verdict := by
  by_cases gone : lost
  · exact Or.inl (parity.gap gone).2
  · exact Or.inr (parity.kept gone).1.symm

/-- A lost provider is covered by neither source. -/
theorem ProviderResult.Parity.covered {lost : Prop} {left right : ProviderResult}
    (parity : left.Parity lost right) :
    (left.verdict == .covered) = (right.verdict == .covered) ∧
      ((left.verdict == .covered) = true → left.explanation = right.explanation) := by
  by_cases gone : lost
  · rw [(parity.gap gone).1, (parity.gap gone).2]
    exact ⟨rfl, nofun⟩
  · rw [(parity.kept gone).1]
    exact ⟨rfl, fun _ => (parity.kept gone).2⟩

theorem results_kept (parity : ResultsParity lost requirement.providers first second)
    (kept : ∀ provider ∈ requirement.providers, ¬lost provider) :
    List.Forall₂
      (fun left right : ProviderResult => left.sourceId = right.sourceId ∧
        left.verdict = right.verdict ∧ left.explanation = right.explanation)
      first second := by
  apply parity.imp
  rintro left right ⟨provider, offered, _, same⟩
  exact ⟨same.sourceId, same.kept (kept provider offered)⟩

theorem explanations_same
    (same : List.Forall₂
      (fun left right : ProviderResult => left.sourceId = right.sourceId ∧
        left.verdict = right.verdict ∧ left.explanation = right.explanation)
      first second) :
    first.map (fun item => item.sourceId ++ ": " ++ item.explanation) =
      second.map fun item => item.sourceId ++ ": " ++ item.explanation := by
  rw [← List.forall₂_eq_eq_eq, List.forall₂_map_left_iff, List.forall₂_map_right_iff]
  apply same.imp
  rintro left right ⟨source, _, explanation⟩
  rw [source, explanation]

theorem resolve_kept (requirement : Requirement)
    (same : List.Forall₂
      (fun left right : ProviderResult => left.sourceId = right.sourceId ∧
        left.verdict = right.verdict ∧ left.explanation = right.explanation)
      first second) :
    (resolveProviderDisjunction requirement first).verdict =
        (resolveProviderDisjunction requirement second).verdict ∧
      (resolveProviderDisjunction requirement first).explanation =
        (resolveProviderDisjunction requirement second).explanation := by
  have texts := explanations_same same
  cases same with
  | nil => exact ⟨rfl, rfl⟩
  | cons head tail =>
      have orders : ∀ left right : ProviderResult,
          (left.sourceId = right.sourceId ∧ left.verdict = right.verdict ∧
            left.explanation = right.explanation) →
          providerOrder left.verdict = providerOrder right.verdict :=
        fun left right alike => congrArg providerOrder alike.2.1
      obtain ⟨_, verdict, explanation⟩ := first_maximum_related orders head tail
      constructor
      · exact verdict
      · simp only [resolveProviderDisjunction, texts, verdict, explanation]

/-- The first covered provider of one source is that of the other. -/
theorem find_covered (parity : ResultsParity lost requirement.providers first second)
    {item : ProviderResult}
    (found : first.find? (fun item => item.verdict == .covered) = some item) :
    ∃ other, second.find? (fun item => item.verdict == .covered) = some other ∧
      item.explanation = other.explanation := by
  induction parity with
  | nil => cases found
  | @cons left right _ _ related _ induction =>
      obtain ⟨provider, _, _, same⟩ := related
      obtain ⟨verdict, explanation⟩ := same.covered
      cases covered : left.verdict == .covered with
      | true =>
          rw [List.find?_cons, covered] at found
          cases found
          refine ⟨right, ?_, explanation covered⟩
          rw [List.find?_cons, ← verdict, covered]
      | false =>
          rw [List.find?_cons, covered] at found
          rw [List.find?_cons, ← verdict, covered]
          exact induction found

theorem resolve_parity (parity : ResultsParity lost requirement.providers first second) :
    (resolveProviderDisjunction requirement first).Parity lost requirement
      (resolveProviderDisjunction requirement second) := by
  constructor
  · exact ⟨rfl, rfl⟩
  · rfl
  · exact parity
  · intro kept
    exact resolve_kept requirement (results_kept parity kept)
  · apply resolve_blurs
    apply parity.imp
    rintro left right ⟨_, _, _, same⟩
    exact same.blurred
  · intro covered
    obtain ⟨item, found, explanation⟩ := resolve_covered_explanation requirement covered
    obtain ⟨other, also, same⟩ := find_covered parity found
    have provided : second ≠ [] := List.ne_nil_of_mem (List.mem_of_find?_eq_some also)
    have held : other.verdict = .covered := by simpa using List.find?_some also
    have reached := (resolve_covered_iff requirement provided).mpr
      ⟨other, List.mem_of_find?_eq_some also, held⟩
    obtain ⟨best, chosen, text⟩ := resolve_covered_explanation requirement reached
    rw [also] at chosen
    cases chosen
    exact ⟨reached, by rw [explanation, text, same]⟩
  · exact ⟨rfl, rfl⟩

end Resolve

namespace Host

section Loop

variable {facts : HostFacts} {answers : (query : HostCall) → HostReply query}
  {setting : String → Option AuditState} {inputs : WindowsInputs} {policy : ParseResult}
  {extra : List CollectionError}

/-- The subcategory of the provider is not audited, and its channel is open. -/
def Lost (facts : HostFacts) (answers : (query : HostCall) → HostReply query)
    (setting : String → Option AuditState) : Provider → Prop
  | .windowsAudit audit =>
      setting (upperText audit.subcategoryGuid) = none ∧
        ∃ config, (getChannelConfig facts audit.channel).value answers = .ok config ∧ config.Open
  | _ => False

/-- The same channels are known, as the host answers, and the second run has some errors more at
the front. -/
structure TableAlike (facts : HostFacts) (answers : (query : HostCall) → HostReply query)
    (extra : List CollectionError) (first second : ChannelTable) : Prop where
  channels : second.channels = first.channels
  errors : second.errors = extra ++ first.errors
  known : ∀ name config, first.channels.get? name = some config →
    (getChannelConfig facts name).value answers = .ok config

theorem channel_alike {first second : ChannelTable}
    (alike : TableAlike facts answers extra first second) (name : String) :
    Program.Related
      (fun left right => left.1 = right.1 ∧
        (getChannelConfig facts name).value answers = .ok left.1 ∧
        TableAlike facts answers extra left.2 right.2)
      ((channel facts first name).value answers) ((channel facts second name).value answers) := by
  unfold channel
  rw [alike.channels]
  cases held : first.channels.get? name with
  | some config => exact .ok ⟨rfl, alike.known name config held, alike⟩
  | none =>
      rw [Program.value_bind, Program.value_bind]
      cases answered : (getChannelConfig facts name).value answers with
      | error raised => exact .error raised
      | ok config =>
          refine .ok ⟨rfl, rfl, rfl, ?_, ?_⟩
          · dsimp only
            rw [alike.errors, List.append_assoc]
          · intro other kept found
            rw [Dict.get_set] at found
            split at found
            · rename_i same
              cases found
              rw [same]
              exact answered
            · exact alike.known other kept found

/-- The second run works on the policy of the report. -/
theorem windows_output_parity {first second : ChannelTable}
    (alike : TableAlike facts answers extra first second) {provider : Provider}
    (holds : ∀ audit, provider = .windowsAudit audit → CatalogueShape audit ∧
      HoldsSetting (setting (upperText audit.subcategoryGuid)) inputs.auditPolicy policy audit) :
    Program.Related
      (fun left right =>
        ResultsParity (Lost facts answers setting) [provider] left.1.toList right.1.toList ∧
          TableAlike facts answers extra left.2 right.2)
      ((windowsOutput facts inputs first provider).value answers)
      ((windowsOutput facts { inputs with auditPolicy := policy } second provider).value
        answers) := by
  cases provider with
  | windowsAudit audit =>
      obtain ⟨shaped, held⟩ := holds audit rfl
      unfold windowsOutput
      rw [Program.value_bind, Program.value_bind]
      apply Program.related_bind (channel_alike alike audit.channel)
      rintro ⟨config, left⟩ ⟨_, right⟩ ⟨rfl, answered, tables⟩
      refine .ok ⟨.cons ⟨_, List.mem_singleton_self _, rfl, rfl, ?_, ?_⟩ .nil, tables⟩
      · intro kept
        cases set : setting (upperText audit.subcategoryGuid) with
        | some state =>
            rw [set] at held
            exact windows_audit_set held inputs.registry config
        | none =>
            have closed : ¬config.Open := fun isOpen => kept ⟨set, config, answered, isOpen⟩
            exact windows_audit_closed closed inputs.registry
      · rintro ⟨unset, other, also, isOpen⟩
        rw [answered] at also
        cases also
        rw [unset] at held
        exact windows_audit_unset held shaped inputs.registry isOpen
  | sysmon sysmon =>
      have kept : ¬Lost facts answers setting (.sysmon sysmon) := id
      unfold windowsOutput
      dsimp only
      cases sysmonReady inputs.sysmon inputs.parsed with
      | inl outcome =>
          exact .ok ⟨.cons ⟨_, List.mem_singleton_self _, rfl, .refl kept _⟩ .nil, alike⟩
      | inr result =>
          rw [Program.value_bind, Program.value_bind]
          apply Program.related_bind (channel_alike alike sysmon.channel)
          rintro ⟨config, left⟩ ⟨_, right⟩ ⟨rfl, _, tables⟩
          exact .ok ⟨.cons ⟨_, List.mem_singleton_self _, rfl, .refl kept _⟩ .nil, tables⟩
  | auditd auditd => exact .ok ⟨.nil, alike⟩
  | unknownKind => exact .ok ⟨.nil, alike⟩

theorem ResultsParity.mono {lost : Provider → Prop} {few many : List Provider}
    {first second : List ProviderResult} (parity : ResultsParity lost few first second)
    (inside : few ⊆ many) : ResultsParity lost many first second := by
  apply parity.imp
  rintro left right ⟨provider, offered, rest⟩
  exact ⟨provider, inside offered, rest⟩

theorem windows_outputs_parity {providers : List Provider}
    (holds : ∀ audit, .windowsAudit audit ∈ providers → CatalogueShape audit ∧
      HoldsSetting (setting (upperText audit.subcategoryGuid)) inputs.auditPolicy policy audit)
    {first second : ChannelTable} (alike : TableAlike facts answers extra first second) :
    Program.Related
      (fun left right =>
        ResultsParity (Lost facts answers setting) providers left.1 right.1 ∧
          TableAlike facts answers extra left.2 right.2)
      ((windowsOutputs facts inputs first providers).value answers)
      ((windowsOutputs facts { inputs with auditPolicy := policy } second providers).value
        answers) := by
  induction providers generalizing first second with
  | nil => exact .ok ⟨.nil, alike⟩
  | cons provider providers induction =>
      unfold windowsOutputs
      rw [Program.value_bind, Program.value_bind]
      have own : ∀ audit, provider = .windowsAudit audit → _ :=
        fun audit equal => holds audit (equal ▸ List.mem_cons_self)
      apply Program.related_bind (windows_output_parity alike own)
      rintro ⟨output, left⟩ ⟨other, right⟩ ⟨outputs, tables⟩
      dsimp only
      rw [Program.value_bind, Program.value_bind]
      apply Program.related_bind
        (induction (fun audit member => holds audit (List.mem_cons_of_mem _ member)) tables)
      rintro ⟨rest, last⟩ ⟨others, final⟩ ⟨results, ends⟩
      refine .ok
        ⟨List.rel_append (ResultsParity.mono outputs ?_) (ResultsParity.mono results ?_), ends⟩
      · exact List.cons_subset_cons _ (List.nil_subset _)
      · exact List.subset_cons_self _ _

/-- The findings are about requirements of the list. -/
abbrev FindingsParity (lost : Provider → Prop) (requirements : List Requirement)
    (first second : List Finding) : Prop :=
  List.Forall₂ (fun left right => ∃ requirement ∈ requirements,
    Finding.Parity lost requirement left right) first second

theorem windows_findings_parity {requirements : List Requirement}
    (holds : ∀ requirement ∈ requirements, ∀ audit, .windowsAudit audit ∈ requirement.providers →
      CatalogueShape audit ∧
        HoldsSetting (setting (upperText audit.subcategoryGuid)) inputs.auditPolicy policy audit)
    {first second : ChannelTable} (alike : TableAlike facts answers extra first second) :
    Program.Related
      (fun left right => FindingsParity (Lost facts answers setting) requirements left.1 right.1 ∧
        TableAlike facts answers extra left.2 right.2)
      ((windowsFindings facts inputs first requirements).value answers)
      ((windowsFindings facts { inputs with auditPolicy := policy } second requirements).value
        answers) := by
  induction requirements generalizing first second with
  | nil => exact .ok ⟨.nil, alike⟩
  | cons requirement requirements induction =>
      unfold windowsFindings
      rw [Program.value_bind, Program.value_bind]
      apply Program.related_bind
        (windows_outputs_parity (holds requirement List.mem_cons_self) alike)
      rintro ⟨outputs, left⟩ ⟨others, right⟩ ⟨results, tables⟩
      dsimp only
      rw [Program.value_bind, Program.value_bind]
      apply Program.related_bind
        (induction (fun other member => holds other (List.mem_cons_of_mem _ member)) tables)
      rintro ⟨findings, last⟩ ⟨further, final⟩ ⟨judgements, ends⟩
      refine .ok ⟨.cons ⟨requirement, List.mem_cons_self, resolve_parity results⟩ ?_, ends⟩
      apply judgements.imp
      rintro finding other ⟨about, listed, parity⟩
      exact ⟨about, List.mem_cons_of_mem _ listed, parity⟩

end Loop

end Host

end Sigmascope
