import Sigmascope.Api.ReportJson

/-!
The schema of the package, and the reports of whole runs. Every run that ends with a report
ends with one that the schema accepts and that is read back from its JSON text, whatever the
host answers.
-/

namespace Sigmascope

set_option autoImplicit false

open Sigmascope.Library Sigmascope.Library.PyText
open Json (typeSchema constSchema dateTimeSchema strings arraySchema closedKeywords closedSchema)

section Schema

def hostSchema : Json :=
  closedSchema ["hostname", "os", "os_version", "arch"]
    [("hostname", typeSchema "string"), ("os", typeSchema "string"),
      ("os_version", typeSchema "string"), ("arch", typeSchema "string")]

def logsourceSchema : Json :=
  closedSchema ["category", "product"]
    [("category", typeSchema "string"), ("product", typeSchema "string"),
      ("service", typeSchema "string")]

def verdictSchema : Json :=
  .object [("enum", strings ["covered", "degraded", "not_covered", "indeterminate"])]

def findingSchema : Json :=
  closedSchema ["logsource", "verdict", "satisfied", "explanation", "providers", "references"]
    [("logsource", logsourceSchema), ("verdict", verdictSchema),
      ("satisfied", typeSchema "boolean"), ("explanation", typeSchema "string"),
      ("providers", arraySchema (typeSchema "object")),
      ("references", arraySchema (typeSchema "string"))]

/-- The keywords of `schema/report-0.1.json` behind its annotations. -/
def reportKeywords : List (String × Json) :=
  closedKeywords
    ["schema_version", "generated_utc", "tool_version", "catalog_version", "layer", "host",
      "findings", "diagnostics", "collection_errors"]
    [("schema_version", constSchema "0.1"), ("generated_utc", dateTimeSchema),
      ("tool_version", typeSchema "string"), ("catalog_version", typeSchema "string"),
      ("layer", constSchema "generation"), ("host", hostSchema),
      ("findings", arraySchema findingSchema),
      ("diagnostics", arraySchema (typeSchema "object")),
      ("collection_errors", arraySchema (typeSchema "object"))]

/-- `schema/report-0.1.json` -/
def reportSchema : Json :=
  .object
    (("$schema", .string "https://json-schema.org/draft/2020-12/schema") ::
      ("$id", .string "https://github.com/zbalkan/sigmascope/schema/report-0.1.json") ::
      ("title", .string "sigmascope generation-layer report") :: reportKeywords)

end Schema

section Conforming

/-- The log source is one of the catalogue. -/
def Finding.Sourced (finding : Finding) : Prop :=
  ∃ requirement ∈ windowsMappings ++ linuxMappings, finding.logsource = requirement.logsource

theorem logsource_conforms {finding : Finding} (sourced : finding.Sourced) :
    Json.validate logsourceSchema
      (Json.object (finding.logsource.map fun item => (item.1, .string item.2))).sortKeys =
        true := by
  have all : ∀ requirement ∈ windowsMappings ++ linuxMappings, Json.validate logsourceSchema
      (Json.object (requirement.logsource.map fun item => (item.1, .string item.2))).sortKeys =
        true := by decide
  obtain ⟨requirement, member, same⟩ := sourced
  rw [same]
  exact all requirement member

theorem verdict_conforms (verdict : Verdict) :
    Json.validate verdictSchema (.string verdict.value) = true := by
  cases verdict <;> decide

theorem objects_conform {Value : Type} {write : Value → Json}
    (object : ∀ value, Json.hasType "object" (write value).sortKeys = true)
    (values : List Value) :
    Json.validate (arraySchema (typeSchema "object")) (Json.array (values.map write)).sortKeys =
      true := by
  apply Json.validate_array
  intro item member
  obtain ⟨value, _, rfl⟩ := List.mem_map.mp member
  change (Json.hasType "object" (write value).sortKeys && true) = true
  rw [object value]
  rfl

theorem finding_conforms {finding : Finding} (sourced : finding.Sourced) :
    Json.validate findingSchema finding.json.sortKeys = true := by
  have source := logsource_conforms sourced
  have verdict := verdict_conforms finding.verdict
  have providers := @objects_conform _ ProviderResult.json (fun _ => rfl) finding.providers
  have references : Json.validate (arraySchema (typeSchema "string"))
      (Json.array (finding.references.map .string)).sortKeys = true := by
    apply Json.validate_array
    intro item member
    obtain ⟨text, _, rfl⟩ := List.mem_map.mp member
    rfl
  rw [Finding.json, Json.validate_sorted _ (by simp), findingSchema]
  refine Json.validate_closed rfl (by decide) ?_
  simp only [Json.propertiesHold, Bool.and_eq_true]
  exact ⟨source, verdict, rfl, rfl, providers, references, trivial⟩

/-- The moment of a report is a date-time text. -/
theorem generated_utc_conforms (now : DateTime) :
    Json.validate dateTimeSchema (.string (Host.generatedUtc now)) = true := by
  have written : replace ['+', '0', '0', ':', '0', '0'] ['Z'] now.isoformat =
      now.clock ++ ['Z'] := by
    have replaced := @replace_first ['Z'] '+' ['0', '0', ':', '0', '0'] now.clock []
      now.clock_plain
    simpa [DateTime.isoformat, replace, replaceFrom] using replaced
  apply Json.validate_date_time
  rw [Host.generatedUtc, String.toList_ofList, written]
  exact now.is_date_time_clock ['Z'] rfl (by simp; decide)

theorem host_conforms (host : HostIdentity) :
    Json.validate hostSchema host.json.sortKeys = true := by
  rw [HostIdentity.json, Json.validate_sorted _ (by simp), hostSchema]
  refine Json.validate_closed rfl (by decide) ?_
  simp only [Json.propertiesHold, Bool.and_eq_true]
  exact ⟨rfl, rfl, rfl, rfl, trivial⟩

theorem report_conforms {report : Report} (now : DateTime)
    (written : report.generatedUtc = Host.generatedUtc now)
    (sourced : ∀ finding ∈ report.findings, finding.Sourced) :
    Json.validate reportSchema report.json.sortKeys = true := by
  have moment : Json.validate dateTimeSchema (.string report.generatedUtc) = true := by
    rw [written]
    exact generated_utc_conforms now
  have host := host_conforms report.host
  have findings : Json.validate (arraySchema findingSchema)
      (Json.array (report.findings.map Finding.json)).sortKeys = true := by
    apply Json.validate_array
    intro item member
    obtain ⟨finding, inside, rfl⟩ := List.mem_map.mp member
    exact finding_conforms (sourced finding inside)
  have diagnostics := @objects_conform _ Diagnostic.json (fun _ => rfl) report.diagnostics
  have errors := @objects_conform _ CollectionError.json (fun _ => rfl) report.collectionErrors
  rw [Report.json, Json.validate_sorted _ (by simp), reportSchema,
    Json.validate_annotated (by decide), Json.validate_annotated (by decide),
    Json.validate_annotated (by decide)]
  refine Json.validate_closed rfl (by decide) ?_
  simp only [Json.propertiesHold, Bool.and_eq_true]
  exact ⟨rfl, moment, rfl, rfl, rfl, host, findings, diagnostics, errors, trivial⟩

end Conforming

section Runs

/-- What a finding takes over from its requirement. -/
theorem windows_findings_headings (collection : WindowsCollection) (parsed : Option ParseResult)
    (state : WindowsState) (requirements : List Requirement) :
    (windowsFindings collection parsed state requirements).1.map Finding.logsource =
      requirements.map Requirement.logsource := by
  induction requirements generalizing state with
  | nil => rfl
  | cons requirement requirements induction =>
      exact congrArg (requirement.logsource :: ·) (induction _)

theorem mappings_sourced (product : String) : ∀ requirement ∈ mappingsByOs product,
    requirement ∈ windowsMappings ++ linuxMappings := by
  intro requirement member
  unfold mappingsByOs at member
  split at member
  · exact List.mem_append_left _ member
  · split at member
    · exact List.mem_append_right _ member
    · cases member

theorem run_windows_headings {decodeOem : List UInt8 → String} {collection : WindowsCollection}
    {requirements : List Requirement} {result : RunResult}
    (returned : runWindows decodeOem collection requirements = .ok result) :
    result.findings.map Finding.logsource = requirements.map Requirement.logsource := by
  unfold runWindows at returned
  cases config : parsedConfig decodeOem collection.sysmon with
  | error raised =>
      rw [config] at returned
      cases returned
  | ok parsed =>
      rw [config] at returned
      cases returned
      exact windows_findings_headings collection parsed (windowsStart collection) requirements

variable {facts : HostFacts}

/-- A system has one finding for each of its requirements, in their order. -/
theorem system_result_headings {identity : HostIdentity} {events : Host.History}
    {result : RunResult} (given : Host.SystemResult facts identity events result) :
    result.findings.map Finding.logsource =
      (mappingsByOs identity.os).map Requirement.logsource := by
  cases given with
  | linux system asked collected => exact List.map_map
  | windows system asked collected returned => exact run_windows_headings returned
  | unsupported other =>
      rw [mappingsByOs, if_neg other.2, if_neg other.1]
      rfl

theorem system_result_sourced {identity : HostIdentity} {events : Host.History}
    {result : RunResult} (given : Host.SystemResult facts identity events result) :
    ∀ finding ∈ result.findings, finding.Sourced := by
  intro finding member
  have heading : finding.logsource ∈ result.findings.map Finding.logsource :=
    List.mem_map.mpr ⟨finding, member, rfl⟩
  rw [system_result_headings given] at heading
  obtain ⟨requirement, mapped, same⟩ := List.mem_map.mp heading
  exact ⟨requirement, mappings_sourced _ requirement mapped, same.symm⟩

/-- What every report of a run is like, the one of the demo among them. -/
theorem run_report {demo : Bool} {events : Host.History} {report : Report}
    (traces : (Host.run facts demo).Traces events (.ok report)) :
    (∃ now, report.generatedUtc = Host.generatedUtc now) ∧
      ∀ finding ∈ report.findings, finding.Sourced := by
  cases demo with
  | true =>
      obtain ⟨now, _, _, traces⟩ := Host.traces_ask.mp traces
      obtain ⟨identity, _, _, _, _, _, same⟩ := Program.traces_bind_ok.mp traces
      cases same
      refine ⟨⟨now, rfl⟩, ?_⟩
      intro finding member
      cases List.mem_singleton.mp member
      exact ⟨linuxProcessCreation, by simp [linuxMappings], rfl⟩
  | false =>
      obtain ⟨identity, _, _, _, _, traces⟩ := Program.traces_bind_ok.mp traces
      obtain ⟨result, _, _, _, collected, traces⟩ := Program.traces_bind_ok.mp traces
      obtain ⟨now, _, _, _, same⟩ := Host.traces_ask.mp traces
      cases same
      exact ⟨⟨now, rfl⟩, system_result_sourced (Host.run_system_refines collected)⟩

theorem sourced_ordered {finding : Finding} (sourced : finding.Sourced) : finding.Ordered := by
  have all : ∀ requirement ∈ windowsMappings ++ linuxMappings,
      (requirement.logsource.map Prod.fst).Pairwise (· ≤ ·) := by decide
  obtain ⟨requirement, member, same⟩ := sourced
  rw [Finding.Ordered, same]
  exact all requirement member

variable (facts) (environment : Program.Environment hostInterface)
  (past : List (Event hostInterface)) (demo : Bool)

/-- The JSON text of a report holds the whole report. -/
theorem run_json_reads_back :
    (Program.run environment past (Host.run facts demo)).1.map
        (fun report => readReport (renderJson report)) =
      (Program.run environment past (Host.run facts demo)).1.map some := by
  obtain ⟨events, _, traces⟩ := Program.run_traces environment past (Host.run facts demo)
  cases outcome : (Program.run environment past (Host.run facts demo)).1 with
  | error raised => simp only [Except.map]
  | ok report =>
      rw [outcome] at traces
      have sourced := (run_report traces).2
      exact congrArg Except.ok
        (read_report_back fun finding member => sourced_ordered (sourced finding member))

/-- The JSON text of a report is valid for the schema of the package. -/
theorem run_json_conforms :
    (Program.run environment past (Host.run facts demo)).1.map
        (fun report => (Json.read (renderJson report)).map (Json.validate reportSchema)) =
      (Program.run environment past (Host.run facts demo)).1.map fun _ => some true := by
  obtain ⟨events, _, traces⟩ := Program.run_traces environment past (Host.run facts demo)
  cases outcome : (Program.run environment past (Host.run facts demo)).1 with
  | error raised => simp only [Except.map]
  | ok report =>
      rw [outcome] at traces
      obtain ⟨⟨now, written⟩, sourced⟩ := run_report traces
      change Except.ok ((Json.read (renderJson report)).map (Json.validate reportSchema)) =
        Except.ok (some true)
      rw [read_render_json, Option.map_some, report_conforms now written sourced]

end Runs

end Sigmascope
