import Sigmascope.Api.HostRefinement
import Sigmascope.Library.JsonSchema

/-!
A report as JSON. What `render_json` writes is read back as the report it was written from,
and it is what the schema of the package asks for.
-/

namespace Sigmascope

set_option autoImplicit false

open Sigmascope.Library Sigmascope.Library.PyText

section Writer

/-- `sigmascope.__version__` -/
def toolVersion : String := "0.1.0"

def catalogVersion : String := "0.1.0"

def Evidence.json (evidence : Evidence) : Json :=
  .object
    [("resource", .string evidence.resource), ("locator", .string evidence.locator),
      ("raw", .string evidence.raw)]

def ProviderResult.json (result : ProviderResult) : Json :=
  .object
    [("source_id", .string result.sourceId), ("verdict", .string result.verdict.value),
      ("explanation", .string result.explanation),
      ("evidence", .array (result.evidence.map Evidence.json))]

def Finding.json (finding : Finding) : Json :=
  .object
    [("logsource", .object (finding.logsource.map fun item => (item.1, .string item.2))),
      ("verdict", .string finding.verdict.value), ("satisfied", .bool finding.satisfied),
      ("explanation", .string finding.explanation),
      ("providers", .array (finding.providers.map ProviderResult.json)),
      ("references", .array (finding.references.map .string))]

def Severity.value : Severity → String
  | .warn => "warn"
  | .error => "error"

def Origin.json (origin : Origin) : Json :=
  .object [("resource", .string origin.resource), ("locator", .string origin.locator)]

/-- `asdict` -/
def Diagnostic.json (diagnostic : Diagnostic) : Json :=
  .object
    [("severity", .string diagnostic.severity.value), ("message", .string diagnostic.message),
      ("origin", diagnostic.origin.json), ("raw", .string diagnostic.raw)]

/-- `asdict` -/
def CollectionError.json (error : CollectionError) : Json :=
  .object
    [("source_id", .string error.sourceId), ("message", .string error.message),
      ("resource", .string error.resource)]

def HostIdentity.json (host : HostIdentity) : Json :=
  .object
    [("hostname", .string host.hostname), ("os", .string host.os),
      ("os_version", .string host.osVersion), ("arch", .string host.arch)]

def Report.json (report : Report) : Json :=
  .object
    [("schema_version", .string "0.1"), ("generated_utc", .string report.generatedUtc),
      ("tool_version", .string toolVersion), ("catalog_version", .string catalogVersion),
      ("layer", .string "generation"), ("host", report.host.json),
      ("findings", .array (report.findings.map Finding.json)),
      ("diagnostics", .array (report.diagnostics.map Diagnostic.json)),
      ("collection_errors", .array (report.collectionErrors.map CollectionError.json))]

/-- `render_json` -/
def renderJson (report : Report) : Text := Json.dumps 2 report.json ++ ['\n']

end Writer

section Reader

def readVerdict (text : String) : Option Verdict :=
  [Verdict.covered, .degraded, .notCovered, .indeterminate].find? (·.value == text)

def readSeverity (text : String) : Option Severity :=
  [Severity.warn, .error].find? (·.value == text)

def readEvidence (value : Json) : Option Evidence := do
  let resource ← value.textField "resource"
  let locator ← value.textField "locator"
  let raw ← value.textField "raw"
  some ⟨resource, locator, raw⟩

def readProviderResult (value : Json) : Option ProviderResult := do
  let sourceId ← value.textField "source_id"
  let verdict ← (value.textField "verdict").bind readVerdict
  let explanation ← value.textField "explanation"
  let evidence ← value.listField "evidence" readEvidence
  some ⟨sourceId, verdict, explanation, evidence⟩

/-- The members of an object of strings, in their order. -/
def readTexts (value : Json) : Option (List (String × String)) :=
  value.members.mapM fun member => member.2.text.map fun text => (member.1, text)

def readFinding (value : Json) : Option Finding := do
  let logsource ← (value.field "logsource").bind readTexts
  let verdict ← (value.textField "verdict").bind readVerdict
  let satisfied ← (value.field "satisfied").bind Json.truth
  let explanation ← value.textField "explanation"
  let providers ← value.listField "providers" readProviderResult
  let references ← value.listField "references" Json.text
  some ⟨logsource, verdict, satisfied, explanation, providers, references⟩

def readOrigin (value : Json) : Option Origin := do
  let resource ← value.textField "resource"
  let locator ← value.textField "locator"
  some ⟨resource, locator⟩

def readDiagnostic (value : Json) : Option Diagnostic := do
  let severity ← (value.textField "severity").bind readSeverity
  let message ← value.textField "message"
  let origin ← (value.field "origin").bind readOrigin
  let raw ← value.textField "raw"
  some ⟨severity, message, origin, raw⟩

def readCollectionError (value : Json) : Option CollectionError := do
  let sourceId ← value.textField "source_id"
  let message ← value.textField "message"
  let resource ← value.textField "resource"
  some ⟨sourceId, message, resource⟩

def readHost (value : Json) : Option HostIdentity := do
  let hostname ← value.textField "hostname"
  let os ← value.textField "os"
  let osVersion ← value.textField "os_version"
  let arch ← value.textField "arch"
  some ⟨hostname, os, osVersion, arch⟩

def readReportValue (value : Json) : Option Report := do
  let generatedUtc ← value.textField "generated_utc"
  let host ← (value.field "host").bind readHost
  let findings ← value.listField "findings" readFinding
  let diagnostics ← value.listField "diagnostics" readDiagnostic
  let errors ← value.listField "collection_errors" readCollectionError
  some ⟨generatedUtc, host, findings, diagnostics, errors⟩

/-- The report that a text stands for. -/
def readReport (text : Text) : Option Report := (Json.read text).bind readReportValue

end Reader

section ReadBack

open Json (text_field_sorted list_field_sorted sorted_field)

theorem read_verdict_back (verdict : Verdict) : readVerdict verdict.value = some verdict := by
  cases verdict <;> decide

theorem read_severity_back (severity : Severity) :
    readSeverity severity.value = some severity := by
  cases severity <;> decide

theorem read_evidence_back (evidence : Evidence) :
    readEvidence evidence.json.sortKeys = some evidence := by
  unfold readEvidence Evidence.json
  rw [text_field_sorted (by simp) rfl, text_field_sorted (by simp) rfl,
    text_field_sorted (by simp) rfl]
  rfl

theorem read_provider_result_back (result : ProviderResult) :
    readProviderResult result.json.sortKeys = some result := by
  unfold readProviderResult ProviderResult.json
  rw [text_field_sorted (by simp) rfl, text_field_sorted (by simp) rfl,
    text_field_sorted (by simp) rfl,
    list_field_sorted (by simp) rfl fun evidence _ => read_evidence_back evidence]
  simp only [Option.bind_some, read_verdict_back]
  rfl

/-- The keys of the log source are in order. -/
def Finding.Ordered (finding : Finding) : Prop :=
  (finding.logsource.map Prod.fst).Pairwise (· ≤ ·)

theorem read_texts_back {texts : List (String × String)}
    (ordered : (texts.map Prod.fst).Pairwise (· ≤ ·)) :
    readTexts (Json.object (texts.map fun item => (item.1, .string item.2))).sortKeys =
      some texts := by
  have inOrder : (texts.map fun item => (item.1, Json.string item.2)).Pairwise Json.keyOrder := by
    rw [List.pairwise_map] at ordered ⊢
    exact ordered
  rw [readTexts, Json.sorted_members_stay inOrder, List.map_map]
  exact Json.map_m_back fun item _ => rfl

theorem read_finding_back {finding : Finding} (ordered : finding.Ordered) :
    readFinding finding.json.sortKeys = some finding := by
  unfold readFinding Finding.json
  rw [sorted_field (by simp), sorted_field (by simp), text_field_sorted (by simp) rfl,
    text_field_sorted (by simp) rfl,
    list_field_sorted (by simp) rfl fun result _ => read_provider_result_back result,
    list_field_sorted (by simp) rfl fun reference _ => rfl]
  change ((readTexts (Json.object (finding.logsource.map fun item =>
    (item.1, .string item.2))).sortKeys).bind _) = _
  rw [read_texts_back ordered]
  simp only [Option.bind_some, read_verdict_back]
  rfl

theorem read_origin_back (origin : Origin) : readOrigin origin.json.sortKeys = some origin := by
  unfold readOrigin Origin.json
  rw [text_field_sorted (by simp) rfl, text_field_sorted (by simp) rfl]
  rfl

theorem read_diagnostic_back (diagnostic : Diagnostic) :
    readDiagnostic diagnostic.json.sortKeys = some diagnostic := by
  unfold readDiagnostic Diagnostic.json
  rw [sorted_field (by simp), text_field_sorted (by simp) rfl, text_field_sorted (by simp) rfl,
    text_field_sorted (by simp) rfl]
  change ((some diagnostic.severity.value).bind readSeverity).bind (fun severity =>
    (readOrigin diagnostic.origin.json.sortKeys).bind fun origin =>
      some (⟨severity, diagnostic.message, origin, diagnostic.raw⟩ : Diagnostic)) = _
  rw [read_origin_back, Option.bind_some, read_severity_back]
  rfl

theorem read_collection_error_back (error : CollectionError) :
    readCollectionError error.json.sortKeys = some error := by
  unfold readCollectionError CollectionError.json
  rw [text_field_sorted (by simp) rfl, text_field_sorted (by simp) rfl,
    text_field_sorted (by simp) rfl]
  rfl

theorem read_host_back (host : HostIdentity) : readHost host.json.sortKeys = some host := by
  unfold readHost HostIdentity.json
  rw [text_field_sorted (by simp) rfl, text_field_sorted (by simp) rfl,
    text_field_sorted (by simp) rfl, text_field_sorted (by simp) rfl]
  rfl

/-- The log sources of the findings have their keys in order. -/
def Report.Ordered (report : Report) : Prop := ∀ finding ∈ report.findings, finding.Ordered

theorem read_report_value_back {report : Report} (ordered : report.Ordered) :
    readReportValue report.json.sortKeys = some report := by
  unfold readReportValue Report.json
  rw [sorted_field (by simp), text_field_sorted (by simp) rfl,
    list_field_sorted (by simp) rfl
      fun finding member => read_finding_back (ordered finding member),
    list_field_sorted (by simp) rfl fun diagnostic _ => read_diagnostic_back diagnostic,
    list_field_sorted (by simp) rfl fun error _ => read_collection_error_back error]
  change (readHost report.host.json.sortKeys).bind (fun host =>
    some (⟨report.generatedUtc, host, report.findings, report.diagnostics,
      report.collectionErrors⟩ : Report)) = _
  rw [read_host_back]
  rfl

theorem read_render_json (report : Report) :
    Json.read (renderJson report) = some report.json.sortKeys :=
  Json.read_dump 2 report.json.sortKeys (List.forall_mem_singleton.mpr (by decide))

theorem read_report_back {report : Report} (ordered : report.Ordered) :
    readReport (renderJson report) = some report := by
  rw [readReport, read_render_json, Option.bind_some, read_report_value_back ordered]

end ReadBack

end Sigmascope
