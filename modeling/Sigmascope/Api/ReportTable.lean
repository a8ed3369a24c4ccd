import Sigmascope.Api.Explanations
import Sigmascope.Api.ReportSchema
import Sigmascope.Library.TextTable

/-!
A report as a table: one line for each finding, below the header and a rule of dashes.
-/

namespace Sigmascope

set_option autoImplicit false

open Sigmascope.Library Sigmascope.Library.PyText

/-- The parts of a log source that are there, in the order of the table. -/
def sourceName (logsource : List (String × String)) : Text :=
  ['/'].intercalate
    (["category", "product", "service"].filterMap fun key =>
      (logsource.lookup key).bind fun text =>
        if text = "" then none else some text.toList)

def tableHeader : List Text := ["LOGSOURCE".toList, "VERDICT".toList, "EXPLANATION".toList]

def tableRow (finding : Finding) : List Text :=
  [sourceName finding.logsource, finding.verdict.value.toList, finding.explanation.toList]

def renderTable (report : Report) : Text :=
  TextTable.render 3 tableHeader (report.findings.map tableRow)

/-- The names and the explanations keep their form in the table. -/
def Report.Tabular (report : Report) : Prop :=
  ∀ finding ∈ report.findings, TextTable.Plain (sourceName finding.logsource) ∧
    TextTable.Plain finding.explanation.toList

theorem rstrip_last {text : Text} {last : Char} (solid : isSpace last = false)
    (ends : text.getLast? = some last) : rstrip text = text := by
  apply List.rdropWhile_eq_self_iff.mpr
  intro filled
  rw [List.getLast?_eq_some_getLast filled] at ends
  rw [Option.some.inj ends, solid]
  decide

theorem verdict_plain (verdict : Verdict) : TextTable.Plain verdict.value.toList := by
  cases verdict
  · exact ⟨by decide, @rstrip_last _ 'd' rfl (by decide)⟩
  · exact ⟨by decide, @rstrip_last _ 'd' rfl (by decide)⟩
  · exact ⟨by decide, @rstrip_last _ 'd' rfl (by decide)⟩
  · exact ⟨by decide, @rstrip_last _ 'e' rfl (by decide)⟩

theorem header_plain : ∀ cell ∈ tableHeader, TextTable.Plain cell := by
  intro cell member
  simp only [tableHeader, List.mem_cons, List.not_mem_nil, or_false] at member
  rcases member with rfl | rfl | rfl
  · exact ⟨by decide, @rstrip_last _ 'E' rfl (by decide)⟩
  · exact ⟨by decide, @rstrip_last _ 'T' rfl (by decide)⟩
  · exact ⟨by decide, @rstrip_last _ 'N' rfl (by decide)⟩

/-- The cells of every finding are read back from the table, in the order of the findings. -/
theorem render_table_reads_back {report : Report} (tabular : report.Tabular) :
    TextTable.read (renderTable report) = some (tableHeader, report.findings.map tableRow) := by
  apply TextTable.read_render
  · decide
  · intro row member
    rcases List.mem_cons.mp member with rfl | member
    · rfl
    · obtain ⟨finding, _, rfl⟩ := List.mem_map.mp member
      rfl
  · intro row member
    rcases List.mem_cons.mp member with rfl | member
    · exact header_plain
    · obtain ⟨finding, inside, rfl⟩ := List.mem_map.mp member
      obtain ⟨name, explanation⟩ := tabular finding inside
      intro cell own
      simp only [tableRow, List.mem_cons, List.not_mem_nil, or_false] at own
      rcases own with rfl | rfl | rfl
      · exact name
      · exact verdict_plain finding.verdict
      · exact explanation

theorem source_name_plain {finding : Finding} (sourced : finding.Sourced) :
    TextTable.Plain (sourceName finding.logsource) := by
  have all : ∀ requirement ∈ windowsMappings ++ linuxMappings,
      '\n' ∉ sourceName requirement.logsource ∧
        ((sourceName requirement.logsource).getLast? = some 's' ∨
          (sourceName requirement.logsource).getLast? = some 'd') := by decide +kernel
  obtain ⟨requirement, member, same⟩ := sourced
  obtain ⟨whole, ends⟩ := all requirement member
  rw [same]
  refine ⟨whole, ?_⟩
  rcases ends with ends | ends
  · exact rstrip_last (by decide) ends
  · exact rstrip_last (by decide) ends

theorem sentence_plain {text : String} (sentence : Sentence text) :
    TextTable.Plain text.toList := by
  refine ⟨?_, rstrip_last (by decide) sentence.2⟩
  intro broken
  have whole := sentence.1 '\n' broken
  revert whole
  decide

variable (facts : HostFacts) (environment : Program.Environment hostInterface)
  (past : List (Event hostInterface)) (demo : Bool)

/-- The table of a report holds the log source, the verdict and the explanation of every finding,
in their order. -/
theorem run_table_reads_back (plain : OneLine facts.machine) :
    (Program.run environment past (Host.run facts demo)).1.map
        (fun report => TextTable.read (renderTable report)) =
      (Program.run environment past (Host.run facts demo)).1.map
        fun report => some (tableHeader, report.findings.map tableRow) := by
  obtain ⟨events, _, traces⟩ := Program.run_traces environment past (Host.run facts demo)
  cases outcome : (Program.run environment past (Host.run facts demo)).1 with
  | error raised => simp only [Except.map]
  | ok report =>
      rw [outcome] at traces
      have sourced := (run_report traces).2
      have sentences := run_sentences plain traces
      exact congrArg Except.ok (render_table_reads_back fun finding member =>
        ⟨source_name_plain (sourced finding member), sentence_plain (sentences finding member)⟩)

theorem run_table_reads_back_bare :
    (Program.run Host.bareHost [] (Host.run Host.bareFacts false)).1.map
        (fun report => TextTable.read (renderTable report)) =
      (Program.run Host.bareHost [] (Host.run Host.bareFacts false)).1.map
        fun report => some (tableHeader, report.findings.map tableRow) :=
  run_table_reads_back Host.bareFacts Host.bareHost [] false (one_line_literal (by decide))

end Sigmascope
