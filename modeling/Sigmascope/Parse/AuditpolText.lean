import Sigmascope.Library.Csv
import Sigmascope.Parse.AuditpolColumns

/-!
The parser of the audit report on the text that auditpol prints. The reader of the standard
library turns the text into rows, or refuses it with an exception that nobody catches.
-/

namespace Sigmascope

set_option autoImplicit false

open Sigmascope.Library Sigmascope.Library.PyText

/-- `list(csv.reader(StringIO(text)))` -/
def csvRows (acceptsNul : Bool) (text : String) : Except Csv.CsvError (List Row) :=
  (Csv.csvReader acceptsNul text.toList).map fun rows => rows.map fun row => row.map String.ofList

/-- `parse_auditpol_csv` with the reader of the standard library. -/
def parseAuditpolText (acceptsNul : Bool) (sourceId text : String) :
    Except Csv.CsvError ParseResult :=
  (csvRows acceptsNul text).map (parseAuditpolRows sourceId text)

/-- The parser sees the rows that were written, in whatever layout they were written. -/
theorem parse_auditpol_written (acceptsNul : Bool) (sourceId : String) {text : String}
    {lines : List Csv.Line} (writable : ∀ line ∈ lines, Csv.Line.Writable line)
    (written : text = String.ofList (Csv.render lines)) :
    parseAuditpolText acceptsNul sourceId text =
      .ok (parseAuditpolRows sourceId text
        (lines.map fun line => line.row.map String.ofList)) := by
  rw [parseAuditpolText, csvRows, written, String.toList_ofList,
    Csv.csv_reader_render acceptsNul writable]
  simp only [Except.map, List.map_map]
  rfl

end Sigmascope
