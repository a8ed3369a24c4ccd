import Sigmascope.Library.PyText

/-!
The default dialect of Python's `csv.reader` over the lines of a text, as the machine that
reads one character after another, and the texts that a writer of the dialect may produce
for a table. A cell may be quoted whether it needs it or not, and a row ends as the writer
likes; what is read back is the table.
-/

namespace Sigmascope.Library.Csv

set_option autoImplicit false

open PyText

inductive State where
  | startRecord
  | startField
  | inField
  | inQuotedField
  | quoteInQuotedField
  | eatCrnl
deriving DecidableEq, Repr

inductive CsvError where
  | nul
  | fieldLimit
  | newline
deriving DecidableEq, Repr

/-- `csv.field_size_limit()` -/
def fieldSizeLimit : Nat := 131072

structure Reader where
  state : State
  field : Text
  fields : List Text
deriving DecidableEq, Repr

namespace Reader

def start : Reader := ⟨.startRecord, [], []⟩

def saveField (reader : Reader) (next : State) : Reader :=
  ⟨next, [], reader.fields ++ [reader.field]⟩

def addChar (reader : Reader) (char : Char) (next : State) : Except CsvError Reader :=
  if fieldSizeLimit ≤ reader.field.length then .error .fieldLimit
  else .ok ⟨next, reader.field ++ [char], reader.fields⟩

/-- A character where a field is expected. -/
def openField (reader : Reader) (char : Char) : Except CsvError Reader :=
  if char = '\n' ∨ char = '\r' then .ok (reader.saveField .eatCrnl)
  else if char = '"' then .ok ⟨.inQuotedField, reader.field, reader.fields⟩
  else if char = ',' then .ok (reader.saveField .startField)
  else reader.addChar char .inField

/-- One character of a line. Versions of Python before 3.11 refuse the null character. -/
def process (acceptsNul : Bool) (reader : Reader) (char : Char) : Except CsvError Reader :=
  if char = '\x00' ∧ acceptsNul = false then .error .nul
  else
    match reader.state with
    | .startRecord =>
        if char = '\n' ∨ char = '\r' then .ok ⟨.eatCrnl, reader.field, reader.fields⟩
        else reader.openField char
    | .startField => reader.openField char
    | .inField =>
        if char = '\n' ∨ char = '\r' then .ok (reader.saveField .eatCrnl)
        else if char = ',' then .ok (reader.saveField .startField)
        else reader.addChar char .inField
    | .inQuotedField =>
        if char = '"' then .ok ⟨.quoteInQuotedField, reader.field, reader.fields⟩
        else reader.addChar char .inQuotedField
    | .quoteInQuotedField =>
        if char = '"' then reader.addChar char .inQuotedField
        else if char = ',' then .ok (reader.saveField .startField)
        else if char = '\n' ∨ char = '\r' then .ok (reader.saveField .eatCrnl)
        else reader.addChar char .inField
    | .eatCrnl => if char = '\n' ∨ char = '\r' then .ok reader else .error .newline

/-- What the reader is told behind every line. -/
def endLine (reader : Reader) : Reader :=
  match reader.state with
  | .startRecord => reader
  | .startField => reader.saveField .startRecord
  | .inField => reader.saveField .startRecord
  | .inQuotedField => reader
  | .quoteInQuotedField => reader.saveField .startRecord
  | .eatCrnl => ⟨.startRecord, reader.field, reader.fields⟩

end Reader

/-- The lines of `StringIO(text)`: each but the last ends with a line feed. -/
def stringLines : Text → List Text
  | [] => []
  | char :: rest =>
      if char = '\n' then [char] :: stringLines rest
      else
        match stringLines rest with
        | [] => [[char]]
        | line :: lines => (char :: line) :: lines

/-- `list(csv.reader(lines))`. A row goes on over the lines until it is complete, and a
quoted field that the input leaves open ends with the input. -/
def readLines (acceptsNul : Bool) (reader : Reader) : List Text → Except CsvError (List (List Text))
  | [] =>
      if reader.field ≠ [] ∨ reader.state = .inQuotedField then
        .ok [(reader.saveField .startRecord).fields]
      else .ok []
  | line :: lines => do
      let read ← line.foldlM (Reader.process acceptsNul) reader
      if read.endLine.state = .startRecord then
        let rows ← readLines acceptsNul .start lines
        pure (read.endLine.fields :: rows)
      else readLines acceptsNul read.endLine lines

/-- `list(csv.reader(StringIO(text)))` -/
def csvReader (acceptsNul : Bool) (text : Text) : Except CsvError (List (List Text)) :=
  readLines acceptsNul .start (stringLines text)

section Writer

/-- A cell with the writer's choice to put it in quotes. -/
structure Cell where
  text : Text
  quoted : Bool

namespace Cell

def render (cell : Cell) : Text :=
  if cell.quoted then
    '"' :: cell.text.flatMap (fun char => if char = '"' then ['"', '"'] else [char]) ++ ['"']
  else cell.text

/-- Without quotes, a cell has nothing that the dialect reads in another way. -/
structure Writable (cell : Cell) : Prop where
  fits : cell.text.length ≤ fieldSizeLimit
  noNul : '\x00' ∉ cell.text
  plain : cell.quoted = false → ∀ char ∈ cell.text, char ≠ ',' ∧ char ≠ '\n' ∧ char ≠ '\r'
  noQuote : cell.quoted = false → cell.text.head? ≠ some '"'

/-- The characters that the dialect reads in its own way, and the null character. -/
def special : List Char := [',', '\n', '\r', '"', '\x00']

theorem writable_plain {text : Text} (fits : text.length ≤ fieldSizeLimit)
    (plain : (text.all fun char => !special.contains char) = true) :
    Writable ⟨text, false⟩ := by
  have outside : ∀ char ∈ text, char ∉ special := by
    intro char member listed
    have kept := List.all_eq_true.mp plain char member
    rw [List.contains_iff_mem.mpr listed] at kept
    cases kept
  constructor
  · exact fits
  · intro null
    exact outside _ null (by decide)
  · intro _ char member
    refine ⟨?_, ?_, ?_⟩ <;> rintro rfl <;> exact outside _ member (by decide)
  · intro _ first
    exact outside _ (List.mem_of_mem_head? first) (by decide)

end Cell

structure Line where
  cells : List Cell
  ending : Text

namespace Line

def render (line : Line) : Text :=
  [','].intercalate (line.cells.map Cell.render) ++ line.ending

/-- An empty cell that is alone in its row is quoted: the empty line is the row without cells. -/
structure Writable (line : Line) : Prop where
  cells : ∀ cell ∈ line.cells, cell.Writable
  ending : line.ending = ['\n'] ∨ line.ending = ['\r', '\n']
  visible : ∀ cell, line.cells = [cell] → cell.text = [] → cell.quoted = true

def row (line : Line) : List Text := line.cells.map Cell.text

end Line

def render (lines : List Line) : Text := lines.flatMap Line.render

end Writer

section RoundTrip

variable (acceptsNul : Bool)

/-- The reader behind a line, with the lines that follow. -/
def afterLine (read : Reader) (lines : List Text) : Except CsvError (List (List Text)) :=
  if read.endLine.state = .startRecord then
    (readLines acceptsNul .start lines).map (read.endLine.fields :: ·)
  else readLines acceptsNul read.endLine lines

/-- The reader within a line, with the rest of the text. -/
def readOn (reader : Reader) (text : Text) : Except CsvError (List (List Text)) :=
  match stringLines text with
  | [] => afterLine acceptsNul reader []
  | line :: lines => (line.foldlM (Reader.process acceptsNul) reader).bind
      fun read => afterLine acceptsNul read lines

theorem read_lines_cons (reader : Reader) (line : Text) (lines : List Text) :
    readLines acceptsNul reader (line :: lines) =
      (line.foldlM (Reader.process acceptsNul) reader).bind
        fun read => afterLine acceptsNul read lines := by
  rw [readLines]
  cases line.foldlM (Reader.process acceptsNul) reader with
  | error error => rfl
  | ok read =>
      change (if read.endLine.state = .startRecord then _ else _) = afterLine acceptsNul read lines
      rw [afterLine]
      split
      · cases readLines acceptsNul .start lines <;> rfl
      · rfl

/-- The start of a line is a place within it, unless the text is at its end. -/
theorem read_lines_within (reader : Reader) {text : Text} (more : text ≠ []) :
    readLines acceptsNul reader (stringLines text) = readOn acceptsNul reader text := by
  rw [readOn]
  cases lines : stringLines text with
  | nil =>
      cases text with
      | nil => exact absurd rfl more
      | cons char rest =>
          rw [stringLines] at lines
          split at lines
          · cases lines
          · split at lines <;> cases lines
  | cons line rest => exact read_lines_cons acceptsNul reader line rest

theorem read_on_newline (reader : Reader) (rest : Text) :
    readOn acceptsNul reader ('\n' :: rest) =
      (reader.process acceptsNul '\n').bind fun read =>
        afterLine acceptsNul read (stringLines rest) := by
  rw [readOn, stringLines, if_pos rfl]
  simp only [List.foldlM_cons, List.foldlM_nil]
  cases reader.process acceptsNul '\n' <;> rfl

theorem read_on_char (reader : Reader) {char : Char} (within : char ≠ '\n') (rest : Text) :
    readOn acceptsNul reader (char :: rest) =
      (reader.process acceptsNul char).bind fun read => readOn acceptsNul read rest := by
  rw [readOn, stringLines, if_neg within]
  cases lines : stringLines rest with
  | nil =>
      simp only [List.foldlM_cons, List.foldlM_nil]
      cases reader.process acceptsNul char with
      | error error => rfl
      | ok read => simp only [Except.bind, bind, pure, Except.pure, readOn, lines]
  | cons line others =>
      simp only [List.foldlM_cons]
      cases reader.process acceptsNul char with
      | error error => rfl
      | ok read => simp only [Except.bind, bind, readOn, lines]

/-- An open quote goes on over the end of a line. -/
theorem after_line_quoted (field : Text) (fields : List Text) {rest : Text} (more : rest ≠ []) :
    afterLine acceptsNul ⟨.inQuotedField, field, fields⟩ (stringLines rest) =
      readOn acceptsNul ⟨.inQuotedField, field, fields⟩ rest := by
  have still : ¬(Reader.endLine ⟨.inQuotedField, field, fields⟩).state = .startRecord := nofun
  rw [afterLine, if_neg still]
  exact read_lines_within acceptsNul _ more

theorem process_stored {reader : Reader} {char : Char} {next : State}
    (fits : reader.field.length < fieldSizeLimit) :
    reader.addChar char next = .ok ⟨next, reader.field ++ [char], reader.fields⟩ :=
  if_neg (by omega)

/-- Between quotes every character stands for itself, a quote when it is doubled. -/
theorem read_on_quoted (text field : Text) (fields : List Text) (rest : Text)
    (fits : field.length + text.length ≤ fieldSizeLimit) (noNul : '\x00' ∉ text) :
    readOn acceptsNul ⟨.inQuotedField, field, fields⟩
        (text.flatMap (fun char => if char = '"' then ['"', '"'] else [char]) ++ '"' :: rest) =
      readOn acceptsNul ⟨.quoteInQuotedField, field ++ text, fields⟩ rest := by
  induction text generalizing field with
  | nil =>
      rw [List.flatMap_nil, List.nil_append, read_on_char acceptsNul _ (by decide),
        List.append_nil]
      rfl
  | cons char text induction =>
      rw [List.length_cons] at fits
      obtain ⟨notNul, noNulRest⟩ := not_or.mp (mt List.mem_cons.mpr noNul)
      have room : field.length < fieldSizeLimit := by omega
      have step := induction (field ++ [char])
        (by rw [List.length_append, List.length_singleton]; omega) noNulRest
      rw [List.append_assoc, List.singleton_append] at step
      rw [List.flatMap_cons, List.append_assoc]
      by_cases quote : char = '"'
      · subst quote
        rw [if_pos rfl, ← step]
        simp only [List.cons_append, List.nil_append]
        rw [read_on_char acceptsNul _ (by decide)]
        simp only [Reader.process, Char.reduceEq, false_and, if_false, if_true, Except.bind]
        rw [read_on_char acceptsNul _ (by decide)]
        simp only [Reader.process, Char.reduceEq, false_and, if_false, if_true]
        rw [process_stored room]
        rfl
      · rw [if_neg quote, ← step]
        have stored : Reader.process acceptsNul ⟨.inQuotedField, field, fields⟩ char =
            .ok ⟨.inQuotedField, field ++ [char], fields⟩ := by
          rw [Reader.process, if_neg fun given => notNul given.1.symm]
          dsimp only
          rw [if_neg quote, process_stored room]
        simp only [List.cons_append, List.nil_append]
        by_cases newline : char = '\n'
        · subst newline
          rw [read_on_newline, stored]
          apply after_line_quoted
          simp
        · rw [read_on_char acceptsNul _ newline, stored]
          rfl

/-- A character that an open field without quotes takes as it is. -/
def isPlain (char : Char) : Prop := char ≠ ',' ∧ char ≠ '\n' ∧ char ≠ '\r'

theorem process_plain {char : Char} (plain : isPlain char) (notNul : char ≠ '\x00')
    {field : Text} (fields : List Text) (room : field.length < fieldSizeLimit) :
    Reader.process acceptsNul ⟨.inField, field, fields⟩ char =
      .ok ⟨.inField, field ++ [char], fields⟩ := by
  rw [Reader.process, if_neg fun given => notNul given.1]
  dsimp only
  rw [if_neg (not_or.mpr plain.2), if_neg plain.1, process_stored room]

theorem read_on_plain (text field : Text) (fields : List Text) (rest : Text)
    (fits : field.length + text.length ≤ fieldSizeLimit) (noNul : '\x00' ∉ text)
    (plain : ∀ char ∈ text, isPlain char) :
    readOn acceptsNul ⟨.inField, field, fields⟩ (text ++ rest) =
      readOn acceptsNul ⟨.inField, field ++ text, fields⟩ rest := by
  induction text generalizing field with
  | nil => rw [List.nil_append, List.append_nil]
  | cons char text induction =>
      rw [List.length_cons] at fits
      obtain ⟨notNul, noNulRest⟩ := not_or.mp (mt List.mem_cons.mpr noNul)
      have own := plain char List.mem_cons_self
      rw [List.cons_append, read_on_char acceptsNul _ own.2.1,
        process_plain acceptsNul own (Ne.symm notNul) fields (by omega), Except.bind]
      have step := induction (field ++ [char])
        (by rw [List.length_append, List.length_singleton]; omega) noNulRest
        fun other member => plain other (List.mem_cons_of_mem _ member)
      rw [step, List.append_assoc, List.singleton_append]

/-- The states behind a complete cell. -/
def Complete (state : State) : Prop :=
  state = .startField ∨ state = .inField ∨ state = .quoteInQuotedField

/-- A written cell is read back, and the reader waits for a comma or the end of the row. -/
theorem read_on_cell {cell : Cell} (writable : cell.Writable) (fields : List Text) :
    ∃ state, Complete state ∧ ∀ rest,
      readOn acceptsNul ⟨.startField, [], fields⟩ (cell.render ++ rest) =
        readOn acceptsNul ⟨state, cell.text, fields⟩ rest := by
  obtain ⟨text, quoted⟩ := cell
  have fits : ([] : Text).length + text.length ≤ fieldSizeLimit := by
    simpa using writable.fits
  cases quoted with
  | true =>
      refine ⟨.quoteInQuotedField, Or.inr (Or.inr rfl), ?_⟩
      intro rest
      have inside := read_on_quoted acceptsNul text [] fields rest fits writable.noNul
      rw [List.nil_append] at inside
      rw [← inside, Cell.render, if_pos rfl, List.append_assoc, List.cons_append,
        read_on_char acceptsNul _ (by decide), List.singleton_append]
      rfl
  | false =>
      cases text with
      | nil => exact ⟨.startField, Or.inl rfl, fun rest => rfl⟩
      | cons char text =>
          refine ⟨.inField, Or.inr (Or.inl rfl), ?_⟩
          intro rest
          have plain := writable.plain rfl
          have own := plain char List.mem_cons_self
          have notNul : char ≠ '\x00' := fun same =>
            writable.noNul (same ▸ List.mem_cons_self)
          have notQuote : char ≠ '"' := fun same =>
            writable.noQuote rfl (congrArg some same)
          have room : ([] : Text).length < fieldSizeLimit := by decide
          have opened : Reader.process acceptsNul ⟨.startField, [], fields⟩ char =
              .ok ⟨.inField, [char], fields⟩ := by
            rw [Reader.process, if_neg fun given => notNul given.1]
            dsimp only
            rw [Reader.openField, if_neg (not_or.mpr own.2), if_neg notQuote, if_neg own.1,
              process_stored room]
            rfl
          rw [Cell.render, if_neg Bool.false_ne_true, List.cons_append,
            read_on_char acceptsNul _ own.2.1, opened, Except.bind]
          apply read_on_plain acceptsNul text [char] fields rest
          · simpa [Nat.add_comm] using fits
          · exact fun member => writable.noNul (List.mem_cons_of_mem _ member)
          · exact fun other member => plain other (List.mem_cons_of_mem _ member)

/-- The end of a row behind a complete cell. -/
theorem read_on_ending {state : State} (complete : Complete state) (field : Text)
    (fields : List Text) {ending : Text} (written : ending = ['\n'] ∨ ending = ['\r', '\n'])
    (rest : Text) :
    readOn acceptsNul ⟨state, field, fields⟩ (ending ++ rest) =
      (csvReader acceptsNul rest).map ((fields ++ [field]) :: ·) := by
  have closed : afterLine acceptsNul ⟨.eatCrnl, [], fields ++ [field]⟩ (stringLines rest) =
      (csvReader acceptsNul rest).map ((fields ++ [field]) :: ·) := by
    have ended : (Reader.endLine ⟨.eatCrnl, [], fields ++ [field]⟩).state = .startRecord := rfl
    rw [afterLine, if_pos ended]
    rfl
  have fed : Reader.process acceptsNul ⟨state, field, fields⟩ '\n' =
      .ok ⟨.eatCrnl, [], fields ++ [field]⟩ := by
    rcases complete with rfl | rfl | rfl <;> rfl
  have returned : Reader.process acceptsNul ⟨state, field, fields⟩ '\r' =
      .ok ⟨.eatCrnl, [], fields ++ [field]⟩ := by
    rcases complete with rfl | rfl | rfl <;> rfl
  rcases written with rfl | rfl
  · rw [List.singleton_append, read_on_newline, fed]
    exact closed
  · rw [List.cons_append, List.singleton_append, read_on_char acceptsNul _ (by decide), returned]
    change readOn acceptsNul ⟨.eatCrnl, [], fields ++ [field]⟩ ('\n' :: rest) = _
    rw [read_on_newline]
    exact closed

theorem read_on_comma {state : State} (complete : Complete state) (field : Text)
    (fields : List Text) (rest : Text) :
    readOn acceptsNul ⟨state, field, fields⟩ (',' :: rest) =
      readOn acceptsNul ⟨.startField, [], fields ++ [field]⟩ rest := by
  have saved : Reader.process acceptsNul ⟨state, field, fields⟩ ',' =
      .ok ⟨.startField, [], fields ++ [field]⟩ := by
    rcases complete with rfl | rfl | rfl <;> rfl
  rw [read_on_char acceptsNul _ (by decide), saved]
  rfl

theorem read_on_cells {cells : List Cell} (writable : ∀ cell ∈ cells, cell.Writable)
    (some : cells ≠ []) (fields : List Text) {ending : Text}
    (written : ending = ['\n'] ∨ ending = ['\r', '\n']) (rest : Text) :
    readOn acceptsNul ⟨.startField, [], fields⟩
        ([','].intercalate (cells.map Cell.render) ++ ending ++ rest) =
      (csvReader acceptsNul rest).map ((fields ++ cells.map Cell.text) :: ·) := by
  induction cells generalizing fields with
  | nil => exact absurd rfl some
  | cons cell cells induction =>
      obtain ⟨state, complete, cellRead⟩ :=
        read_on_cell acceptsNul (writable cell List.mem_cons_self) fields
      have others : ∀ other ∈ cells, other.Writable := fun other member =>
        writable other (List.mem_cons_of_mem _ member)
      cases cells with
      | nil =>
          simp only [List.map_cons, List.map_nil, List.intercalate_singleton, List.append_assoc]
          rw [cellRead, read_on_ending acceptsNul complete _ _ written]
      | cons next cells =>
          have step := induction others (List.cons_ne_nil _ _) (fields ++ [cell.text])
          simp only [List.map_cons, List.intercalate_cons_cons, List.append_assoc,
            List.nil_append, List.cons_append] at step ⊢
          rw [cellRead, read_on_comma acceptsNul complete, step]

/-- Nothing tells the start of a row from the start of a field but the end of a line. -/
theorem read_on_record {char : Char} (visible : char ≠ '\n' ∧ char ≠ '\r') (rest : Text) :
    readOn acceptsNul .start (char :: rest) =
      readOn acceptsNul ⟨.startField, [], []⟩ (char :: rest) := by
  rw [read_on_char acceptsNul _ visible.1, read_on_char acceptsNul _ visible.1]
  simp only [Reader.process, Reader.start]
  rw [if_neg (not_or.mpr visible)]
  rfl

theorem cell_render_head {cell : Cell} (writable : cell.Writable) {char : Char} {rest : Text}
    (shown : cell.render = char :: rest) : char ≠ '\n' ∧ char ≠ '\r' := by
  obtain ⟨text, quoted⟩ := cell
  cases quoted with
  | true =>
      cases shown
      decide
  | false =>
      have first : char ∈ text := by
        change text = char :: rest at shown
        rw [shown]
        exact List.mem_cons_self
      exact (writable.plain rfl char first).2

theorem cell_render_nil {cell : Cell} (hidden : cell.render = []) :
    cell.quoted = false ∧ cell.text = [] := by
  obtain ⟨text, quoted⟩ := cell
  cases quoted with
  | true => cases hidden
  | false => exact ⟨rfl, hidden⟩

theorem line_render_head {line : Line} (writable : line.Writable) (filled : line.cells ≠ []) :
    ∃ char rest, line.render = char :: rest ∧ char ≠ '\n' ∧ char ≠ '\r' := by
  obtain ⟨cells, ending⟩ := line
  cases cells with
  | nil => exact absurd rfl filled
  | cons cell cells =>
      have own := writable.cells cell List.mem_cons_self
      cases shown : cell.render with
      | cons char rest =>
          have visible := cell_render_head own shown
          cases cells with
          | nil => exact ⟨char, rest ++ ending, by simp [Line.render, shown], visible⟩
          | cons next cells =>
              refine ⟨char, rest ++ ',' :: [','].intercalate ((next :: cells).map Cell.render) ++
                ending, ?_, visible⟩
              simp [Line.render, shown]
      | nil =>
          cases cells with
          | nil =>
              have hidden := cell_render_nil shown
              have quoted := writable.visible cell rfl hidden.2
              rw [hidden.1] at quoted
              cases quoted
          | cons next cells =>
              refine ⟨',', [','].intercalate ((next :: cells).map Cell.render) ++ ending, ?_,
                by decide⟩
              simp [Line.render, shown]

/-- A written row is read back, and the reader starts anew behind it. -/
theorem csv_reader_line {line : Line} (writable : line.Writable) (rest : Text) :
    csvReader acceptsNul (line.render ++ rest) =
      (csvReader acceptsNul rest).map (line.row :: ·) := by
  have started : ∀ text, text ≠ [] → csvReader acceptsNul text = readOn acceptsNul .start text :=
    fun text more => read_lines_within acceptsNul .start more
  by_cases filled : line.cells = []
  · obtain ⟨cells, ending⟩ := line
    cases filled
    rcases writable.ending with rfl | rfl
    · change csvReader acceptsNul ('\n' :: rest) = _
      rw [started _ (List.cons_ne_nil _ _)]
      rfl
    · change csvReader acceptsNul ('\r' :: '\n' :: rest) = _
      rw [started _ (List.cons_ne_nil _ _)]
      rfl
  · have written := read_on_cells acceptsNul writable.cells filled [] writable.ending rest
    rw [← Line.render, List.nil_append, ← Line.row] at written
    obtain ⟨char, others, shown, visible⟩ := line_render_head writable filled
    rw [← written, shown, List.cons_append, started _ (List.cons_ne_nil _ _),
      read_on_record acceptsNul visible]

/-- Reading undoes writing, whatever the writer chose. -/
theorem csv_reader_render {lines : List Line} (writable : ∀ line ∈ lines, line.Writable) :
    csvReader acceptsNul (render lines) = .ok (lines.map Line.row) := by
  induction lines with
  | nil => rfl
  | cons line lines induction =>
      have step := induction fun other member => writable other (List.mem_cons_of_mem _ member)
      rw [render, List.flatMap_cons, ← render,
        csv_reader_line acceptsNul (writable line List.mem_cons_self), step]
      rfl

end RoundTrip

end Sigmascope.Library.Csv
