import Mathlib.Data.List.Forall2
import Mathlib.Data.List.GetD
import Sigmascope.Library.PyText

/-!
Tables of text with columns of a fixed width: two blanks between the columns, no blanks at
the end of a line, and a rule of dashes below the header. The dashes tell how wide the
columns are, so the cells can be cut out of the lines again.
-/

namespace Sigmascope.Library.TextTable

set_option autoImplicit false

open Sigmascope.Library.PyText

section Writer

/-- `text.ljust(width)` -/
def ljust (width : Nat) (text : Text) : Text := text ++ List.replicate (width - text.length) ' '

/-- `"  ".join(cells)` -/
def joinCells (cells : List Text) : Text := [' ', ' '].intercalate cells

def rowLine (widths : List Nat) (row : List Text) : Text :=
  rstrip (joinCells (List.zipWith ljust widths row))

def ruleLine (widths : List Nat) : Text :=
  joinCells (widths.map fun width => List.replicate width '-')

/-- The longest cell of each column. -/
def columnWidths (columns : Nat) (rows : List (List Text)) : List Nat :=
  (List.range columns).map fun column =>
    (rows.map fun row => (row.getD column []).length).foldr max 0

def tableLines (columns : Nat) (header : List Text) (rows : List (List Text)) : List Text :=
  let widths := columnWidths columns (header :: rows)
  rowLine widths header :: ruleLine widths :: rows.map (rowLine widths)

def render (columns : Nat) (header : List Text) (rows : List (List Text)) : Text :=
  ['\n'].intercalate (tableLines columns header rows) ++ ['\n']

end Writer

section Reader

/-- The lines of a text. -/
def lineBlocks : Text → List Text
  | [] => []
  | char :: rest =>
      if char = '\n' then [] :: lineBlocks rest
      else
        match lineBlocks rest with
        | [] => [[char]]
        | line :: lines => (char :: line) :: lines

def readCells : List Nat → Text → List Text
  | [], _ => []
  | width :: widths, text => rstrip (text.take width) :: readCells widths (text.drop (width + 2))

/-- The header and the rows of a table. -/
def read (text : Text) : Option (List Text × List (List Text)) :=
  match lineBlocks text with
  | header :: rule :: rows =>
      let widths := (words rule).map List.length
      some (readCells widths header, rows.map (readCells widths))
  | _ => none

end Reader

section ReadBack

/-- A cell that keeps its form in a table. -/
structure Plain (cell : Text) : Prop where
  oneLine : '\n' ∉ cell
  trimmed : rstrip cell = cell

/-- The cells of a row fit into the columns. -/
def Fits (widths : List Nat) (row : List Text) : Prop :=
  List.Forall₂ (fun width cell => cell.length ≤ width) widths row

theorem blank_replicate (count : Nat) : ∀ char ∈ List.replicate count ' ', isSpace char = true := by
  intro char member
  rw [(List.mem_replicate.mp member).2]
  rfl

/-- Blanks at the end of a line change no cell. -/
theorem read_cells_blank (widths : List Nat) (text : Text) {blanks : Text}
    (blank : ∀ char ∈ blanks, isSpace char = true) :
    readCells widths (text ++ blanks) = readCells widths text := by
  induction widths generalizing text blanks with
  | nil => rfl
  | cons width widths induction =>
      have front : rstrip ((text ++ blanks).take width) = rstrip (text.take width) := by
        rw [List.take_append]
        exact rstrip_append_blank _ fun char member => blank char (List.mem_of_mem_take member)
      rw [readCells, readCells, front, List.drop_append, induction _
        fun char member => blank char (List.mem_of_mem_drop member)]

theorem read_cells_rstrip (widths : List Nat) (text : Text) :
    readCells widths (rstrip text) = readCells widths text := by
  have whole : rstrip text ++ text.rtakeWhile isSpace = text := List.rdropWhile_append_rtakeWhile
  conv_rhs => rw [← whole]
  exact (read_cells_blank widths _ fun char member => List.mem_rtakeWhile_imp member).symm

theorem join_cells_cons (cell : Text) {cells : List Text} (more : cells ≠ []) :
    joinCells (cell :: cells) = cell ++ (' ' :: ' ' :: joinCells cells) := by
  cases cells with
  | nil => exact absurd rfl more
  | cons next cells => simp [joinCells, List.intercalate]

theorem length_ljust {width : Nat} {cell : Text} (fits : cell.length ≤ width) :
    (ljust width cell).length = width := by
  rw [ljust, List.length_append, List.length_replicate]
  omega

theorem rstrip_ljust (width : Nat) {cell : Text} (trimmed : rstrip cell = cell) :
    rstrip (ljust width cell) = cell := by
  rw [ljust, rstrip_append_blank _ (blank_replicate _), trimmed]

/-- The cells of a row are cut out of its line. -/
theorem read_row_back {widths : List Nat} {row : List Text} (fits : Fits widths row)
    (trimmed : ∀ cell ∈ row, rstrip cell = cell) :
    readCells widths (rowLine widths row) = row := by
  rw [rowLine, read_cells_rstrip]
  induction fits with
  | nil => rfl
  | @cons width cell widths row first rest induction =>
      have tail := induction fun other member => trimmed other (List.mem_cons_of_mem _ member)
      have own := rstrip_ljust width (trimmed cell List.mem_cons_self)
      cases row with
      | nil =>
          cases rest
          have whole : joinCells (List.zipWith ljust [width] [cell]) = ljust width cell := by
            simp [joinCells]
          rw [whole, readCells, List.take_of_length_le (le_of_eq (length_ljust first)), own]
          rfl
      | cons next row =>
          cases rest with
          | @cons nextWidth _ widths _ nextFits rest =>
              rw [List.zipWith_cons_cons, join_cells_cons _ (by simp), readCells]
              have front : (ljust width cell ++ (' ' :: ' ' :: joinCells
                  (List.zipWith ljust (nextWidth :: widths) (next :: row)))).take width =
                  ljust width cell := by
                rw [List.take_append_of_le_length (le_of_eq (length_ljust first).symm),
                  List.take_of_length_le (le_of_eq (length_ljust first))]
              have back : (ljust width cell ++ (' ' :: ' ' :: joinCells
                  (List.zipWith ljust (nextWidth :: widths) (next :: row)))).drop (width + 2) =
                  joinCells (List.zipWith ljust (nextWidth :: widths) (next :: row)) := by
                rw [List.drop_append, length_ljust first,
                  List.drop_of_length_le (by rw [length_ljust first]; omega),
                  Nat.add_sub_cancel_left]
                rfl
              rw [front, back, own, tail]

/-- The dashes tell the widths. -/
theorem read_rule_back {widths : List Nat} (wide : ∀ width ∈ widths, width ≠ 0) :
    (words (ruleLine widths)).map List.length = widths := by
  induction widths with
  | nil => rfl
  | cons width widths induction =>
      have rest := induction fun other member => wide other (List.mem_cons_of_mem _ member)
      have dashes : ∀ char ∈ List.replicate width '-', isSpace char = false := by
        intro char member
        rw [(List.mem_replicate.mp member).2]
        rfl
      have filled : List.replicate width '-' ≠ [] := by
        rw [ne_eq, List.replicate_eq_nil_iff]
        exact wide width List.mem_cons_self
      cases widths with
      | nil =>
          have whole : ruleLine [width] = List.replicate width '-' := by
            simp [ruleLine, joinCells]
          rw [whole, words_solid filled dashes, List.map_singleton, List.length_replicate]
      | cons next widths =>
          have split : ruleLine (width :: next :: widths) =
              List.replicate width '-' ++ (' ' :: ' ' :: ruleLine (next :: widths)) :=
            join_cells_cons _ (by simp)
          rw [split, words_append_space _ _ rfl, words_cons_space rfl,
            words_solid filled dashes, List.singleton_append, List.map_cons, rest,
            List.length_replicate]

theorem line_blocks_cons {line : Text} (whole : '\n' ∉ line) (rest : Text) :
    lineBlocks (line ++ '\n' :: rest) = line :: lineBlocks rest := by
  induction line with
  | nil => rw [List.nil_append, lineBlocks, if_pos rfl]
  | cons char line induction =>
      obtain ⟨apart, whole⟩ := not_or.mp (mt List.mem_cons.mpr whole)
      rw [List.cons_append, lineBlocks, if_neg (Ne.symm apart), induction whole]

theorem line_blocks_joined {lines : List Text} (filled : lines ≠ [])
    (whole : ∀ line ∈ lines, '\n' ∉ line) :
    lineBlocks (['\n'].intercalate lines ++ ['\n']) = lines := by
  induction lines with
  | nil => exact absurd rfl filled
  | cons line lines induction =>
      have own := whole line List.mem_cons_self
      cases lines with
      | nil =>
          have single : ['\n'].intercalate [line] = line := by simp
          rw [single, line_blocks_cons own]
          rfl
      | cons next lines =>
          have rest := induction (List.cons_ne_nil next lines) fun other member =>
            whole other (List.mem_cons_of_mem _ member)
          have split : ['\n'].intercalate (line :: next :: lines) ++ ['\n'] =
              line ++ '\n' :: (['\n'].intercalate (next :: lines) ++ ['\n']) := by
            simp [List.intercalate]
          rw [split, line_blocks_cons own, rest]

/-- A line break can only come from a cell. -/
theorem row_line_whole {widths : List Nat} {row : List Text}
    (whole : ∀ cell ∈ row, '\n' ∉ cell) : '\n' ∉ rowLine widths row := by
  intro broken
  have kept : '\n' ∈ joinCells (List.zipWith ljust widths row) :=
    (List.rdropWhile_prefix _ _).subset broken
  rcases mem_joined kept with found | blank
  · obtain ⟨cell, inside, found⟩ := found
    rw [← List.map_uncurry_zip_eq_zipWith] at inside
    obtain ⟨pair, paired, rfl⟩ := List.mem_map.mp inside
    rcases List.mem_append.mp found with own | padding
    · exact whole pair.2 (List.of_mem_zip paired).2 own
    · cases (List.mem_replicate.mp padding).2
  · revert blank
    decide

theorem rule_line_whole (widths : List Nat) : '\n' ∉ ruleLine widths := by
  intro broken
  rcases mem_joined broken with found | blank
  · obtain ⟨cell, inside, found⟩ := found
    obtain ⟨width, _, rfl⟩ := List.mem_map.mp inside
    cases (List.mem_replicate.mp found).2
  · revert blank
    decide

variable {columns : Nat} {header : List Text} {rows : List (List Text)}

theorem le_fold_max {values : List Nat} {value : Nat} (member : value ∈ values) :
    value ≤ values.foldr max 0 := by
  induction values with
  | nil => cases member
  | cons first values induction =>
      rcases List.mem_cons.mp member with rfl | later
      · exact le_max_left _ _
      · exact (induction later).trans (le_max_right _ _)

/-- Every row fits into the columns. -/
theorem fits_column_widths {row : List Text} (member : row ∈ rows) (filled : row.length = columns) :
    Fits (columnWidths columns rows) row := by
  rw [Fits, List.forall₂_iff_get]
  have lengths : (columnWidths columns rows).length = row.length := by
    rw [columnWidths, List.length_map, List.length_range, filled]
  refine ⟨lengths, ?_⟩
  intro column inside inRow
  simp only [columnWidths, List.get_eq_getElem, List.getElem_map, List.getElem_range]
  apply le_fold_max
  rw [List.mem_map]
  refine ⟨row, member, ?_⟩
  rw [List.getD_eq_getElem row [] inRow]

/-- Every column has a cell of the row. -/
theorem fits_covers {widths : List Nat} {row : List Text} (fits : Fits widths row) :
    ∀ width ∈ widths, ∃ cell ∈ row, cell.length ≤ width := by
  induction fits with
  | nil =>
      intro width member
      cases member
  | @cons first cell widths row own rest induction =>
      intro width member
      rcases List.mem_cons.mp member with rfl | later
      · exact ⟨cell, List.mem_cons_self, own⟩
      · obtain ⟨other, inside, short⟩ := induction width later
        exact ⟨other, List.mem_cons_of_mem _ inside, short⟩

/-- A table is read back when its cells keep their form and its header has a name for every
column. -/
theorem read_render (headed : ∀ cell ∈ header, cell ≠ [])
    (full : ∀ row ∈ header :: rows, row.length = columns)
    (plain : ∀ row ∈ header :: rows, ∀ cell ∈ row, Plain cell) :
    read (render columns header rows) = some (header, rows) := by
  let widths := columnWidths columns (header :: rows)
  have fits : ∀ row ∈ header :: rows, Fits widths row := fun row member =>
    fits_column_widths member (full row member)
  have back : ∀ row ∈ header :: rows, readCells widths (rowLine widths row) = row := by
    intro row member
    exact read_row_back (fits row member) fun cell inside => (plain row member cell inside).trimmed
  have wide : ∀ width ∈ widths, width ≠ 0 := by
    intro width member nothing
    obtain ⟨cell, inside, short⟩ := fits_covers (fits header List.mem_cons_self) width member
    rw [nothing, Nat.le_zero, List.length_eq_zero_iff] at short
    exact headed cell inside short
  have whole : ∀ line ∈ tableLines columns header rows, '\n' ∉ line := by
    intro line member
    have row : ∀ row ∈ header :: rows, '\n' ∉ rowLine widths row := fun row member =>
      row_line_whole fun cell inside => (plain row member cell inside).oneLine
    rcases List.mem_cons.mp member with rfl | member
    · exact row header List.mem_cons_self
    · rcases List.mem_cons.mp member with rfl | member
      · exact rule_line_whole widths
      · obtain ⟨other, inside, rfl⟩ := List.mem_map.mp member
        exact row other (List.mem_cons_of_mem _ inside)
  have filled : tableLines columns header rows ≠ [] := List.cons_ne_nil _ _
  have lines := line_blocks_joined filled whole
  have body : (rows.map (rowLine widths)).map (readCells widths) = rows := by
    rw [List.map_map]
    conv_rhs => rw [← List.map_id rows]
    exact List.map_congr_left fun row inside => back row (List.mem_cons_of_mem _ inside)
  rw [read, render, lines]
  simp only [tableLines]
  rw [read_rule_back wide, back header List.mem_cons_self, body]

end ReadBack

end Sigmascope.Library.TextTable
