import Spreadsheet.Cell.Entry
import Spreadsheet.Formula.Source
import Spreadsheet.History

/-!
# The grid

Rows of cells.  A row may be shorter than the grid is wide, and then ends in
empty positions; outside the grid every position is empty.  The grid grows when
a cell is put beyond its edge, and records each change of a cell.

The least number of columns may be any number.  Rows can be filled up only to an
integer, so where a binary number decides how wide the grid is, nothing can be
done that adds a row or needs rows of full length.

Results: reading after writing (`get?_write_self`, `get?_write_of_ne`), and an
integer floor makes the width an integer (`columnCount_of_int`).
-/

namespace Spreadsheet

/-- The cells of a row; a missing cell is an empty position. -/
abbrev Row := List (Option Cell)

/-- The cells of a sheet and the history of their changes. -/
structure Grid where
  /-- The grid is never narrower than this. -/
  minColumns : Number
  rows : List Row
  history : History Edit
deriving DecidableEq

namespace Grid

/-- The number of columns of a grid for which none is asked. -/
def defaultColumns : Nat := 10

/-- The least width of a grid for which none is asked. -/
def defaultMinColumns : Number := .int defaultColumns

/-- The number of rows of a grid for which none is asked. -/
def defaultRows : Nat := 5

/-- A row of empty positions. -/
def blankRow (width : Nat) : Row := List.replicate width none

/-- A grid is at least one column wide. -/
def leastWidth (columns : Number) : Number := Number.greatest (.int 1) [columns]

/-- Rows with their blank cells made empty positions; one empty row of the least
width if there are none. -/
def someRows (least : Number) (rows : List Row) : Except Fault (List Row) :=
  if rows.isEmpty then do
    return [blankRow (← least.count)]
  else
    return rows.map fun row => row.map Cell.unlessBlank

/-- A grid of given rows. -/
def ofRows (rows : List Row) (minColumns : Number) (undoLimit : Int) : Except Fault Grid := do
  let least := leastWidth minColumns
  let rows ← someRows least rows
  return ⟨least, rows, ← History.ofLimit undoLimit⟩

/-- The grid of the default number of empty rows. -/
def initial (minColumns : Number) (undoLimit : Int) : Except Fault Grid := do
  let width ← (leastWidth minColumns).count
  ofRows (List.replicate defaultRows (blankRow width)) minColumns undoLimit

/-- A grid of empty positions, of at least one row. -/
def blank (rows columns : Int) (minColumns : Number) (undoLimit : Int) : Except Fault Grid := do
  let width ← (Number.int columns).count
  ofRows (List.replicate (max 1 rows.toNat) (blankRow width)) minColumns undoLimit

/-- How many rows the grid has. -/
def rowCount (g : Grid) : Nat := g.rows.length

/-- The width of the widest row. -/
def widestRow (rows : List Row) : Nat :=
  rows.foldl (fun width row => max width row.length) 0

/-- How many columns the grid has. -/
def columnCount (g : Grid) : Number :=
  Number.greatest g.minColumns [.int (widestRow g.rows)]

/-- How long a row of the grid is when it is filled up: as many positions as the
grid has columns, if these can be counted out. -/
def width (g : Grid) : Nat :=
  match g.minColumns with
  | .int i => max i.toNat (widestRow g.rows)
  | .float _ => widestRow g.rows

/-- Fails where the columns of the grid cannot be counted out. -/
def checkWidth (g : Grid) : Except Fault Unit := do
  let _ ← g.columnCount.count

/-- How many positions the row of a position lacks to reach it. -/
def lacking (g : Grid) (r : Reference) : Nat :=
  r.col + 1 - ((g.rows[r.row]?).map List.length).getD g.width

/-- Fails where a cell cannot be put at a position, since the rows up to there
or their positions cannot be counted out. -/
def checkRoom (g : Grid) (r : Reference) : Except Fault Unit := do
  if g.rowCount ≤ r.row then
    g.checkWidth
  let _ ← (Number.int (g.lacking r)).count

/-- The cell at a position; outside the grid there is none. -/
def get? (g : Grid) (r : Reference) : Option Cell := do
  let row ← g.rows[r.row]?
  let cell ← row[r.col]?
  cell

/-- The cell at two integer coordinates. -/
def getAt? (g : Grid) (col row : Int) : Option Cell :=
  (Reference.ofInts? col row).bind g.get?

/-- A row of at least some width. -/
def padded (width : Nat) (row : Row) : Row :=
  row ++ blankRow (width - row.length)

/-- All rows as wide as the grid. -/
def paddedRows (g : Grid) : List Row :=
  g.rows.map (padded g.width)

/-- The positions of the cells that satisfy a condition, row by row. -/
def positions (g : Grid) (p : Cell → Bool) : List Reference :=
  g.rows.zipIdx.flatMap fun (row, y) =>
    row.zipIdx.filterMap fun (cell, x) =>
      match cell with
      | some c => if p c then some ⟨x, y⟩ else none
      | none => none

/-- What formulas see of the grid. -/
def source (g : Grid) : Formula.Source where
  columns := g.columnCount
  rows := g.rowCount
  cell? := g.get?
  formulas := g.positions fun c => c.source?.isSome

/-- The number that arithmetic sees at a position, zero if there is none. -/
def numericValue (g : Grid) (today : Date) (col row : Int) : Number :=
  match Reference.ofInts? col row with
  | none => .int 0
  | some r =>
      match ((g.source.numeric today r).run.run []).1 with
      | .ok x => x
      | .error _ => .int 0

/-- A row with one position written, as long as that needs. -/
def writeRow (row : Row) (col : Nat) (cell : Option Cell) : Row :=
  (padded (col + 1) row).set col cell

/-- The rows with empty ones of some width added up to an index. -/
def growRows (rows : List Row) (index width : Nat) : List Row :=
  if index < rows.length then
    rows
  else
    rows ++ List.replicate (index + 1 - rows.length) (blankRow width)

/-- The grid with one position written, its history untouched.  Clearing an
empty position changes nothing. -/
def write (g : Grid) (r : Reference) (cell : Option Cell) : Grid :=
  if cell.isNone && (g.get? r).isNone then
    g
  else
    { g with
      rows := (growRows g.rows r.row g.width).modify r.row fun row =>
        writeRow row r.col cell }

/-- The grid with a cell put at a position; the change is recorded if asked,
and nothing happens where the cell is already there. -/
def put (g : Grid) (r : Reference) (cell : Option Cell) (record : Bool) : Grid :=
  let cell := Cell.unlessBlank cell
  let old := g.get? r
  if Cell.equalContents old cell then
    g
  else
    let written := g.write r cell
    if record then
      { written with history := written.history.push ⟨r, old, cell⟩ }
    else
      written

/-- The grid with a cell put at two integer coordinates. -/
def putAt (g : Grid) (col row : Int) (cell : Option Cell) (record : Bool) :
    Except Fault Grid :=
  match Reference.ofInts? col row with
  | some r => do
      if (Cell.unlessBlank cell).isSome then
        g.checkRoom r
      return g.put r cell record
  | none => .error (.reject (.negativeCoordinates col row))

/-- The grid with a text typed in at two integer coordinates, and the cell that
the text stores. -/
def enterAt (g : Grid) (col row : Int) (raw : String) (record : Bool) :
    Except Fault (Option Cell × Grid) := do
  let cell ← Cell.ofInput? raw
  return (cell, ← g.putAt col row cell record)

/-- The latest edit, and the grid with it taken back. -/
def undo? (g : Grid) : Option (Edit × Grid) := do
  let (e, history) ← g.history.undo?
  return (e, { g.write e.position e.before with history := history })

/-- The edit taken back last, and the grid with it made again. -/
def redo? (g : Grid) : Option (Edit × Grid) := do
  let (e, history) ← g.history.redo?
  return (e, { g.write e.position e.after with history := history })

section Lemmas

/-- Above an integer floor the columns can be counted. -/
theorem columnCount_of_int
    {g : Grid} {i : Int}
    (h : g.minColumns = .int i) :
    g.columnCount = .int g.width := by
  simp only [columnCount, width, h, Number.greatest, List.foldl_cons, List.foldl_nil,
    Number.less_int, decide_eq_true_eq]
  split <;> congr 1 <;> omega

theorem length_le_widestRow
    {rows : List Row} {row : Row}
    (h : row ∈ rows) :
    row.length ≤ widestRow rows := by
  have hstep : ∀ (rows : List Row) (n : Nat),
      n ≤ rows.foldl (fun width row => max width row.length) n ∧
        ∀ row ∈ rows, row.length ≤ rows.foldl (fun width row => max width row.length) n := by
    intro rows
    induction rows with
    | nil => simp
    | cons first rest ih =>
        intro n
        obtain ⟨hn, hrest⟩ := ih (max n first.length)
        refine ⟨by simp only [List.foldl_cons]; omega, ?_⟩
        intro row hrow
        rcases List.mem_cons.1 hrow with rfl | hrow
        · simp only [List.foldl_cons]
          omega
        · exact hrest row hrow
  exact (hstep rows 0).2 row h

theorem get?_eq
    (g : Grid) (r : Reference) :
    g.get? r = (g.rows[r.row]?.bind fun row => row[r.col]?).join := by
  unfold get?
  cases g.rows[r.row]? with
  | none => rfl
  | some row => cases h : row[r.col]? <;> simp [h]

@[simp] theorem getElem?_padded
    (row : Row) (width i : Nat) :
    (padded width row)[i]?.join = row[i]?.join := by
  unfold padded blankRow
  rw [List.getElem?_append]
  split
  · rfl
  · next h =>
      rw [List.getElem?_eq_none (by omega : row.length ≤ i), List.getElem?_replicate]
      split <;> rfl

theorem length_padded
    (row : Row) (width : Nat) :
    (padded width row).length = max row.length width := by
  simp only [padded, blankRow, List.length_append, List.length_replicate]
  omega

theorem join_getElem?_writeRow_self
    (row : Row) (col : Nat) (cell : Option Cell) :
    (writeRow row col cell)[col]?.join = cell := by
  have h : col < (padded (col + 1) row).length := by
    rw [length_padded]
    omega
  simp [writeRow, List.getElem?_set_self h]

theorem join_getElem?_writeRow_of_ne
    (row : Row) {col i : Nat} (cell : Option Cell)
    (h : i ≠ col) :
    (writeRow row col cell)[i]?.join = row[i]?.join := by
  rw [writeRow, List.getElem?_set_ne (Ne.symm h), getElem?_padded]

theorem length_growRows
    (rows : List Row) (index width : Nat) :
    (growRows rows index width).length = max rows.length (index + 1) := by
  unfold growRows
  split
  · omega
  · simp only [List.length_append, List.length_replicate]
    omega

/-- The cell in a list of rows. -/
def cellIn (rows : List Row) (r : Reference) : Option Cell :=
  (rows[r.row]?.bind fun row => row[r.col]?).join

theorem cellIn_growRows
    (rows : List Row) (index width : Nat) (r : Reference) :
    cellIn (growRows rows index width) r = cellIn rows r := by
  unfold cellIn growRows blankRow
  split
  · rfl
  · rw [List.getElem?_append]
    split
    · rfl
    · next h =>
        rw [List.getElem?_eq_none (by omega : rows.length ≤ r.row), List.getElem?_replicate]
        split
        · simp only [Option.bind_some, List.getElem?_replicate]
          split <;> rfl
        · rfl

/-- The position written holds what was written. -/
theorem get?_write_self
    (g : Grid) (r : Reference) (cell : Option Cell) :
    (g.write r cell).get? r = cell := by
  unfold write
  split
  · next h =>
      simp only [Bool.and_eq_true, Option.isNone_iff_eq_none] at h
      rw [h.1, h.2]
  · rw [get?_eq]
    have hlen : r.row < (growRows g.rows r.row g.width).length := by
      rw [length_growRows]
      omega
    rw [List.getElem?_modify_eq, List.getElem?_eq_getElem hlen]
    simp [join_getElem?_writeRow_self]

/-- Every other position holds what it held. -/
theorem get?_write_of_ne
    (g : Grid) {r s : Reference} (cell : Option Cell)
    (hne : s ≠ r) :
    (g.write r cell).get? s = g.get? s := by
  unfold write
  split
  · rfl
  · have hgrow := cellIn_growRows g.rows r.row g.width s
    rw [get?_eq, get?_eq]
    unfold cellIn at hgrow
    rw [← hgrow]
    by_cases hrow : s.row = r.row
    · have hcol : s.col ≠ r.col := by
        intro hcol
        exact hne (by cases s; cases r; simp_all)
      rw [hrow, List.getElem?_modify_eq]
      cases (growRows g.rows r.row g.width)[r.row]? with
      | none => rfl
      | some row => simp [join_getElem?_writeRow_of_ne row cell hcol]
    · dsimp only
      rw [List.getElem?_modify_ne _ _ (Ne.symm hrow)]

end Lemmas

end Grid
end Spreadsheet
