import Spreadsheet.Reference.Label

/-!
# Selections

A rectangle of cells between the cell where it was begun, the anchor, and the
one to which it was drawn, the cursor.  The anchor is the active cell.

Results: both corners are selected (`contains_anchor`, `contains_cursor`), and
a step on a grid with cells ends inside it (`inside_moved`).
-/

namespace Spreadsheet

/-- A selection, which may reach beyond the grid in any direction. -/
structure Selection where
  anchorCol : Int
  anchorRow : Int
  cursorCol : Int
  cursorRow : Int
deriving DecidableEq, Repr

namespace Selection

/-- The selection of a single cell. -/
def single (col row : Int) : Selection := ⟨col, row, col, row⟩

/-- The active cell. -/
def active (s : Selection) : Int × Int := (s.anchorCol, s.anchorRow)

/-- The leftmost selected column. -/
def minCol (s : Selection) : Int := min s.anchorCol s.cursorCol

/-- The rightmost selected column. -/
def maxCol (s : Selection) : Int := max s.anchorCol s.cursorCol

/-- The topmost selected row. -/
def minRow (s : Selection) : Int := min s.anchorRow s.cursorRow

/-- The bottommost selected row. -/
def maxRow (s : Selection) : Int := max s.anchorRow s.cursorRow

/-- A position is selected. -/
def contains (s : Selection) (col row : Int) : Bool :=
  s.minCol ≤ col && col ≤ s.maxCol && s.minRow ≤ row && row ≤ s.maxRow

/-- The label of the selection: of its cell, or of its first and last one. -/
def label (s : Selection) : Except Fault String := do
  let first ← Reference.labelOf s.minCol s.minRow
  let last ← Reference.labelOf s.maxCol s.maxRow
  return if first = last then first else first ++ ":" ++ last

/-- The selection drawn to a cell; it begins there if there was none. -/
def extend (s : Option Selection) (col row : Int) : Selection :=
  match s with
  | none => single col row
  | some s => { s with cursorCol := col, cursorRow := row }

/-- A coordinate moved by a step, and kept between zero and the last of
`count`. -/
def clampStep (i step : Int) (count : Nat) : Int :=
  min (max 0 (i + step)) (max 0 ((count : Int) - 1))

/-- The cell a step away from the active one, on a grid of given size. -/
def moved (s : Selection) (dcol drow : Int) (columns rows : Nat) : Selection :=
  single (clampStep s.anchorCol dcol columns) (clampStep s.anchorRow drow rows)

section Lemmas

theorem contains_anchor
    (s : Selection) :
    s.contains s.anchorCol s.anchorRow = true := by
  simp only [contains, Bool.and_eq_true, decide_eq_true_eq]
  simp only [minCol, maxCol, minRow, maxRow]
  omega

theorem contains_cursor
    (s : Selection) :
    s.contains s.cursorCol s.cursorRow = true := by
  simp only [contains, Bool.and_eq_true, decide_eq_true_eq]
  simp only [minCol, maxCol, minRow, maxRow]
  omega

/-- A step ends inside a grid that has rows and columns. -/
theorem inside_moved
    (s : Selection) (dcol drow : Int)
    {columns rows : Nat}
    (hcolumns : 0 < columns)
    (hrows : 0 < rows) :
    let t := s.moved dcol drow columns rows
    (0 ≤ t.anchorCol ∧ t.anchorCol < columns) ∧ (0 ≤ t.anchorRow ∧ t.anchorRow < rows) := by
  simp only [moved, single, clampStep]
  omega

end Lemmas

end Selection
end Spreadsheet
