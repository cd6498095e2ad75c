import Spreadsheet.Reference.Label

/-!
# Ranges

A range is the rectangle between two opposite corners, which may be named in
any order.  Its cells are enumerated row by row.

Results: a range lists exactly its cells (`mem_toList`), and as many as its
size (`length_toList`).
-/

namespace Spreadsheet

/-- A rectangle of cells between two corners. -/
structure Range where
  start : Reference
  stop : Reference
deriving DecidableEq, Repr

namespace Range

/-- The leftmost column. -/
def minCol (r : Range) : Nat := min r.start.col r.stop.col

/-- The rightmost column. -/
def maxCol (r : Range) : Nat := max r.start.col r.stop.col

/-- The topmost row. -/
def minRow (r : Range) : Nat := min r.start.row r.stop.row

/-- The bottommost row. -/
def maxRow (r : Range) : Nat := max r.start.row r.stop.row

/-- How many columns the range spans. -/
def width (r : Range) : Nat := r.maxCol - r.minCol + 1

/-- How many rows the range spans. -/
def height (r : Range) : Nat := r.maxRow - r.minRow + 1

/-- How many cells the range holds. -/
def size (r : Range) : Nat := r.width * r.height

/-- How many cells the range holds, unless they are too many to be counted. -/
def count (r : Range) : Except Fault Nat :=
  if (r.size : Int) < Number.lengthLimit then .ok r.size else .error .tooLarge

/-- The position, which need not be that of a cell, lies in the rectangle. -/
def containsAt (r : Range) (col row : Int) : Bool :=
  r.minCol ≤ col && col ≤ r.maxCol && r.minRow ≤ row && row ≤ r.maxRow

/-- The cell lies in the rectangle. -/
def contains (r : Range) (c : Reference) : Bool :=
  r.minCol ≤ c.col && c.col ≤ r.maxCol && r.minRow ≤ c.row && c.row ≤ r.maxRow

instance : Membership Reference Range := ⟨fun r c => r.contains c = true⟩

/-- The cells, row by row. -/
def toList (r : Range) : List Reference :=
  (List.range' r.minRow r.height).flatMap fun row =>
    (List.range' r.minCol r.width).map fun col => ⟨col, row⟩

/-- The part of the range inside a grid of so many columns and rows. -/
def clipped? (r : Range) (columns rows : Int) : Option Range :=
  let maxCol := min (r.maxCol : Int) (columns - 1)
  let maxRow := min (r.maxRow : Int) (rows - 1)
  if maxCol < r.minCol ∨ maxRow < r.minRow then
    none
  else
    some ⟨⟨r.minCol, r.minRow⟩, ⟨maxCol.toNat, maxRow.toNat⟩⟩

/-- The part of the range inside a grid of so many columns and rows, where the
number of columns need not be an integer.  Only a single column can be told from
such a number. -/
def clippedTo? (r : Range) (columns : Number) (rows : Int) : Except Fault (Option Range) :=
  match columns with
  | .int columns => .ok (r.clipped? columns rows)
  | columns => do
      let last ← columns.sub (.int 1)
      if !last.less (.int r.maxCol) then
        return r.clipped? (r.maxCol + 1) rows
      else if last.less (.int r.minCol) || rows ≤ r.minRow then
        return none
      else if (Number.int r.minCol).less last then
        throw .wrongType
      else
        return r.clipped? (r.minCol + 1) rows

/-- The range between two labels with one colon between them. -/
def parse? (s : List Char) : Except Fault (Option Range) :=
  match s.splitOn ':' with
  | [first, second] => do
      match ← Reference.parse? first, ← Reference.parse? second with
      | some start, some stop => return some ⟨start, stop⟩
      | _, _ => return none
  | _ => return none

/-- The two corner labels as they were given. -/
def describe (r : Range) : Except Fault String := do
  let start ← r.start.label
  let stop ← r.stop.label
  return "CellRange(" ++ start ++ ":" ++ stop ++ ")"

section Lemmas

theorem mem_def
    {r : Range} {c : Reference} :
    c ∈ r ↔ r.minCol ≤ c.col ∧ c.col ≤ r.maxCol ∧ r.minRow ≤ c.row ∧ c.row ≤ r.maxRow := by
  show r.contains c = true ↔ _
  simp [contains, and_assoc]

theorem minCol_le_maxCol
    (r : Range) :
    r.minCol ≤ r.maxCol := by
  unfold minCol maxCol
  omega

theorem minRow_le_maxRow
    (r : Range) :
    r.minRow ≤ r.maxRow := by
  unfold minRow maxRow
  omega

/-- A range lists exactly the cells of its rectangle. -/
theorem mem_toList
    {r : Range} {c : Reference} :
    c ∈ r.toList ↔ c ∈ r := by
  have hc := r.minCol_le_maxCol
  have hr := r.minRow_le_maxRow
  rw [mem_def]
  simp only [toList, List.mem_flatMap, List.mem_map, List.mem_range'_1, width, height]
  constructor
  · rintro ⟨row, hrow, col, hcol, rfl⟩
    dsimp only
    omega
  · intro h
    exact ⟨c.row, by omega, c.col, by omega, rfl⟩

/-- A range lists as many cells as it holds. -/
theorem length_toList
    (r : Range) :
    r.toList.length = r.size := by
  simp [toList, size, List.length_flatMap, List.map_const', Nat.mul_comm]

end Lemmas

end Range
end Spreadsheet
