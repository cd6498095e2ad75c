import Spreadsheet.Session.Basic

/-!
# Tables

A sheet as lines of text: a head with the letters of the columns that are not
hidden, a rule, and a line for every row after its number.  Every column is as
wide as its widest entry.

Result: an entry fills the width of its column (`length_padded`).
-/

namespace Spreadsheet
namespace Table

/-- A text with blanks after it up to a width. -/
def padded (width : Nat) (s : List Char) : List Char :=
  s ++ List.replicate (width - s.length) ' '

/-- A text with blanks before it up to a width. -/
def indented (width : Nat) (s : List Char) : List Char :=
  List.replicate (width - s.length) ' ' ++ s

/-- The width of the widest text. -/
def width (column : List (List Char)) : Nat :=
  (column.map List.length).foldl max 0

/-- What stands between two entries. -/
def divider : List Char := [' ', '|', ' ']

/-- A line of a table, after what stands in front of it. -/
def line (front : List Char) (widths : List Nat) (entries : List (List Char)) : List Char :=
  front ++ divider ++ divider.intercalate (List.zipWith padded widths entries)

/-- The lines of a table with a head for every column and a number for every
row. -/
def lines (heads : List (List Char)) (rows : List (List (List Char))) : List (List Char) :=
  let widths := (List.range heads.length).map fun i =>
    width ((heads :: rows).map fun row => (row[i]?).getD [])
  let gutter := rows.length.repr.length
  let head := line (List.replicate gutter ' ') widths heads
  let rule := List.replicate head.length '-'
  let body := rows.mapIdx fun i row => line (indented gutter (i + 1).repr.toList) widths row
  (head :: rule :: body).map Text.trimRight

/-- The table of a sheet, of what was typed in if `raw`. -/
def ofSheet (s : Sheet) (today : Date) (raw : Bool) : Except Fault String := do
  let count ← s.columnCount.count
  let cols := (List.range count).filter fun (col : Nat) => !s.view.hiddenColumns.contains col
  let entry (row col : Nat) : Except Fault (List Char) :=
    String.toList <$> if raw then s.inputText col row else s.display today col row
  let rows ← (List.range s.rowCount).mapM fun (row : Nat) => cols.mapM (entry row)
  let heads ← cols.mapM fun (col : Nat) => String.toList <$> Reference.columnLabel col
  return String.join ((lines heads rows).map fun line => String.ofList line ++ "\n")

section Lemmas

/-- An entry fills the width of its column. -/
theorem length_padded
    {width : Nat} {s : List Char}
    (h : s.length ≤ width) :
    (padded width s).length = width := by
  simp [padded]
  omega

end Lemmas

end Table
end Spreadsheet
