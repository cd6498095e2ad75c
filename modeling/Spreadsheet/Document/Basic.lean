import Spreadsheet.Grid.Basic
import Spreadsheet.View

/-!
# Documents

What a sheet is made from and stored as: the rows of its cells, the numbers of
frozen rows and columns, and the styles of its columns.

Result: a document gives its sheet the rows it holds (`rows_grid`).
-/

namespace Spreadsheet

/-- A document. -/
structure Document where
  rows : List Row
  frozenRows : Nat
  frozenColumns : Nat
  styles : ColumnStyles
deriving DecidableEq

namespace Document

/-- The document of empty positions that stands in where there is none. -/
def initial : Document where
  rows := List.replicate Grid.defaultRows (Grid.blankRow Grid.defaultColumns)
  frozenRows := 1
  frozenColumns := 0
  styles := []

/-- The document of empty positions, at least one row and one column; the
numbers of frozen ones must not be negative. -/
def blank (rows columns frozenRows frozenColumns : Int) : Except Fault Document :=
  if frozenRows < 0 ∨ frozenColumns < 0 then
    .error .invalidRecord
  else
    .ok
      { rows := List.replicate (max 1 rows.toNat) (Grid.blankRow (max 1 columns.toNat))
        frozenRows := frozenRows.toNat
        frozenColumns := frozenColumns.toNat
        styles := [] }

/-- The grid of a document. -/
def grid (d : Document) (minColumns : Number) (undoLimit : Int) : Except Fault Grid :=
  Grid.ofRows d.rows minColumns undoLimit

/-- The view of a document. -/
def view (d : Document) (defaultWidth minWidth : Int) : View where
  styles := d.styles
  frozenRows := d.frozenRows
  frozenColumns := d.frozenColumns
  defaultWidth := defaultWidth
  minWidth := minWidth

section Lemmas

theorem rows_grid
    {d : Document} {minColumns : Number} {undoLimit : Int} {g : Grid}
    (hrows : d.rows ≠ [])
    (h : d.grid minColumns undoLimit = .ok g) :
    g.rows = d.rows.map fun row => row.map Cell.unlessBlank := by
  unfold grid Grid.ofRows at h
  have hsome : Grid.someRows (Grid.leastWidth minColumns) d.rows
      = .ok (d.rows.map fun row => row.map Cell.unlessBlank) := by
    simp [Grid.someRows, hrows, pure, Except.pure]
  cases hlimit : (History.ofLimit undoLimit : Except Fault (History Edit)) with
  | error fault => simp [hsome, hlimit, bind, Except.bind] at h
  | ok history =>
      simp only [hsome, hlimit, bind, Except.bind, pure, Except.pure, Except.ok.injEq] at h
      simp [← h]

end Lemmas

end Document
end Spreadsheet
