import Spreadsheet.Display
import Spreadsheet.Document.Printer
import Spreadsheet.Grid.Export
import Spreadsheet.Selection
import Spreadsheet.Settings

/-!
# Sheets

A grid with its view and, once something was selected, a selection.  A sheet
comes from a document, or begins empty in the size that its settings ask for.

Result: the sheet of a document has no selection (`selection_ofDocument`).
-/

namespace Spreadsheet

/-- An editable sheet. -/
structure Sheet where
  settings : Settings
  grid : Grid
  view : View
  selection : Option Selection

namespace Sheet

/-- The sheet without a document. -/
def empty (settings : Settings) : Except Fault Sheet := do
  let rows ← settings.rowCount
  let columns ← settings.columnCount
  let grid ← Grid.blank rows columns (← settings.minColumns) (← settings.undoLimit)
  let view : View :=
    { styles := []
      frozenRows := ← settings.frozenRows
      frozenColumns := ← settings.frozenColumns
      defaultWidth := ← settings.columnWidth
      minWidth := ← settings.minColumnWidth }
  return ⟨settings, grid, view, none⟩

/-- The sheet of a document. -/
def ofDocument (settings : Settings) (document : Document) : Except Fault Sheet := do
  let grid ← document.grid (← settings.minColumns) (← settings.undoLimit)
  let view := document.view (← settings.columnWidth) (← settings.minColumnWidth)
  return ⟨settings, grid, view, none⟩

/-- The sheet of a new document. -/
def create (settings : Settings) : Except Fault Sheet := do
  let rows ← settings.rowCount
  let columns ← (Grid.leastWidth (← settings.minColumns)).count
  let document ← Document.blank rows columns
    (← settings.frozenRows) (← settings.frozenColumns)
  ofDocument settings document

/-- How many rows the sheet has. -/
def rowCount (s : Sheet) : Nat := s.grid.rowCount

/-- How many columns the sheet has. -/
def columnCount (s : Sheet) : Number := s.grid.columnCount

/-- The object that stores the sheet. -/
def record (s : Sheet) : Except Fault Json := Document.record s.grid s.view

/-- The text that stores the sheet. -/
def write (s : Sheet) : Except Fault String := Document.write s.grid s.view

/-- The cell at a position. -/
def cellAt? (s : Sheet) (col row : Int) : Option Cell := s.grid.getAt? col row

/-- The text that a position offers for editing. -/
def inputText (s : Sheet) (col row : Int) : Except Fault String :=
  Cell.inputTextAt (s.cellAt? col row)

/-- The shown text of a position. -/
def display (s : Sheet) (today : Date) (col row : Int) : Except Fault String :=
  Cell.displayAt s.grid.source today s.settings.currencySymbol (s.cellAt? col row)

/-- The value of a formula on the sheet. -/
def evaluate (s : Sheet) (today : Date) (formula : String) : Option Scalar :=
  s.grid.source.evaluate today formula

/-- The active cell. -/
def active? (s : Sheet) : Option (Int × Int) := s.selection.map Selection.active

section Lemmas

theorem selection_ofDocument
    {settings : Settings} {document : Document} {s : Sheet}
    (h : ofDocument settings document = .ok s) :
    s.selection = none := by
  unfold ofDocument at h
  simp only [bind, Except.bind, pure, Except.pure] at h
  repeat' split at h
  all_goals simp only [reduceCtorEq, Except.ok.injEq] at h
  subst h
  rfl

end Lemmas

end Sheet
end Spreadsheet
