import Spreadsheet.Event
import Spreadsheet.Grid.Sorting
import Spreadsheet.Grid.Structure
import Spreadsheet.Sheet.Basic

/-!
# Editing sheets

What can be done to a sheet.  Each change tells its result, the sheet after it,
and the events to be logged; one that fails has changed nothing and logs
nothing.

Inserting and deleting rows and columns moves the styles of the columns along.
A deletion that is refused is put down to the last row or column wherever the
sheet has only one of either.

Results: a refused change of structure leaves the sheet as it is
(`sheet_rejected`), and taking back and making again answer whether there was
an edit (`result_undo_of_none`).
-/

namespace Spreadsheet

/-- A change of the rows or columns of a sheet. -/
inductive Restructuring where
  | insertRow
  | insertColumn
  | deleteRow
  | deleteColumn
deriving DecidableEq, Repr

namespace Restructuring

/-- The name of a change in the event log. -/
def name : Restructuring → String
  | .insertRow => "insert_row"
  | .insertColumn => "insert_column"
  | .deleteRow => "delete_row"
  | .deleteColumn => "delete_column"

/-- The change takes something away. -/
def isDeletion : Restructuring → Bool
  | .deleteRow | .deleteColumn => true
  | _ => false

/-- The grid after a change at an index. -/
def grid (op : Restructuring) (g : Grid) (index : Int) : Except Fault (Option Grid) :=
  match op with
  | .insertRow => g.insertRow index
  | .insertColumn => g.insertColumn index
  | .deleteRow => return g.deleteRow? index
  | .deleteColumn => return g.deleteColumn? index

/-- The view after a change at an index. -/
def view (op : Restructuring) (v : View) (index : Int) : View :=
  match op with
  | .insertColumn => v.shiftColumns index 1
  | .deleteColumn => v.shiftColumns index (-1)
  | _ => v

/-- The selection after a change at an index: none if its active cell is
gone. -/
def selection (op : Restructuring) (s : Option Selection) (index : Int) : Option Selection :=
  match op with
  | .deleteRow => s.filter fun s => s.anchorRow != index
  | .deleteColumn => s.filter fun s => s.anchorCol != index
  | _ => s

end Restructuring

/-- What comes of a change. -/
structure Outcome (α : Type) where
  result : α
  sheet : Sheet
  events : List Event

namespace Sheet

/-- The codes of refused changes. -/
def lastRowOrColumn : String := "last_row_or_column"

/-- The code of a change at an index that the sheet does not have. -/
def indexOutOfRange : String := "index_out_of_range"

/-- The event of a refused change. -/
def rejection (op : String) (index : Int) (code : String) : Except Fault Event := do
  return .warning .structuralEditRejected (op ++ " at " ++ (← integerText index) ++ " rejected")
    [("op", .text op), ("index", Json.ofInt index)] code

/-- A text typed into a position; the empty text clears it. -/
def enter (s : Sheet) (col row : Int) (raw : String) : Except Fault (Outcome (Option Cell)) := do
  let (cell, grid) ← s.grid.enterAt col row raw true
  let label ← Reference.labelOf col row
  let event := Event.info .cellCommitted ("Committed " ++ label)
    [("cell", .text label), ("type", Json.ofText? (cell.map Cell.typeName))]
  return ⟨cell, { s with grid := grid }, [event]⟩

/-- The event of an edit taken back or made again. -/
def editEvent (kind : EventKind) (verb : String) (e : Edit) : Except Fault Event := do
  let label ← e.position.label
  return .info kind (verb ++ " edit at " ++ label) [("cell", .text label)]

/-- The latest edit taken back, if there is one. -/
def undo (s : Sheet) : Except Fault (Outcome Bool) :=
  match s.grid.undo? with
  | none => return ⟨false, s, []⟩
  | some (e, grid) => do
      return ⟨true, { s with grid := grid }, [← editEvent .historyUndo "Undid" e]⟩

/-- The edit taken back last made again, if there is one. -/
def redo (s : Sheet) : Except Fault (Outcome Bool) :=
  match s.grid.redo? with
  | none => return ⟨false, s, []⟩
  | some (e, grid) => do
      return ⟨true, { s with grid := grid }, [← editEvent .historyRedo "Redid" e]⟩

/-- The rows below the frozen ones sorted by a column. -/
def sort (s : Sheet) (today : Date) (col : Int) (ascending : Bool) :
    Except Fault (Outcome Bool) := do
  match ← s.grid.sortByColumn? today col ascending s.view.frozenRows with
  | none => return ⟨false, s, [← rejection "sort" col indexOutOfRange]⟩
  | some grid =>
      let event := Event.info .sortApplied ("Sorted by column " ++ (← Reference.columnLabel col))
        [("column", Json.ofInt col), ("ascending", .bool ascending),
          ("frozen_rows", Json.ofInt s.view.frozenRows)]
      return ⟨true, { s with grid := grid }, [event]⟩

/-- Why a change of structure was refused. -/
def refusalCode (s : Sheet) (op : Restructuring) : String :=
  if op.isDeletion && (s.rowCount ≤ 1 || !(Number.int 1).less s.columnCount) then
    lastRowOrColumn
  else
    indexOutOfRange

/-- A row or column inserted or deleted. -/
def restructure (s : Sheet) (op : Restructuring) (index : Int) : Except Fault (Outcome Bool) := do
  match ← op.grid s.grid index with
  | none => return ⟨false, s, [← rejection op.name index (s.refusalCode op)]⟩
  | some grid =>
      let s' : Sheet :=
        { s with
          grid := grid
          view := op.view s.view index
          selection := op.selection s.selection index }
      let event := Event.info .structuralEdit (op.name ++ " at " ++ (← integerText index))
        [("op", .text op.name), ("index", Json.ofInt index),
          ("rows", Json.ofNat s'.rowCount), ("columns", .number s'.columnCount)]
      return ⟨true, s', [event]⟩

/-- A row added at the end. -/
def addRow (s : Sheet) : Except Fault (Outcome Bool) :=
  s.restructure .insertRow s.rowCount

/-- A column added at the end. -/
def addColumn (s : Sheet) : Except Fault (Outcome Bool) := do
  s.restructure .insertColumn (← s.columnCount.count)

/-- The width that a column gets, and the sheet with it. -/
def resizeColumn (s : Sheet) (col : Int) (width : Number) : Except Fault (Int × Sheet) := do
  let (width, view) ← s.view.resizeColumn col width
  return (width, { s with view := view })

/-- The sheet with a column hidden or shown. -/
def setHidden (s : Sheet) (col : Int) (hidden : Bool) : Except Fault Sheet := do
  return { s with view := ← s.view.setHidden col hidden }

/-- The sheet with leading rows frozen. -/
def setFrozenRows (s : Sheet) (count : Number) : Except Fault Sheet := do
  return { s with view := ← s.view.setFrozenRows count }

/-- The sheet with leading columns frozen. -/
def setFrozenColumns (s : Sheet) (count : Number) : Except Fault Sheet := do
  return { s with view := ← s.view.setFrozenColumns count }

/-- The sheet with a single cell selected. -/
def startSelection (s : Sheet) (col row : Int) : Sheet :=
  { s with selection := some (Selection.single col row) }

/-- The sheet with its selection drawn to a cell. -/
def extendSelection (s : Sheet) (col row : Int) : Sheet :=
  { s with selection := some (Selection.extend s.selection col row) }

/-- How many columns a step from a column may be taken in, the number of columns
being any: no more than keep the column it ends in an integer. -/
def reach (columns : Number) (col : Int) : Except Fault Nat :=
  match columns with
  | .int i => .ok i.toNat
  | .float _ => do
      let last ← columns.sub (.int 1)
      if !last.less (.int col) then
        return (col + 1).toNat
      else
        match last with
        | .int i => return (i + 1).toNat
        | .float x =>
            match x.toInt? with
            | some i => return (i + 1).toNat
            | none => throw .invalidRecord

/-- The sheet with the cell selected that is a step away from the active one. -/
def moveSelection (s : Sheet) (dcol drow : Int) : Except Fault Sheet :=
  match s.selection with
  | none => return s
  | some t => do
      let columns ← reach s.columnCount (max 0 (t.anchorCol + dcol))
      return { s with selection := some (t.moved dcol drow columns s.rowCount) }

/-- The sheet as delimited text; the empty delimiter stands for that of the
settings. -/
def exportDelimited (s : Sheet) (today : Date) (delimiter : String) :
    Except Fault (String × Event) := do
  let delimiter := if delimiter.isEmpty then s.settings.delimiter else delimiter
  let text ← s.grid.exportDelimited today delimiter
  return (text, .info .exportCompleted "Exported delimited text"
    [("rows", Json.ofNat s.rowCount), ("delimiter", .text delimiter)])

section Lemmas

theorem sheet_rejected
    {s : Sheet} {op : Restructuring} {index : Int} {o : Outcome Bool}
    (hgrid : op.grid s.grid index = .ok none)
    (h : s.restructure op index = .ok o) :
    o.sheet = s ∧ o.result = false := by
  unfold restructure at h
  cases hr : rejection op.name index (s.refusalCode op) with
  | error fault => simp [hgrid, hr, bind, Except.bind] at h
  | ok event =>
      simp only [hgrid, hr, bind, Except.bind, pure, Except.pure, Except.ok.injEq] at h
      subst h
      exact ⟨rfl, rfl⟩

theorem result_undo_of_none
    {s : Sheet}
    (h : s.grid.undo? = none) :
    s.undo = .ok ⟨false, s, []⟩ := by
  simp [undo, h, pure, Except.pure]

end Lemmas

end Sheet
end Spreadsheet
