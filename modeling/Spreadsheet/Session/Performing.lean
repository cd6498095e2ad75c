import Spreadsheet.Session.Request
import Spreadsheet.Session.Response

/-!
# Carrying out requests

What a session does for each request.  A request is refused before anything is
changed, but for two: of several cells the earlier ones stay typed into when a
later one fails, and the rows stay frozen when the number of columns to freeze
is refused.

Results: the indices of a part of the sheet are those that are asked for and
exist (`mem_window`), and an index is accepted exactly if it is one of a row or
column, or the next after them where something is inserted
(`checkIndex_eq_ok_iff`).
-/

namespace Spreadsheet
namespace Session

/-- What is shown of a position. -/
def entryAt (s : Sheet) (today : Date) (r : Reference) : Except Fault CellEntry := do
  let label ← r.label
  let input ← s.inputText r.col r.row
  let display ← s.display today r.col r.row
  return ⟨r, label, input, display, (s.cellAt? r.col r.row).map Cell.typeName⟩

/-- What is told of the selection. -/
def selectionEntry (s : Sheet) : Except Fault (Option SelectionEntry) :=
  match s.selection with
  | none => return none
  | some selection => do
      let active ← Reference.labelOf selection.anchorCol selection.anchorRow
      return some ⟨active, ← selection.label, selection⟩

/-- The status of a session after a change. -/
def status (s : Session) (ok : Bool) : Status :=
  ⟨ok, s.sheet.rowCount, s.sheet.columnCount, s.dirty⟩

/-- The indices from a first one on, at most `limit` of them, below `count`. -/
def window (first limit : Int) (count : Nat) : List Nat :=
  List.range' first.toNat ((min (first + limit) count).toNat - first.toNat)

/-- The end of the columns from a first one on, at most `limit` of them, on a
sheet of so many columns, if they can be counted out. -/
def columnEnd (columns : Number) (first limit : Int) : Except Fault Nat :=
  if columns.less (.int (first + limit)) then columns.count else .ok (first + limit).toNat

/-- The part of the sheet from a row and a column on. -/
def viewport (s : Session) (today : Date) (row col rows cols : Int) : Except Fault Viewport :=
  if row < 0 ∨ col < 0 then
    .error (.rejected .viewportOrigin)
  else do
    let sheet := s.sheet
    let columns := window col cols (← columnEnd sheet.columnCount col cols)
    let shown := (window row rows sheet.rowCount).flatMap fun (y : Nat) =>
      columns.map fun (x : Nat) => Reference.mk x y
    let cells ← (shown.filter fun r => (sheet.grid.get? r).isSome).mapM (entryAt sheet today)
    return {
      row := row
      col := col
      rowLimit := rows
      colLimit := cols
      rows := sheet.rowCount
      columns := sheet.columnCount
      cells := cells
      frozenRows := sheet.view.frozenRows
      frozenColumns := sheet.view.frozenColumns
      widths := columns.map fun (x : Nat) => (x, sheet.view.width x)
      hidden := sheet.view.hiddenColumns
      selection := ← selectionEntry sheet
      canUndo := sheet.grid.history.canUndo
      canRedo := sheet.grid.history.canRedo
      dirty := s.dirty }

/-- A formula as it is evaluated: without blanks around it, and with its sign. -/
def formulaText (text : String) : String :=
  let trimmed := Text.trimmed text
  if trimmed.front? = some '=' then trimmed else "=" ++ trimmed

/-- Fails for an index that is not from zero to below `count`, or up to it if
`inclusive`. -/
def checkIndex (refusal : Int → String → Bool → Rejection) (index : Int) (count : Number)
    (inclusive : Bool) : Except Fault Unit :=
  if 0 ≤ index ∧ ((Number.int index).less count ∨ (inclusive ∧ !count.less (.int index))) then
    .ok ()
  else do
    throw (.reject (refusal index (← count.standard) inclusive))

/-- What comes of an edit made at a position. -/
def makeEdit (s : Sheet) (r : Reference) (edit : CellEdit) :
    Except Fault (Outcome (Option Cell)) := do
  s.enter r.col r.row ((← edit.raw).getD "")

/-- Text typed into the cells, one after the other; labels that name none are
passed over. -/
def update (m : Moment) : List CellEdit → Action (List String × List CellEntry)
  | [] => return ([], [])
  | edit :: rest => do
      let label ← edit.label
      match position label with
      | .error _ =>
          let (refused, cells) ← update m rest
          return (label :: refused, cells)
      | .ok r =>
          let _ ← applyOutcome m (← makeEdit (← get).sheet r edit)
          markDirty
          let entry ← entryAt (← get).sheet m.today r
          let (refused, cells) ← update m rest
          return (refused, entry :: cells)

/-- The latest edit taken back or made again by `change`. -/
def timeline (m : Moment) (change : Sheet → Except Fault (Outcome Bool)) : Action Response := do
  let ok ← applyOutcome m (← change (← get).sheet)
  if ok then
    markDirty
  let s ← get
  let history := s.sheet.grid.history
  return .timeline (s.status ok) history.canUndo history.canRedo

/-- A row or column inserted or deleted; `refusal` is the reason why it is not
deleted where it exists. -/
def restructure (m : Moment) (op : Restructuring) (index : Int) (refusal : Option Rejection) :
    Action Response := do
  let ok ← applyOutcome m (← (← get).sheet.restructure op index)
  match ok, refusal with
  | false, some cause => throw (.rejected cause)
  | _, _ =>
      markDirty
      return .status ((← get).status true)

/-- The sheet changed without an event, and marked as changed. -/
def change (f : Sheet → Except Fault Sheet) : Action Unit := do
  let sheet ← f (← get).sheet
  modify fun s => { s with sheet := sheet, dirty := true }

/-- The number of frozen rows or columns set, if one is given. -/
def freezeSome (cause : Rejection) (f : Sheet → Number → Except Fault Sheet) :
    Option Number → Action Unit
  | none => return ()
  | some count => do
      if count.less (.int 0) then
        throw (.rejected cause)
      let sheet ← f (← get).sheet count
      modify fun s => { s with sheet := sheet }

/-- The selection changed, and what is told of it. -/
def select (f : Sheet → Except Fault Sheet) : Action Response := do
  let sheet ← f (← get).sheet
  modify fun s => { s with sheet := sheet }
  return .selection (← selectionEntry (← get).sheet)

/-- The sheet saved to its document. -/
def save (m : Moment) : Action Unit := do
  let s ← get
  onFiles (saveSheet m s.sheet s.document s.documentText s.folder)
  modify fun s => { s with dirty := false }

/-- The sheet as delimited text. -/
def exportText (m : Moment) (delimiter : Option String) : Action String := do
  if let some d := delimiter then
    if d.length ≠ 1 then
      throw (.rejected (.delimiter d))
  let (text, event) ← (← get).sheet.exportDelimited m.today (delimiter.getD "")
  modify fun s => { s with files := s.files.log s.folder m.stamp event }
  return text

/-- What a session does for a request. -/
def perform (m : Moment) (request : Request) : Action Response := do
  let s ← get
  match request with
  | .viewport row col rows cols => return .viewport (← s.viewport m.today row col rows cols)
  | .cell label => return .cell (← entryAt s.sheet m.today (← position label))
  | .evaluate formula =>
      let text := formulaText formula
      return .value text (s.sheet.evaluate m.today text)
  | .update edits =>
      let (refused, cells) ← update m edits
      return .updated (← get).dirty refused cells
  | .undo => timeline m Sheet.undo
  | .redo => timeline m Sheet.redo
  | .sort column ascending =>
      let col ← column.column
      if !(Number.int col).less s.sheet.columnCount then
        throw (.reject (.columnOutOfRange col (← s.sheet.columnCount.standard)))
      let _ ← applyOutcome m (← s.sheet.sort m.today col ascending)
      markDirty
      return .status ((← get).status true)
  | .insertRow index =>
      checkIndex .rowIndex index (.int s.sheet.rowCount) true
      restructure m .insertRow index none
  | .deleteRow index =>
      checkIndex .rowIndex index (.int s.sheet.rowCount) false
      restructure m .deleteRow index (some .lastRow)
  | .insertColumn index =>
      checkIndex .columnIndex index s.sheet.columnCount true
      restructure m .insertColumn index none
  | .deleteColumn index =>
      checkIndex .columnIndex index s.sheet.columnCount false
      restructure m .deleteColumn index (some .lastColumn)
  | .resizeColumn col width =>
      checkIndex .columnIndex col s.sheet.columnCount false
      let (width, sheet) ← s.sheet.resizeColumn col width
      modify fun s => { s with sheet := sheet, dirty := true }
      return .resized ((← get).status true) col width
  | .setHidden col hidden =>
      checkIndex .columnIndex col s.sheet.columnCount false
      change fun sheet => sheet.setHidden col hidden
      let s ← get
      return .hidden (s.status true) s.sheet.view.hiddenColumns
  | .freeze rows cols =>
      freezeSome .negativeFrozenRows Sheet.setFrozenRows rows
      freezeSome .negativeFrozenColumns Sheet.setFrozenColumns cols
      markDirty
      let s ← get
      return .frozen (s.status true) s.sheet.view.frozenRows s.sheet.view.frozenColumns
  | .startSelection label =>
      let r ← position label
      select fun sheet => .ok (sheet.startSelection r.col r.row)
  | .extendSelection label =>
      let r ← position label
      select fun sheet => .ok (sheet.extendSelection r.col r.row)
  | .moveSelection dcol drow => select fun sheet => sheet.moveSelection dcol drow
  | .selection => return .selection (← selectionEntry s.sheet)
  | .save =>
      save m
      return .saved s.documentText
  | .exportText delimiter => return .text (← exportText m delimiter)

section Lemmas

@[simp]
theorem mem_window {first limit : Int} {count i : Nat} :
    i ∈ window first limit count ↔ first ≤ i ∧ i < first + limit ∧ i < count := by
  simp only [window, List.mem_range'_1]
  omega

theorem checkIndex_eq_ok_iff
    {refusal : Int → String → Bool → Rejection} {index count : Int} {inclusive : Bool} :
    checkIndex refusal index (.int count) inclusive = .ok () ↔
      0 ≤ index ∧ (index < count ∨ (inclusive ∧ index = count)) := by
  have hiff : (0 ≤ index ∧ ((Number.int index).less (.int count) ∨
      (inclusive ∧ !(Number.int count).less (.int index)))) ↔
        0 ≤ index ∧ (index < count ∨ (inclusive ∧ index = count)) := by
    cases inclusive <;> simp
    omega
  unfold checkIndex
  split
  · next h => exact ⟨fun _ => hiff.1 h, fun _ => rfl⟩
  · next h =>
      refine ⟨fun hok => ?_, fun hin => absurd (hiff.2 hin) h⟩
      cases hn : (Number.int count).standard <;>
        simp [hn, bind, Except.bind, throw, throwThe, MonadExceptOf.throw] at hok

end Lemmas

end Session
end Spreadsheet
