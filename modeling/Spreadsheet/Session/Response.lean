import Spreadsheet.Session.Basic

/-!
# Responses

What a session answers to a request, and the objects that carry the answers
outside.
-/

namespace Spreadsheet

/-- What is shown of a position. -/
structure CellEntry where
  position : Reference
  label : String
  input : String
  display : String
  type : Option String
deriving DecidableEq, Repr

/-- What is told of a selection. -/
structure SelectionEntry where
  active : String
  label : String
  selection : Selection
deriving DecidableEq, Repr

/-- Whether a change was made, and the sheet after it. -/
structure Status where
  ok : Bool
  rows : Nat
  columns : Number
  dirty : Bool
deriving DecidableEq

/-- A part of the sheet. -/
structure Viewport where
  /-- The row, the column, and the numbers of rows and columns asked for. -/
  row : Int
  col : Int
  rowLimit : Int
  colLimit : Int
  rows : Nat
  columns : Number
  cells : List CellEntry
  frozenRows : Int
  frozenColumns : Int
  /-- The widths of the columns of the part. -/
  widths : List (Nat × Int)
  hidden : List Int
  selection : Option SelectionEntry
  canUndo : Bool
  canRedo : Bool
  dirty : Bool
deriving DecidableEq

/-- An answer. -/
inductive Response where
  | viewport (v : Viewport)
  | cell (entry : CellEntry)
  | value (formula : String) (result : Option Scalar)
  /-- The labels that name no cell, and the cells that were typed into. -/
  | updated (dirty : Bool) (refused : List String) (cells : List CellEntry)
  | status (s : Status)
  | timeline (s : Status) (canUndo canRedo : Bool)
  | resized (s : Status) (col width : Int)
  | hidden (s : Status) (columns : List Int)
  | frozen (s : Status) (rows columns : Int)
  | selection (entry : Option SelectionEntry)
  | saved (path : String)
  | text (s : String)

namespace CellEntry

/-- The object of an entry. -/
def json (e : CellEntry) : Json :=
  .object [("addr", .text e.label), ("row", Json.ofNat e.position.row),
    ("col", Json.ofNat e.position.col), ("raw", .text e.input), ("display", .text e.display),
    ("type", Json.ofText? e.type)]

end CellEntry

namespace SelectionEntry

/-- The object of an entry. -/
def json : Option SelectionEntry → Json
  | none => .object [("active", .null), ("range", .null)]
  | some e =>
      .object [("active", .text e.active), ("range", .text e.label),
        ("start_col", Json.ofInt e.selection.anchorCol),
        ("start_row", Json.ofInt e.selection.anchorRow),
        ("end_col", Json.ofInt e.selection.cursorCol),
        ("end_row", Json.ofInt e.selection.cursorRow)]

end SelectionEntry

namespace Status

/-- The fields of a status. -/
def fields (s : Status) : Json.Fields :=
  [("ok", .bool s.ok), ("n_rows", Json.ofNat s.rows), ("n_cols", .number s.columns),
    ("dirty", .bool s.dirty)]

end Status

namespace Viewport

/-- The object of a part of the sheet. -/
def json (v : Viewport) : Json :=
  .object [("n_rows", Json.ofNat v.rows), ("n_cols", .number v.columns),
    ("r0", Json.ofInt v.row), ("c0", Json.ofInt v.col),
    ("rows", Json.ofInt v.rowLimit), ("cols", Json.ofInt v.colLimit),
    ("cells", .array (v.cells.map CellEntry.json)),
    ("view", .object
      [("frozen_rows", Json.ofInt v.frozenRows), ("frozen_columns", Json.ofInt v.frozenColumns),
        ("widths", .object (v.widths.map fun (col, width) => (col.repr, Json.ofInt width))),
        ("hidden", .array (v.hidden.map Json.ofInt))]),
    ("selection", SelectionEntry.json v.selection),
    ("can_undo", .bool v.canUndo), ("can_redo", .bool v.canRedo), ("dirty", .bool v.dirty)]

end Viewport

namespace Response

/-- The code of a label that names no cell. -/
def invalidAddress : String := "invalid_address"

/-- The object of a label that names no cell. -/
def refusal (label : String) : Json :=
  .object [("addr", .text label), ("code", .text invalidAddress),
    ("message", .text (Rejection.message (.address label)))]

/-- A value is the mark of a formula that failed. -/
def isErrorMarker (value : Option Scalar) : Bool :=
  value == some (.text Formula.errorMarker)

/-- The value that carries an answer. -/
def json : Response → Json
  | .viewport v => v.json
  | .cell entry => entry.json
  | .value formula result =>
      .object [("formula", .text formula), ("result", Json.ofValue result),
        ("error", .bool (isErrorMarker result))]
  | .updated dirty refused cells =>
      .object [("ok", .bool refused.isEmpty), ("dirty", .bool dirty),
        ("errors", .array (refused.map refusal)), ("cells", .array (cells.map CellEntry.json))]
  | .status s => .object s.fields
  | .timeline s canUndo canRedo =>
      .object (s.fields ++ [("can_undo", .bool canUndo), ("can_redo", .bool canRedo)])
  | .resized s col width =>
      .object (s.fields ++ [("col_idx", Json.ofInt col), ("width", Json.ofInt width)])
  | .hidden s columns => .object (s.fields ++ [("hidden", .array (columns.map Json.ofInt))])
  | .frozen s rows columns =>
      .object (s.fields
        ++ [("frozen_rows", Json.ofInt rows), ("frozen_columns", Json.ofInt columns)])
  | .selection entry => SelectionEntry.json entry
  | .saved path => .object [("ok", .bool true), ("path", .text path), ("dirty", .bool false)]
  | .text s => .text s

end Response
end Spreadsheet
