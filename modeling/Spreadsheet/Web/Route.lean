import Spreadsheet.Web.Incoming

/-!
# Routes

The web addresses under which a session answers, and the request that each of
them stands for.

Result: a route is found under its own path (`ofPath_of_mem`).
-/

namespace Spreadsheet

/-- How a web address is used. -/
inductive Method where
  | get
  | post
  | other
deriving DecidableEq, Repr

namespace Method

/-- The method of a name. -/
def ofName (name : String) : Method :=
  match name.map Char.toUpper with
  | "GET" => .get
  | "POST" => .post
  | _ => .other

end Method

/-- A web address that stands for a request. -/
structure Route where
  method : Method
  path : String
  /-- A refusal is answered; elsewhere it is a failure like any other. -/
  tellsRefusal : Bool
  /-- The request, if what came in is as it ought to be. -/
  request : Incoming → Option Request

namespace Route

/-- The part of the sheet that a query asks for. -/
def viewport (r : Incoming) : Option Request := do
  let row ← r.queryNumber? "r0" 0 0 none
  let col ← r.queryNumber? "c0" 0 0 none
  let rows ← r.queryNumber? "rows" 30 1 (some 500)
  let cols ← r.queryNumber? "cols" 15 1 (some 200)
  return .viewport row col rows cols

/-- The cell that a query asks for. -/
def cell (r : Incoming) : Option Request :=
  (r.queryText? "addr").map .cell

/-- The edits that a body asks for. -/
def update (r : Incoming) : Option Request := do
  match Json.getField? (← r.fields?) "edits" with
  | some (.array edits) => return .update (← edits.mapM CellEdit.ofIncoming?)
  | _ => none

/-- The order that a body asks for. -/
def sort (r : Incoming) : Option Request := do
  let fields ← r.fields?
  return .sort (.label (← Json.text? fields "column")) (← Json.truthOr? fields "ascending" true)

/-- A request about the row that a body names. -/
def row (request : Int → Request) (r : Incoming) : Option Request := do
  return request (← Json.number? (← r.fields?) "row_idx")

/-- A request about the column that a body names. -/
def column (request : Int → Request) (r : Incoming) : Option Request := do
  return request (← Json.number? (← r.fields?) "col_idx")

/-- The width that a body asks for. -/
def resize (r : Incoming) : Option Request := do
  let fields ← r.fields?
  let col ← Json.number? fields "col_idx"
  return .resizeColumn col (.int (← Json.number? fields "width"))

/-- The numbers of frozen rows and columns that a body asks for. -/
def freeze (r : Incoming) : Option Request := do
  let fields ← r.fields?
  let rows ← Json.numberIfAny? fields "rows"
  let cols ← Json.numberIfAny? fields "columns"
  return .freeze (rows.map .int) (cols.map .int)

/-- A request about the cell that a body names. -/
def selection (request : String → Request) (r : Incoming) : Option Request := do
  return request (← Json.text? (← r.fields?) "addr")

/-- The step that a body asks for. -/
def move (r : Incoming) : Option Request := do
  let fields ← r.fields?
  return .moveSelection (← Json.numberOr? fields "dcol" 0) (← Json.numberOr? fields "drow" 0)

/-- The delimiter that a query asks for. -/
def exportText (r : Incoming) : Option Request :=
  (r.queryMark? "delimiter").map .exportText

/-- A request that needs nothing to come in. -/
def always (request : Request) (_ : Incoming) : Option Request :=
  some request

/-- All routes. -/
def all : List Route :=
  [
    ⟨.get, "/api/sheet", true, viewport⟩,
    ⟨.get, "/api/cell", true, cell⟩,
    ⟨.post, "/api/sheet/cells", true, update⟩,
    ⟨.post, "/api/sheet/sort", true, sort⟩,
    ⟨.post, "/api/sheet/rows/insert", true, row .insertRow⟩,
    ⟨.post, "/api/sheet/rows/delete", true, row .deleteRow⟩,
    ⟨.post, "/api/sheet/cols/insert", true, column .insertColumn⟩,
    ⟨.post, "/api/sheet/cols/delete", true, column .deleteColumn⟩,
    ⟨.post, "/api/sheet/cols/resize", true, resize⟩,
    ⟨.post, "/api/sheet/cols/hide", true, column fun col => .setHidden col true⟩,
    ⟨.post, "/api/sheet/cols/show", true, column fun col => .setHidden col false⟩,
    ⟨.post, "/api/sheet/freeze", true, freeze⟩,
    ⟨.post, "/api/undo", false, always .undo⟩,
    ⟨.post, "/api/redo", false, always .redo⟩,
    ⟨.get, "/api/selection", false, always .selection⟩,
    ⟨.post, "/api/selection/start", true, selection .startSelection⟩,
    ⟨.post, "/api/selection/extend", true, selection .extendSelection⟩,
    ⟨.post, "/api/selection/move", false, move⟩,
    ⟨.post, "/api/save", false, always .save⟩,
    ⟨.get, "/api/export", true, exportText⟩]

/-- A path without the slashes at its end. -/
def withoutEndSlashes (path : String) : String :=
  String.ofList (path.toList.reverse.dropWhile (· == '/')).reverse

/-- The routes of a path; one that ends in slashes is taken without them if it
stands for nothing itself. -/
def ofPath (path : String) : List Route :=
  match all.filter (·.path = path) with
  | [] => all.filter (·.path = withoutEndSlashes path)
  | routes => routes

section Lemmas

theorem ofPath_of_mem
    {r : Route}
    (h : r ∈ all) :
    r ∈ ofPath r.path := by
  have hr : r ∈ all.filter (·.path = r.path) := List.mem_filter.2 ⟨h, by simp⟩
  unfold ofPath
  split
  · next he => exact absurd (he ▸ hr) List.not_mem_nil
  · exact hr

end Lemmas

end Route
end Spreadsheet
