import Spreadsheet.Cell.Record
import Spreadsheet.Document.Basic
import Spreadsheet.Json.Printer

/-!
# Writing documents

The object that stores a grid, with or without its view: the rows of cells, all
as wide as the grid, and then the frozen counts and the styles of the columns
in increasing order.

A document is written over several lines; a number that is not finite cannot be
stored.

Result: every stored row is as wide as the grid (`length_of_mem_paddedRows`).
-/

namespace Spreadsheet

/-- The value that stores the content of a position. -/
def contentRecord : Option Cell → Json
  | none => .null
  | some c => c.record

namespace Grid

/-- The field that stores the rows of a grid, which must be as wide as it is. -/
def fields (g : Grid) : Except Fault Json.Fields := do
  g.checkWidth
  return [("data", .array (g.paddedRows.map fun row => .array (row.map contentRecord)))]

section Lemmas

/-- Every stored row is as wide as the grid. -/
theorem length_of_mem_paddedRows
    {g : Grid} {row : Row}
    (h : row ∈ g.paddedRows) :
    row.length = g.width := by
  obtain ⟨short, hshort, rfl⟩ := List.mem_map.1 h
  rw [length_padded]
  have := length_le_widestRow hshort
  unfold width
  split <;> omega

end Lemmas

end Grid

namespace View

/-- The field that stores the style of a column. -/
def styleField (entry : Int × ColumnStyle) : Except Fault (String × Json) := do
  let width :=
    match entry.2.width with
    | none => Json.null
    | some w => Json.ofInt w
  return (← integerText entry.1,
    .object [("width", width), ("hidden", .bool entry.2.hidden)])

/-- The fields that store a view. -/
def fields (v : View) : Except Fault Json.Fields := do
  return [("frozenRows", Json.ofInt v.frozenRows), ("frozenColumns", Json.ofInt v.frozenColumns),
    ("columnMeta", .object (← v.styles.mapM styleField))]

end View

namespace Document

/-- The object that stores a grid and its view. -/
def record (g : Grid) (v : View) : Except Fault Json := do
  return .object ((← g.fields) ++ (← v.fields))

/-- The text that stores a grid and its view. -/
def write (g : Grid) (v : View) : Except Fault String := do
  return (← (← record g v).print .document) ++ "\n"

end Document
end Spreadsheet
