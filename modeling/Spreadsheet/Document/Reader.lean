import Spreadsheet.Cell.Record
import Spreadsheet.Document.Basic
import Spreadsheet.Json.Lenient
import Spreadsheet.Json.Reader

/-!
# Reading documents

A document is stored as an object.  Its rows of cells must be there; the frozen
counts and the column styles may be missing.  A frozen count is not negative, a
column is named by a whole number, and fields of other names do not matter.

Where a text is no document, strict reading fails and lenient reading gives the
initial document along with the reason.

Results: lenient reading agrees with strict reading where that succeeds
(`readLenient_of_parse`), and gives the initial document and the reason where
that finds the document malformed (`readLenient_of_error`).
-/

namespace Spreadsheet
namespace Document

/-- The field of the first of two names, else of the second. -/
def field? (fields : Json.Fields) (name other : String) : Option Json :=
  (Json.getField? fields name).or (Json.getField? fields other)

/-- The content of a position. -/
def contentField? : Json → Option (Option Cell)
  | .null => some none
  | value => (Cell.ofRecord? value).map some

/-- The items of an array, each read by `read`. -/
def items? {α : Type} (read : Json → Option α) : Json → Option (List α)
  | .array items => items.mapM read
  | _ => none

/-- The rows of cells. -/
def rowsField? (value : Json) : Option (List Row) :=
  items? (items? contentField?) value

/-- A frozen count; `default` if it is missing. -/
def frozenField? (default : Nat) : Option Json → Option Nat
  | none => some default
  | some value => do
      let count ← value.wholeNumber?
      if count < 0 then none else some count.toNat

/-- A width, which may be missing or null. -/
def widthField? : Option Json → Option (Option Int)
  | none | some .null => some none
  | some value => value.wholeNumber?.map some

/-- A hidden flag, which may be missing. -/
def hiddenField? : Option Json → Option Bool
  | none => some false
  | some value => value.truth?

/-- The style of a column. -/
def styleField? : Json → Option ColumnStyle
  | .object fields => do
      let width ← widthField? (Json.getField? fields "width")
      let hidden ← hiddenField? (Json.getField? fields "hidden")
      return ⟨width, hidden⟩
  | _ => none

/-- The style of a named column. -/
def styleEntry? (entry : String × Json) : Option (Int × ColumnStyle) := do
  let col ← Json.wholeText? entry.1.toList
  let style ← styleField? entry.2
  return (col, style)

/-- The styles of the columns. -/
def stylesField? : Option Json → Option ColumnStyles
  | none => some []
  | some (.object fields) => (fields.mapM styleEntry?).map ColumnStyles.ofEntries
  | some _ => none

/-- The document that the fields of an object store. -/
def ofFields? (fields : Json.Fields) : Option Document := do
  let rows ← rowsField? ((Json.getField? fields "data").getD .null)
  let frozenRows ← frozenField? 1 (field? fields "frozenRows" "frozen_rows")
  let frozenColumns ← frozenField? 0 (field? fields "frozenColumns" "frozen_columns")
  let styles ← stylesField? (field? fields "columnMeta" "column_meta")
  return ⟨rows, frozenRows, frozenColumns, styles⟩

/-- The document that a structured value stores. -/
def ofRecord (value : Json) : Except Fault Document :=
  let document? :=
    match value with
    | .object fields => ofFields? fields
    | _ => none
  match document? with
  | some d => .ok d
  | none => .error (.document .shape)

/-- The document that a text stores. -/
def parse (text : String) : Except Fault Document :=
  match Json.parse text with
  | .ok value => ofRecord value
  | .error .malformed => .error (.document .malformed)
  | .error .tooManyDigits => .error .tooManyDigits

/-- The document that a text stores, the initial one if it stores none, and
then what is wrong with it. -/
def readLenient (text : String) : Except Fault (Document × Option DocumentFault) :=
  match parse text with
  | .ok d => .ok (d, none)
  | .error (.document cause) => .ok (initial, some cause)
  | .error fault => .error fault

section Lemmas

theorem readLenient_of_parse
    {text : String} {d : Document}
    (h : parse text = .ok d) :
    readLenient text = .ok (d, none) := by
  simp [readLenient, h]

theorem readLenient_of_error
    {text : String} {cause : DocumentFault}
    (h : parse text = .error (.document cause)) :
    readLenient text = .ok (initial, some cause) := by
  simp [readLenient, h]

end Lemmas

end Document
end Spreadsheet
