import Spreadsheet.Json.Worded
import Spreadsheet.Number.Reader
import Spreadsheet.Reference.Label

/-!
# Requests

What can be asked of a session.  Cells are named by their labels and columns by
their letters or their number; a request that names none is refused when it is
carried out.

Result: a label that is read is not refused (`position_of_parse`).
-/

namespace Spreadsheet

/-- The name of a column. -/
inductive ColumnName where
  | number (col : Int)
  | label (text : String)
deriving DecidableEq, Repr

/-- A text to be typed into the cell with a label; none clears the cell.  What
has no text fails only when the edit is made. -/
structure CellEdit where
  label : Except Fault String
  raw : Except Fault (Option String)

namespace CellEdit

/-- The edit that types a text into the cell with a label. -/
def ofTexts (label : String) (raw : Option String) : CellEdit := ⟨.ok label, .ok raw⟩

/-- The edit that an object stands for; a label or an input that is no text
counts as what it reads like in words. -/
def ofRecord : Json → CellEdit
  | .object fields =>
      { label :=
          match Json.getField? fields "addr" with
          | none => .ok ""
          | some label => label.worded
        raw :=
          match Json.getField? fields "value" with
          | none | some .null => .ok none
          | some value => some <$> value.worded }
  | _ => ⟨.error .notARecord, .error .notARecord⟩

end CellEdit

/-- A request. -/
inductive Request where
  /-- The part of the sheet from a row and a column on. -/
  | viewport (row col rows cols : Int)
  | cell (label : String)
  | evaluate (formula : String)
  | update (edits : List CellEdit)
  | undo
  | redo
  | sort (column : ColumnName) (ascending : Bool)
  | insertRow (index : Int)
  | deleteRow (index : Int)
  | insertColumn (index : Int)
  | deleteColumn (index : Int)
  | resizeColumn (col : Int) (width : Number)
  | setHidden (col : Int) (hidden : Bool)
  | freeze (rows cols : Option Number)
  | startSelection (label : String)
  | extendSelection (label : String)
  | moveSelection (dcol drow : Int)
  | selection
  | save
  /-- The sheet as delimited text, with the delimiter of the settings if none is
  given. -/
  | exportText (delimiter : Option String)

/-- The position that a label names. -/
def position (label : String) : Except Fault Reference := do
  match ← Reference.parse? label.toList with
  | some r => return r
  | none => throw (.rejected (.address label))

namespace ColumnName

/-- The number that decimal digits of any script write. -/
def ofDigits (digits : List Char) : Except Fault Int :=
  if digits.all Text.isDecimal then
    Numeral.integer false digits
  else
    .error .unrepresentable

/-- The column that a text names: by its number if it is all digits, else by its
letters. -/
def ofLabel (text : String) : Except Fault Int :=
  let name := Text.trim text.toList
  if !name.isEmpty && name.all Text.isDigitMark then
    ofDigits name
  else if !name.isEmpty && name.all Char.isAlpha then
    .ok (Reference.columnIndex name)
  else
    .error (.rejected (.columnLabel text))

/-- The column that a name names. -/
def column : ColumnName → Except Fault Int
  | .number col =>
      if col < 0 then .error (.reject (.columnNumber col)) else .ok col
  | .label text => ofLabel text

end ColumnName

section Lemmas

theorem position_of_parse
    {label : String} {r : Reference}
    (h : Reference.parse? label.toList = .ok (some r)) :
    position label = .ok r := by
  simp [position, h, bind, Except.bind, pure, Except.pure]

end Lemmas

end Spreadsheet
