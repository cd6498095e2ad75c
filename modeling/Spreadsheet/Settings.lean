import Spreadsheet.Json.Lenient
import Spreadsheet.Json.Worded
import Spreadsheet.Yaml.Reader

/-!
# Settings

The settings of a sheet: a mapping with a value for each name that is read
anywhere, over which the entries of a settings file are laid.  A file may keep
the settings of the view in a block of their own; an entry outside the block
counts before one inside.

A value is checked where it is used, not where it is read, so that a setting
without use does no harm.

Results: an entry of a file is what its name gives (`value_overlay_singleton`),
and a file that says nothing leaves the settings as they were
(`ofText_blank`).
-/

namespace Spreadsheet

/-- The settings of a sheet, by their names. -/
structure Settings where
  fields : Json.Fields

namespace Settings

/-- The name of the settings file of a folder. -/
def fileName : String := "sheetcalc.yaml"

/-- The settings where nothing was said. -/
def initial : Settings where
  fields :=
    [("undo_limit", Json.ofInt 50), ("min_columns", Json.ofInt 10),
      ("default_rows", Json.ofInt 5), ("default_column_width", Json.ofInt 100),
      ("min_column_width", Json.ofInt 40), ("frozen_rows", Json.ofInt 1),
      ("frozen_columns", Json.ofInt 0), ("currency_symbol", .text "$"),
      ("csv_delimiter", .text ","), ("logging_fsync", .bool false)]

/-- The settings file that a new folder gets when it is asked for. -/
def template : String :=
  "# sheetcalc configuration\n" ++
  "undo_limit: 50\n" ++
  "currency_symbol: \"$\"\n" ++
  "csv_delimiter: \",\"\n" ++
  "\n" ++
  "view:\n" ++
  "  column_width: 100\n" ++
  "  min_column_width: 40\n" ++
  "  frozen_rows: 1\n" ++
  "  frozen_columns: 0\n"

/-- The names in the block for the view, with the names that they stand for. -/
def viewNames : List (String × String) :=
  [("column_width", "default_column_width"), ("min_column_width", "min_column_width"),
    ("frozen_rows", "frozen_rows"), ("frozen_columns", "frozen_columns")]

/-- The fields with one set, unless it is there. -/
def setMissing (fields : Json.Fields) (key : String) (value : Json) : Json.Fields :=
  if (Json.getField? fields key).isSome then fields else Json.setField fields key value

/-- The entries of a file with those of its block for the view taken out of the
block. -/
def flattened (fields : Json.Fields) : Json.Fields :=
  let rest := Json.eraseField fields "view"
  match Json.getField? fields "view" with
  | some (.object block) =>
      viewNames.foldl (fun fields (short, name) =>
        match Json.getField? block short with
        | some value => setMissing fields name value
        | none => fields) rest
  | _ => rest

/-- The settings with entries laid over them. -/
def overlay (s : Settings) (fields : Json.Fields) : Settings :=
  ⟨Json.overlay s.fields fields⟩

/-- What a value is called that ought to be a mapping. -/
def valueWord : Json → String
  | .null => "NoneType"
  | .bool _ => "bool"
  | .number (.int _) => "int"
  | .number (.float _) => "float"
  | .text _ => "str"
  | .array _ => "list"
  | .object _ => "dict"

/-- What a node with a value is called that ought to be a mapping. -/
def kindWord : Yaml.Node → Json → String
  | .text true s, value =>
      match Yaml.stamp? s with
      | some (.ok .day) => "date"
      | some (.ok .time) => "datetime"
      | _ => valueWord value
  | _, value => valueWord value

/-- The settings that the text of a file gives; the file is named in case of a
fault. -/
def ofText (file text : String) : Except Fault Settings := do
  let node ← Yaml.read text
  let value ← node.value
  if value.isFalsy then
    return initial
  else
    match value with
    | .object fields => return initial.overlay (flattened fields)
    | value => throw (.notAMapping file (kindWord node value))

/-- The settings of a folder with or without a file. -/
def ofFile (file : String) : Option String → Except Fault Settings
  | none => .ok initial
  | some text => ofText file text

/-- The value of a setting. -/
def value (s : Settings) (name : String) : Json :=
  (Json.getField? s.fields name).getD .null

/-- A count of rows or columns, at least one. -/
def atLeastOne : Json → Except Fault Int
  | .bool _ => .ok 1
  | .number (.int i) => .ok (max 1 i)
  | .number (.float x) =>
      if Number.less (.int 1) (.float x) then .error .wrongType else .ok 1
  | _ => .error .wrongType

/-- A count of rows or columns as it is given. -/
def count : Json → Except Fault Int
  | .bool b => .ok (if b then 1 else 0)
  | .number (.int i) => .ok i
  | _ => .error .wrongType

/-- How many rows a new sheet has. -/
def rowCount (s : Settings) : Except Fault Int := atLeastOne (s.value "default_rows")

/-- The least number of columns of a sheet. -/
def minColumns (s : Settings) : Except Fault Number :=
  match s.value "min_columns" with
  | .bool b => .ok (.int (if b then 1 else 0))
  | .number x => .ok x
  | _ => .error .wrongType

/-- How many columns an empty sheet has. -/
def columnCount (s : Settings) : Except Fault Int := count (s.value "min_columns")

/-- How many edits can be taken back. -/
def undoLimit (s : Settings) : Except Fault Int :=
  match s.value "undo_limit" with
  | .bool true => .ok 1
  | .bool false => .error (.rejected (.undoLimit (Json.truthWord false)))
  | .number (.int i) => .ok i
  | .number (.float x) =>
      if Number.less (.float x) (.int 1) then do
        throw (.rejected (.undoLimit (← Number.standard (.float x))))
      else
        .error .wrongType
  | _ => .error .wrongType

/-- A whole number that a setting gives. -/
def wholeNumber (s : Settings) (name : String) : Except Fault Int :=
  match (s.value name).wholeNumber? with
  | some i => .ok i
  | none => .error .invalidRecord

/-- How many rows are frozen. -/
def frozenRows (s : Settings) : Except Fault Int := s.wholeNumber "frozen_rows"

/-- How many columns are frozen. -/
def frozenColumns (s : Settings) : Except Fault Int := s.wholeNumber "frozen_columns"

/-- The width of a column that has none of its own. -/
def columnWidth (s : Settings) : Except Fault Int := s.wholeNumber "default_column_width"

/-- The least width of a column. -/
def minColumnWidth (s : Settings) : Except Fault Int := s.wholeNumber "min_column_width"

/-- The symbol of amounts of money that name none. -/
def currencySymbol (s : Settings) : Option String :=
  match s.value "currency_symbol" with
  | .null => none
  | value => value.worded.toOption

/-- The delimiter of exported text; a value that cannot be one counts as the
empty text. -/
def delimiter (s : Settings) : String :=
  match s.value "csv_delimiter" with
  | .text d => d
  | _ => ""

section Lemmas

theorem value_overlay_singleton
    (s : Settings) (name : String) (value : Json) :
    (s.overlay [(name, value)]).value name = value := by
  simp [overlay, Settings.value, Json.overlay]

theorem ofText_blank
    (file : String) :
    ofText file "" = .ok initial := rfl

end Lemmas

end Settings
end Spreadsheet
