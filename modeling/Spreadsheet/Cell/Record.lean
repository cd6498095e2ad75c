import Spreadsheet.Cell.Basic
import Spreadsheet.Json.Basic

/-!
# Stored cells

A cell is stored as an object with a value, a type, and, where they apply, a
formula and a format.  A formula cell takes its source from the formula or else
from the value; without either it is no formula.  A cell without a value is
blank whatever its other fields say.

Results: a stored cell reads back as itself (`ofRecord?_record`), so reading
and storing normalise only once.
-/

namespace Spreadsheet
namespace Cell

/-- A format that is a text or is missing. -/
def formatField? : Option Json → Option (Option String)
  | none | some .null => some none
  | some (.text s) => some (some s)
  | some _ => none

/-- The kind that a type field names; text if there is none. -/
def kindField? : Option Json → Option Kind
  | none => some .text
  | some (.text name) => Kind.ofName? name
  | some _ => none

/-- The scalar that a value is. -/
def scalarValue? : Json → Option Scalar
  | .bool b => some (.bool b)
  | .number x => some (.number x)
  | .text s => some (.text s)
  | _ => none

/-- The source of a formula cell: its formula, or its value if that says
nothing. -/
def sourceField (fields : Json.Fields) : Json :=
  let formula := (Json.getField? fields "formula").getD .null
  if formula.isFalsy then (Json.getField? fields "value").getD .null else formula

/-- The cell of a value, with its type and format fields. -/
def ofValueField? (value type format : Option Json) : Option Cell :=
  match value with
  | none | some .null => some .blank
  | some value => do
      return .plain (← scalarValue? value) (← kindField? type) (← formatField? format)

/-- The cell that the fields of an object store. -/
def ofFields? (fields : Json.Fields) : Option Cell :=
  let value := Json.getField? fields "value"
  let format := Json.getField? fields "format"
  match Json.getField? fields "type" with
  | some (.text type) =>
      if type = formulaTypeName then
        match sourceField fields with
        | .text source =>
            if h : source = "" then
              ofValueField? value none format
            else do
              return .formula source h (← formatField? format)
        | _ => ofValueField? value none format
      else
        ofValueField? value (some (.text type)) format
  | type => ofValueField? value type format

/-- The cell that a structured value stores. -/
def ofRecord? : Json → Option Cell
  | .object fields => ofFields? fields
  | _ => none

/-- A field, unless it is missing. -/
def optionalField (key : String) : Option String → Json.Fields
  | none => []
  | some s => [(key, .text s)]

/-- The object that stores a cell. -/
def record : Cell → Json
  | .blank => .object [("type", .text Kind.text.name)]
  | .plain value kind format =>
      .object ([("value", Json.ofScalar value), ("type", .text kind.name)]
        ++ optionalField "format" format)
  | .formula source _ format =>
      .object ([("value", .text source), ("type", .text formulaTypeName),
        ("formula", .text source)] ++ optionalField "format" format)

section Lemmas

@[simp] theorem scalarValue?_ofScalar
    (value : Scalar) :
    scalarValue? (Json.ofScalar value) = some value := by
  cases value <;> rfl

theorem ofScalar_ne_null
    (value : Scalar) :
    Json.ofScalar value ≠ .null := by
  cases value <;> simp [Json.ofScalar]

theorem name_ne_formulaTypeName
    (kind : Kind) :
    kind.name ≠ formulaTypeName := by
  cases kind <;> decide

theorem ofValueField?_ofScalar
    (value : Scalar) (kind : Kind) (type format : Option Json) (f : Option String)
    (hkind : kindField? type = some kind)
    (hformat : formatField? format = some f) :
    ofValueField? (some (Json.ofScalar value)) type format = some (.plain value kind f) := by
  cases value <;> simp [ofValueField?, Json.ofScalar, scalarValue?, hkind, hformat]

/-- A stored cell reads back as itself. -/
theorem ofRecord?_record
    (c : Cell) :
    ofRecord? c.record = some c := by
  cases c with
  | blank => rfl
  | plain value kind format =>
      have hkind : kindField? (some (.text kind.name)) = some kind := by simp [kindField?]
      cases format with
      | none =>
          have h := ofValueField?_ofScalar value kind _ none none hkind rfl
          simpa [record, ofRecord?, ofFields?, optionalField, Json.getField?, List.lookup_cons,
            name_ne_formulaTypeName] using h
      | some f =>
          have h := ofValueField?_ofScalar value kind _ (some (.text f)) (some f) hkind rfl
          simpa [record, ofRecord?, ofFields?, optionalField, Json.getField?, List.lookup_cons,
            name_ne_formulaTypeName] using h
  | formula source h format =>
      cases format <;>
        simp [record, ofRecord?, ofFields?, optionalField, Json.getField?, List.lookup_cons,
          sourceField, Json.isFalsy, h, formatField?]

end Lemmas

end Cell
end Spreadsheet
