import Spreadsheet.Scalar

/-!
# Structured values

The data model of stored documents, settings and events.  The fields of an
object keep their order, and each key occurs once; integers and binary numbers
stay apart.

Results: setting a key makes it readable (`getField?_setField`) and leaves the
others alone (`getField?_setField_of_ne`).
-/

namespace Spreadsheet

/-- A structured value. -/
inductive Json where
  | null
  | bool (b : Bool)
  | number (x : Number)
  | text (s : String)
  | array (items : List Json)
  | object (fields : List (String × Json))

instance : Inhabited Json := ⟨.null⟩

namespace Json

/-- The fields of an object. -/
abbrev Fields := List (String × Json)

/-- The fields with a key set: in its place if it is there, else at the end. -/
def setField (fields : Fields) (key : String) (value : Json) : Fields :=
  match fields with
  | [] => [(key, value)]
  | (k, v) :: rest =>
      if k = key then (key, value) :: rest else (k, v) :: setField rest key value

/-- The value of a key. -/
def getField? (fields : Fields) (key : String) : Option Json :=
  fields.lookup key

/-- The fields without a key. -/
def eraseField (fields : Fields) (key : String) : Fields :=
  fields.filter fun field => field.1 != key

/-- The object of fields in which a later one replaces an earlier one of the
same key. -/
def ofFields (fields : Fields) : Json :=
  .object (fields.foldl (fun fs (k, v) => setField fs k v) [])

/-- The fields of one object over those of another. -/
def overlay (base above : Fields) : Fields :=
  above.foldl (fun fs (k, v) => setField fs k v) base

/-- A whole number. -/
def ofInt (i : Int) : Json := .number (.int i)

/-- A count. -/
def ofNat (n : Nat) : Json := .number (.int n)

/-- A scalar as a structured value. -/
def ofScalar : Scalar → Json
  | .bool b => .bool b
  | .number x => .number x
  | .text s => .text s

/-- A scalar that may be missing. -/
def ofValue : Option Scalar → Json
  | none => .null
  | some x => ofScalar x

/-- A text that may be missing. -/
def ofText? : Option String → Json
  | none => .null
  | some s => .text s

/-- The value counts as false in a condition: nothing, zero, or empty. -/
def isFalsy : Json → Bool
  | .null => true
  | .bool b => !b
  | .number x => x.isZero
  | .text s => s.isEmpty
  | .array items => items.isEmpty
  | .object fields => fields.isEmpty

section Lemmas

@[simp] theorem getField?_setField
    (fields : Fields) (key : String) (value : Json) :
    getField? (setField fields key value) key = some value := by
  induction fields with
  | nil => simp [setField, getField?]
  | cons field rest ih =>
      obtain ⟨k, v⟩ := field
      by_cases hk : k = key
      · simp [setField, getField?, hk]
      · have hb : (key == k) = false := by simpa using Ne.symm hk
        simpa [setField, getField?, hk, List.lookup_cons, hb] using ih

theorem getField?_setField_of_ne
    (fields : Fields) {key other : String} (value : Json)
    (h : other ≠ key) :
    getField? (setField fields key value) other = getField? fields other := by
  induction fields with
  | nil =>
      have hb : (other == key) = false := by simpa using h
      simp [setField, getField?, List.lookup_cons, hb]
  | cons field rest ih =>
      obtain ⟨k, v⟩ := field
      by_cases hk : k = key
      · subst hk
        have hb : (other == k) = false := by simpa using h
        simp [setField, getField?, List.lookup_cons, hb]
      · by_cases ho : other = k
        · subst ho
          simp [setField, getField?, hk]
        · have hb : (other == k) = false := by simpa using ho
          simpa [setField, getField?, hk, List.lookup_cons, hb] using ih

end Lemmas

end Json
end Spreadsheet
