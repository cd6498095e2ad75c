import Spreadsheet.Json.Lenient
import Spreadsheet.Session.Request
import Spreadsheet.Web.Target

/-!
# Incoming fields

The fields that a web request brings, in its query or as an object in its body,
each read as what it ought to be.  Numbers may be written as texts; a text is
not taken from a number.

Results: a field that was not sent has its usual value
(`queryNumber?_of_missing`), and what is accepted is within its bounds
(`queryNumber?_bounds`).
-/

namespace Spreadsheet

/-- What a web request brings. -/
structure Incoming where
  target : Target
  body : Option Json

namespace Incoming

/-- A number in the query, from `least` on and up to `greatest` if that is
given; `usual` if it was not sent. -/
def queryNumber? (r : Incoming) (name : String) (usual least : Int) (greatest : Option Int) :
    Option Int :=
  match r.target.field? name with
  | none => some usual
  | some text =>
      match Json.wholeText? text.toList with
      | some i => if least ≤ i ∧ greatest.all (i ≤ ·) then some i else none
      | none => none

/-- A text in the query. -/
def queryText? (r : Incoming) (name : String) : Option String :=
  r.target.field? name

/-- A single character in the query, if one was sent. -/
def queryMark? (r : Incoming) (name : String) : Option (Option String) :=
  match r.target.field? name with
  | none => some none
  | some text => if text.length = 1 then some (some text) else none

/-- The fields of the body. -/
def fields? (r : Incoming) : Option Json.Fields :=
  match r.body with
  | some (.object fields) => some fields
  | _ => none

end Incoming

namespace Json

/-- A whole number among fields. -/
def number? (fields : Fields) (name : String) : Option Int :=
  (getField? fields name).bind wholeNumber?

/-- A whole number among fields, `usual` if it was not sent. -/
def numberOr? (fields : Fields) (name : String) (usual : Int) : Option Int :=
  match getField? fields name with
  | none => some usual
  | some value => value.wholeNumber?

/-- A whole number among fields, if there is one. -/
def numberIfAny? (fields : Fields) (name : String) : Option (Option Int) :=
  match getField? fields name with
  | none | some .null => some none
  | some value => value.wholeNumber?.map some

/-- A truth value among fields, `usual` if it was not sent. -/
def truthOr? (fields : Fields) (name : String) (usual : Bool) : Option Bool :=
  match getField? fields name with
  | none => some usual
  | some value => value.truth?

/-- A text among fields. -/
def text? (fields : Fields) (name : String) : Option String :=
  match getField? fields name with
  | some (.text s) => some s
  | _ => none

/-- A text among fields, if there is one. -/
def textIfAny? (fields : Fields) (name : String) : Option (Option String) :=
  match getField? fields name with
  | none | some .null => some none
  | some (.text s) => some (some s)
  | _ => none

end Json

namespace CellEdit

/-- The edit that an incoming object asks for. -/
def ofIncoming? : Json → Option CellEdit
  | .object fields => do
      return ofTexts (← Json.text? fields "addr") (← Json.textIfAny? fields "value")
  | _ => none

end CellEdit

namespace Incoming

section Lemmas

theorem queryNumber?_of_missing
    {r : Incoming} {name : String} {usual least : Int} {greatest : Option Int}
    (h : r.target.field? name = none) :
    r.queryNumber? name usual least greatest = some usual := by
  simp [queryNumber?, h]

theorem queryNumber?_bounds
    {r : Incoming} {name : String} {usual least i : Int} {greatest : Option Int}
    (husual : least ≤ usual)
    (h : r.queryNumber? name usual least greatest = some i) :
    least ≤ i := by
  unfold queryNumber? at h
  split at h
  · exact Option.some.inj h ▸ husual
  · split at h
    · split at h
      · next hb =>
          obtain rfl := Option.some.inj h
          exact hb.1
      · simp at h
    · simp at h

end Lemmas

end Incoming
end Spreadsheet
