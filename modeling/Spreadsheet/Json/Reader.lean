import Spreadsheet.Json.Basic
import Spreadsheet.Json.Token

/-!
# Reading structured values

Tokens are read from left to right with a stack of the arrays and objects that
are still open.  The first token that cannot stand in its place ends the
reading.  Of several fields with one key the last counts.

Results: a finished value takes no further one (`readFrom_separator_value`),
and the empty text is no value (`parse_empty`).
-/

namespace Spreadsheet
namespace Json

/-- Why a text is no structured value. -/
inductive ReadFault where
  | malformed
  | tooManyDigits
deriving DecidableEq, Repr

/-- An array or object that is still open, its parts reversed. -/
inductive Opened where
  | array (items : List Json)
  | object (fields : Fields) (key : String)

/-- What may come next. -/
inductive Expected where
  | value
  | firstItem
  | firstKey (fields : Fields)
  | key (fields : Fields)
  | colon (fields : Fields) (key : String)
  | separator (done : Json)

/-- The value that a token is on its own. -/
def Token.value? : Token → Option Json
  | .null => some .null
  | .bool b => some (.bool b)
  | .number x => some (.number x)
  | .text s => some (.text s)
  | _ => none

/-- Reads on with a stack of open arrays and objects. -/
def readFrom (stack : List Opened) : Expected → List Token → Except ReadFault Json
  | .separator done, [] => if stack.isEmpty then .ok done else .error .malformed
  | _, [] => .error .malformed
  | expected, token :: rest =>
      let value (_ : Unit) : Except ReadFault Json :=
        match token with
        | .openArray => readFrom (.array [] :: stack) .firstItem rest
        | .openObject => readFrom stack (.firstKey []) rest
        | .tooLong => .error .tooManyDigits
        | token =>
            match token.value? with
            | some done => readFrom stack (.separator done) rest
            | none => .error .malformed
      let key (fields : Fields) : Except ReadFault Json :=
        match token with
        | .text key => readFrom stack (.colon fields key) rest
        | _ => .error .malformed
      match expected with
      | .value => value ()
      | .firstItem =>
          match token, stack with
          | .closeArray, .array items :: stack =>
              readFrom stack (.separator (.array items.reverse)) rest
          | _, _ => value ()
      | .firstKey fields =>
          match token with
          | .closeObject => readFrom stack (.separator (ofFields fields.reverse)) rest
          | _ => key fields
      | .key fields => key fields
      | .colon fields name =>
          match token with
          | .colon => readFrom (.object fields name :: stack) .value rest
          | _ => .error .malformed
      | .separator done =>
          match token, stack with
          | .comma, .array items :: stack => readFrom (.array (done :: items) :: stack) .value rest
          | .closeArray, .array items :: stack =>
              readFrom stack (.separator (.array (done :: items).reverse)) rest
          | .comma, .object fields name :: stack =>
              readFrom stack (.key ((name, done) :: fields)) rest
          | .closeObject, .object fields name :: stack =>
              readFrom stack (.separator (ofFields ((name, done) :: fields).reverse)) rest
          | _, _ => .error .malformed

/-- The structured value that a text writes. -/
def parse (s : String) : Except ReadFault Json :=
  readFrom [] .value (tokens s.toList)

section Lemmas

/-- A finished value takes no further value. -/
theorem readFrom_separator_value
    (stack : List Opened) (done : Json) (s : String) (rest : List Token) :
    readFrom stack (.separator done) (.text s :: rest) = .error .malformed := by
  cases stack with
  | nil => simp [readFrom]
  | cons o stack => cases o <;> simp [readFrom]

theorem parse_empty :
    (parse "").toOption.isNone = true := by
  simp [parse, tokens, readFrom, Except.toOption]

end Lemmas

end Json
end Spreadsheet
