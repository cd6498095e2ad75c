import Spreadsheet.Json.Basic
import Spreadsheet.Text.Quoted

/-!
# Values in words

How a value reads inside a message: a text as it stands, any other value
described, with the texts inside it between quotes.

Results: a text stands for itself (`worded_text`), and nothing is called
`None` (`worded_null`).
-/

namespace Spreadsheet
namespace Json

/-- The word for a truth value. -/
def truthWord (b : Bool) : String :=
  if b then "True" else "False"

mutual

/-- A value as part of another. -/
def described : Json → Except Fault String
  | .null => .ok "None"
  | .bool b => .ok (truthWord b)
  | .number x => x.standard
  | .text s => .ok (Text.quoted s)
  | .array items => do
      return "[" ++ String.intercalate ", " (← describedItems items) ++ "]"
  | .object fields => do
      return "\x7b" ++ String.intercalate ", " (← describedFields fields) ++ "\x7d"

/-- The items of an array. -/
def describedItems : List Json → Except Fault (List String)
  | [] => .ok []
  | item :: rest => do
      let text ← described item
      return text :: (← describedItems rest)

/-- The fields of an object. -/
def describedFields : List (String × Json) → Except Fault (List String)
  | [] => .ok []
  | (key, value) :: rest => do
      let text ← described value
      return (Text.quoted key ++ ": " ++ text) :: (← describedFields rest)

end

/-- A value in words. -/
def worded : Json → Except Fault String
  | .text s => .ok s
  | value => described value

section Lemmas

@[simp] theorem worded_text
    (s : String) :
    worded (.text s) = .ok s := rfl

@[simp] theorem worded_null :
    worded .null = .ok "None" := by
  simp [worded, described]

end Lemmas

end Json
end Spreadsheet
