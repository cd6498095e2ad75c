import Spreadsheet.Text.Utf8

/-!
# Request targets

The path and the query of a web address.  The query is a list of fields, of
which a later one counts before an earlier one of the same name.  In both, a
percent sign with two hexadecimal digits stands for a byte; in the query a plus
sign stands for a blank.

Results: text without signs to be undone is left alone (`unescape_of_plain`),
and a field stands under its name (`field?_singleton`).
-/

namespace Spreadsheet

/-- What a web address asks for. -/
structure Target where
  path : String
  query : List (String × String)
deriving DecidableEq, Repr

namespace Target

/-- The value of a hexadecimal digit. -/
def hexValue? (c : Char) : Option Nat :=
  if c.isDigit then some (c.toNat - 0x30)
  else if 'a' ≤ c ∧ c ≤ 'f' then some (c.toNat - 0x57)
  else if 'A' ≤ c ∧ c ≤ 'F' then some (c.toNat - 0x37)
  else none

/-- The byte that two hexadecimal digits write. -/
def byte? (high low : Char) : Option Nat := do
  return 16 * (← hexValue? high) + (← hexValue? low)

/-- The bytes of a text with percent signs undone. -/
def unescapedBytes : List Char → List Nat
  | '%' :: high :: low :: rest =>
      match byte? high low with
      | some b => b :: unescapedBytes rest
      | none => Text.bytesOf '%' ++ unescapedBytes (high :: low :: rest)
  | c :: rest => Text.bytesOf c ++ unescapedBytes rest
  | [] => []

/-- The text with percent signs undone. -/
def unescape (s : List Char) : List Char :=
  if s.contains '%' then Text.decode (unescapedBytes s) else s

/-- A part of a query as it was meant. -/
def queryText (s : List Char) : String :=
  String.ofList (unescape (s.map fun c => if c = '+' then ' ' else c))

/-- The name and the value of a part of a query; without an equals sign the
value is empty. -/
def queryField (part : List Char) : String × String :=
  (queryText (part.takeWhile (· != '=')), queryText ((part.dropWhile (· != '=')).drop 1))

/-- The fields of a query. -/
def queryFields (s : List Char) : List (String × String) :=
  ((s.splitOn '&').filter fun part => !part.isEmpty).map queryField

/-- The path and the query of an address. -/
def ofText (address : String) : Target :=
  let s := address.toList.takeWhile (· != '#')
  let path := s.takeWhile (· != '?')
  let query := (s.dropWhile (· != '?')).drop 1
  ⟨String.ofList ('/' :: unescape (path.dropWhile (· == '/'))), queryFields query⟩

/-- The value of the last field of a name. -/
def field? (t : Target) (name : String) : Option String :=
  t.query.reverse.lookup name

section Lemmas

theorem unescape_of_plain
    {s : List Char}
    (h : '%' ∉ s) :
    unescape s = s := by
  simp [unescape, h]

theorem field?_singleton
    (path name value : String) :
    (Target.mk path [(name, value)]).field? name = some value := by
  simp [field?]

end Lemmas

end Target
end Spreadsheet
