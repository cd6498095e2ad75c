import Spreadsheet.Json.Basic
import Spreadsheet.Text.Quoted

/-!
# Writing structured values

A `Layout` says how a value is written: on one line or indented, with the
characters beyond ASCII as they are or escaped, and whether a number that is
not finite may be written at all.

Result: a character that is no quote, backslash or control character stands for
itself (`escape_plain`).
-/

namespace Spreadsheet
namespace Json

/-- How structured values are written. -/
structure Layout where
  /-- The width of one step of indentation; without it all is on one line. -/
  indent : Option Nat
  asciiOnly : Bool
  finiteOnly : Bool

/-- Stored documents. -/
def Layout.document : Layout := ⟨some 2, false, true⟩

/-- Documents shown to a reader. -/
def Layout.shown : Layout := ⟨some 2, false, false⟩

/-- Lines of a log. -/
def Layout.line : Layout := ⟨none, true, false⟩

/-- A code unit by four hexadecimal digits. -/
def unitEscape (n : Nat) : List Char :=
  '\\' :: 'u' :: Text.hexDigits 4 n

/-- A character beyond ASCII by one code unit or a pair of them. -/
def wideEscape (n : Nat) : List Char :=
  if n < 0x10000 then
    unitEscape n
  else
    unitEscape (0xd800 + (n - 0x10000) / 0x400) ++ unitEscape (0xdc00 + (n - 0x10000) % 0x400)

/-- A character as it stands inside a text. -/
def escape (asciiOnly : Bool) (c : Char) : List Char :=
  if c = '"' then ['\\', '"']
  else if c = '\\' then ['\\', '\\']
  else if c = '\n' then ['\\', 'n']
  else if c = '\r' then ['\\', 'r']
  else if c = '\t' then ['\\', 't']
  else if c = '\x0c' then ['\\', 'f']
  else if c = '\x08' then ['\\', 'b']
  else if c.toNat < 0x20 then unitEscape c.toNat
  else if asciiOnly && 0x7f ≤ c.toNat then wideEscape c.toNat
  else [c]

/-- A text between double quotes. -/
def quotedText (asciiOnly : Bool) (s : String) : String :=
  String.ofList ('"' :: s.toList.flatMap (escape asciiOnly) ++ ['"'])

/-- Names of the binary numbers without digits. -/
def numberStyle : NumeralStyle :=
  { NumeralStyle.standard with infinity := "Infinity", undefined := "NaN" }

/-- A number, the shortest form that reads back. -/
def numberText (layout : Layout) : Number → Except Fault String
  | .int i => integerText i
  | .float x =>
      if layout.finiteOnly && !x.isFinite then
        .error .unrepresentable
      else
        .ok (String.ofList (x.numeral numberStyle))

/-- The line end and the indentation of a depth. -/
def lineBreak (width depth : Nat) : String :=
  String.ofList ('\n' :: List.replicate (width * depth) ' ')

/-- Parts between brackets, one on a line if the layout indents. -/
def bracket (layout : Layout) (depth : Nat) (opening closing : String) (parts : List String) :
    String :=
  if parts.isEmpty then
    opening ++ closing
  else
    match layout.indent with
    | none => opening ++ String.intercalate ", " parts ++ closing
    | some width =>
        let inner := lineBreak width (depth + 1)
        opening ++ inner ++ String.intercalate ("," ++ inner) parts ++ lineBreak width depth
          ++ closing

mutual

/-- A value at a depth of nesting. -/
def write (layout : Layout) (depth : Nat) : Json → Except Fault String
  | .null => .ok "null"
  | .bool true => .ok "true"
  | .bool false => .ok "false"
  | .number x => numberText layout x
  | .text s => .ok (quotedText layout.asciiOnly s)
  | .array items => do
      return bracket layout depth "[" "]" (← writeItems layout (depth + 1) items)
  | .object fields => do
      return bracket layout depth "\x7b" "\x7d" (← writeFields layout (depth + 1) fields)

/-- The items of an array. -/
def writeItems (layout : Layout) (depth : Nat) : List Json → Except Fault (List String)
  | [] => .ok []
  | item :: rest => do
      let text ← write layout depth item
      return text :: (← writeItems layout depth rest)

/-- The fields of an object. -/
def writeFields (layout : Layout) (depth : Nat) :
    List (String × Json) → Except Fault (List String)
  | [] => .ok []
  | (key, value) :: rest => do
      let text ← write layout depth value
      return (quotedText layout.asciiOnly key ++ ": " ++ text)
        :: (← writeFields layout depth rest)

end

/-- The text of a value. -/
def print (layout : Layout) (value : Json) : Except Fault String :=
  write layout 0 value

mutual

/-- The value with the fields of every object in the order of their keys. -/
def sortKeys : Json → Json
  | .array items => .array (sortItems items)
  | .object fields => .object ((sortFields fields).mergeSort fun a b => a.1 ≤ b.1)
  | value => value

/-- The items of an array, the fields of each in order. -/
def sortItems : List Json → List Json
  | [] => []
  | item :: rest => sortKeys item :: sortItems rest

/-- The fields of an object in their given order, the fields of each value in
order. -/
def sortFields : List (String × Json) → List (String × Json)
  | [] => []
  | (key, value) :: rest => (key, sortKeys value) :: sortFields rest

end

section Lemmas

theorem escape_plain
    {c : Char}
    (hq : c ≠ '"')
    (hb : c ≠ '\\')
    (hc : 0x20 ≤ c.toNat) :
    escape false c = [c] := by
  have hne : ∀ d : Char, d.toNat < 0x20 → c ≠ d := by
    rintro d hd rfl
    omega
  simp [escape, hq, hb, hne '\n' (by decide), hne '\r' (by decide), hne '\t' (by decide),
    hne '\x0c' (by decide), hne '\x08' (by decide), Nat.not_lt.2 hc]

end Lemmas

end Json
end Spreadsheet
