import Spreadsheet.Number.Reader

/-!
# Tokens of structured values

Texts, numbers, names, brackets and separators.  Blanks are the space, the tab
and the two line-end characters.  A text stands between double quotes and holds
no control character; a number has no needless zeros, and a decimal point or a
power of ten makes it a binary number, which may be infinite.
-/

namespace Spreadsheet
namespace Json

/-- The tokens. -/
inductive Token where
  | null
  | bool (b : Bool)
  | number (x : Number)
  | text (s : String)
  | openArray
  | closeArray
  | openObject
  | closeObject
  | comma
  | colon
  /-- An integer of too many digits. -/
  | tooLong
  /-- Text that is no token. -/
  | stray
deriving DecidableEq

/-- The value of a hexadecimal digit. -/
def hexDigit? (c : Char) : Option Nat :=
  let n := c.toNat
  if 0x30 ≤ n ∧ n ≤ 0x39 then some (n - 0x30)
  else if 0x41 ≤ n ∧ n ≤ 0x46 then some (n - 0x37)
  else if 0x61 ≤ n ∧ n ≤ 0x66 then some (n - 0x57)
  else none

/-- The number that four hexadecimal digits write. -/
def hexUnit? (a b c d : Char) : Option Nat := do
  return (((← hexDigit? a) * 16 + (← hexDigit? b)) * 16 + (← hexDigit? c)) * 16 + (← hexDigit? d)

/-- The first unit of a pair that encodes one character. -/
def isHighUnit (n : Nat) : Bool := 0xd800 ≤ n && n < 0xdc00

/-- The second unit of a pair that encodes one character. -/
def isLowUnit (n : Nat) : Bool := 0xdc00 ≤ n && n < 0xe000

/-- The character of a code; half a pair becomes the replacement character. -/
def charOfCode (n : Nat) : Char :=
  if n.isValidChar then Char.ofNat n else '\ufffd'

/-- The character that a letter after a backslash stands for. -/
def escaped? : Char → Option Char
  | '"' => some '"'
  | '\\' => some '\\'
  | '/' => some '/'
  | 'b' => some '\x08'
  | 'f' => some '\x0c'
  | 'n' => some '\n'
  | 'r' => some '\r'
  | 't' => some '\t'
  | _ => none

/-- The rest of a text after its opening quote, with `done` (reversed) already
read, and what follows the closing quote. -/
def scanText (done : List Char) : List Char → Option (List Char × List Char)
  | [] => none
  | '"' :: s => some (done.reverse, s)
  | '\\' :: 'u' :: a :: b :: c :: d :: '\\' :: 'u' :: e :: f :: g :: h :: s =>
      match hexUnit? a b c d with
      | none => none
      | some high =>
          match hexUnit? e f g h with
          | some low =>
              if isHighUnit high && isLowUnit low then
                scanText
                  (charOfCode (0x10000 + (high - 0xd800) * 0x400 + (low - 0xdc00)) :: done) s
              else
                scanText (charOfCode high :: done) ('\\' :: 'u' :: e :: f :: g :: h :: s)
          | none => none
  | '\\' :: 'u' :: a :: b :: c :: d :: s =>
      match hexUnit? a b c d with
      | some n => scanText (charOfCode n :: done) s
      | none => none
  | '\\' :: c :: s =>
      match escaped? c with
      | some e => scanText (e :: done) s
      | none => none
  | c :: s => if c.toNat < 0x20 then none else scanText (c :: done) s
termination_by s => s.length

/-- The digits of a whole number at the front of a text, without needless
zeros. -/
def scanWhole? : List Char → Option (List Char × List Char)
  | '0' :: s => some (['0'], s)
  | c :: s =>
      if c.isDigit then
        some (c :: s.takeWhile Char.isDigit, s.dropWhile Char.isDigit)
      else
        none
  | [] => none

/-- A point and digits at the front of a text. -/
def scanFraction : List Char → Option (List Char) × List Char
  | '.' :: c :: s =>
      if c.isDigit then
        (some (c :: s.takeWhile Char.isDigit), s.dropWhile Char.isDigit)
      else
        (none, '.' :: c :: s)
  | s => (none, s)

/-- A power of ten at the front of a text. -/
def scanPower (s : List Char) : Option (Bool × List Char) × List Char :=
  match s with
  | 'e' :: t | 'E' :: t =>
      let (negative, u) := Numeral.scanSign t
      let digits := u.takeWhile Char.isDigit
      if digits.isEmpty then (none, s) else (some (negative, digits), u.dropWhile Char.isDigit)
  | _ => (none, s)

/-- The token of a number. -/
def numberToken (n : Numeral) : Token :=
  if n.fraction.isNone && n.power.isNone then
    match Numeral.integer n.negative n.whole with
    | .ok i => .number (.int i)
    | .error _ => .tooLong
  else
    .number (.float n.toBinary64)

/-- The number at the front of a text without a sign, and the rest. -/
def scanNumber? (negative : Bool) (s : List Char) : Option (Token × List Char) :=
  match scanWhole? s with
  | none => none
  | some (whole, s₁) =>
      let (fraction, s₂) := scanFraction s₁
      let (power, s₃) := scanPower s₂
      some (numberToken ⟨negative, whole, fraction, power⟩, s₃)

/-- The token at the front of a text that starts with no blank, and the rest. -/
def scanToken (s : List Char) : Token × List Char :=
  match s with
  | '"' :: r =>
      match scanText [] r with
      | some (text, rest) => (.text (String.ofList text), rest)
      | none => (.stray, [])
  | '[' :: r => (.openArray, r)
  | ']' :: r => (.closeArray, r)
  | '\x7b' :: r => (.openObject, r)
  | '\x7d' :: r => (.closeObject, r)
  | ',' :: r => (.comma, r)
  | ':' :: r => (.colon, r)
  | 'n' :: 'u' :: 'l' :: 'l' :: r => (.null, r)
  | 't' :: 'r' :: 'u' :: 'e' :: r => (.bool true, r)
  | 'f' :: 'a' :: 'l' :: 's' :: 'e' :: r => (.bool false, r)
  | 'N' :: 'a' :: 'N' :: r => (.number (.float .nan), r)
  | 'I' :: 'n' :: 'f' :: 'i' :: 'n' :: 'i' :: 't' :: 'y' :: r =>
      (.number (.float (.infinite false)), r)
  | '-' :: 'I' :: 'n' :: 'f' :: 'i' :: 'n' :: 'i' :: 't' :: 'y' :: r =>
      (.number (.float (.infinite true)), r)
  | '-' :: r => (scanNumber? true r).getD (.stray, [])
  | r => (scanNumber? false r).getD (.stray, [])

/-- A blank between tokens. -/
def isGap (c : Char) : Bool :=
  c == ' ' || c == '\t' || c == '\n' || c == '\r'

set_option linter.unusedVariables false in
/-- The tokens of a text; nothing is read behind a stray one. -/
def tokens (s : List Char) : List Token :=
  match s with
  | [] => []
  | c :: r =>
      if isGap c then
        tokens r
      else
        let (token, rest) := scanToken (c :: r)
        if h : rest.length < (c :: r).length then
          token :: tokens rest
        else
          [.stray]
termination_by s.length
decreasing_by
  · simp
  · exact h

end Json
end Spreadsheet
