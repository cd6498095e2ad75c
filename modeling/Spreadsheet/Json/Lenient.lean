import Spreadsheet.Json.Basic
import Spreadsheet.Text.Blank
import Spreadsheet.Text.Digit

/-!
# Lenient values

Stored documents may write a whole number as a binary number without a
fraction, as digits in a text, or as a truth value, and a truth value as a
number or a word.

Results: a whole number is read as itself (`wholeNumber?_ofInt`), and so is a
truth value (`truth?_bool`).
-/

namespace Spreadsheet
namespace Json

/-- What is left of a text behind a zero: the further zeros and the underscores
among them go as well, but for the last character before a point or before the
end. -/
def afterZero? (last : Char) : List Char → Option (List Char)
  | [] => some [last]
  | c :: s =>
      if c = '0' ∨ c = '_' then afterZero? c s
      else if c = '.' then some (last :: c :: s)
      else if c.isDigit ∨ c = '-' then some (c :: s)
      else none

/-- The text less the zeros at its front. -/
def dropZeros? : List Char → Option (List Char)
  | [] => none
  | c :: s =>
      if c = '0' then afterZero? c s
      else if c.isDigit ∨ c = '-' then some (c :: s)
      else none

/-- The text less its sign and the zeros at its front; a minus sign stays. -/
def withoutZeros? : List Char → Option (List Char)
  | '+' :: '-' :: _ => none
  | '+' :: s => dropZeros? s
  | '-' :: s => (dropZeros? s).map ('-' :: ·)
  | s => dropZeros? s

/-- The text without a point behind which are only zeros. -/
def dropZeroFraction (s : List Char) : List Char :=
  match s.dropWhile (· != '.') with
  | '.' :: c :: fraction =>
      if (c :: fraction).all (· == '0') then s.takeWhile (· != '.') else s
  | _ => s

/-- Two underscores follow each other. -/
def hasDoubleMark : List Char → Bool
  | '_' :: '_' :: _ => true
  | _ :: s => hasDoubleMark s
  | [] => false

/-- The text without its underscores, if they stand alone and inside it. -/
def dropMarks? (s : List Char) : Option (List Char) :=
  if s.head? = some '_' ∨ s.getLast? = some '_' ∨ hasDoubleMark s then none
  else some (s.filter (· != '_'))

/-- The natural number that digits write, without a zero in front. -/
def plainNatural? (s : List Char) : Option Nat :=
  if s ≠ [] ∧ s.all Char.isDigit ∧ (s = ['0'] ∨ s.head? ≠ some '0')
      ∧ s.length ≤ digitLimit then
    some (Text.decimalNat s)
  else
    none

/-- The integer that digits write, behind a minus sign or not. -/
def plainInteger? : List Char → Option Int
  | '-' :: s => (plainNatural? s).map fun n => -(n : Int)
  | s => (plainNatural? s).map fun n => (n : Int)

/-- The whole number that digits in a text write.  White space around them and
zeros in front of them do not count, nor does a fraction of zeros; underscores
may part the digits. -/
def wholeText? (s : List Char) : Option Int := do
  let s ← withoutZeros? (Text.trimSpace s)
  plainInteger? (← dropMarks? (dropZeroFraction s))

/-- Binary numbers from here on are not taken for whole numbers. -/
def wholeLimit : Nat := Nat.pow 2 63

/-- The whole number that a value stands for. -/
def wholeNumber? : Json → Option Int
  | .bool b => some (if b then 1 else 0)
  | .number (.int i) => some i
  | .number (.float x) =>
      match x.toInt? with
      | some i => if i.natAbs < wholeLimit then some i else none
      | none => none
  | .text s => wholeText? s.toList
  | _ => none

/-- The words for truth. -/
def trueWords : List String := ["1", "on", "t", "true", "y", "yes"]

/-- The words for falsehood. -/
def falseWords : List String := ["0", "off", "f", "false", "n", "no"]

/-- The truth value that zero or one stands for. -/
def truthOfInt? (i : Int) : Option Bool :=
  if i = 0 then some false else if i = 1 then some true else none

/-- The truth value that a word stands for, in any letter case. -/
def truthOfWord? (s : String) : Option Bool :=
  let word := s.map Char.toLower
  if trueWords.contains word then some true
  else if falseWords.contains word then some false
  else none

/-- The truth value that a value stands for. -/
def truth? : Json → Option Bool
  | .bool b => some b
  | .number (.int i) => truthOfInt? i
  | .number (.float x) => x.toInt?.bind truthOfInt?
  | .text s => truthOfWord? s
  | _ => none

section Lemmas

@[simp] theorem wholeNumber?_ofInt
    (i : Int) :
    wholeNumber? (ofInt i) = some i := rfl

@[simp] theorem truth?_bool
    (b : Bool) :
    truth? (.bool b) = some b := rfl

end Lemmas

end Json
end Spreadsheet
