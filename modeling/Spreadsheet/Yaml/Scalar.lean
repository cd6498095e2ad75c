import Spreadsheet.Scalar
import Spreadsheet.Yaml.Stamp

/-!
# Words of settings files

What bare text in a settings file stands for: nothing, a truth value, a number
in one of several notations, or, failing all these, a text.  A day or a time is
a text too, if there is such a one.

An integer is written in decimal, in binary after `0b`, in octal after `0`, in
hexadecimal after `0x`, or as places to base sixty between colons; a binary
number has a point, and a power of ten only with a sign.  Lines between digits
do not count.

Result: bare text of no other kind is a text (`resolve_of_other`).
-/

namespace Spreadsheet
namespace Yaml

/-- The words for nothing. -/
def nullWords : List String := ["", "~", "null", "Null", "NULL"]

/-- The words for truth. -/
def trueWords : List String :=
  ["yes", "Yes", "YES", "true", "True", "TRUE", "on", "On", "ON"]

/-- The words for falsehood. -/
def falseWords : List String :=
  ["no", "No", "NO", "false", "False", "FALSE", "off", "Off", "OFF"]

/-- The words for an infinite number, without sign. -/
def infinityWords : List String := [".inf", ".Inf", ".INF"]

/-- The words for an undefined number. -/
def undefinedWords : List String := [".nan", ".NaN", ".NAN"]

/-- The words with a meaning of their own, which is none that a value has. -/
def reservedWords : List String := ["=", "<<"]

/-- A sign at the front of a word, and the rest. -/
def splitSign : List Char → Bool × List Char
  | '-' :: s => (true, s)
  | '+' :: s => (false, s)
  | s => (false, s)

/-- The digits of a word without the lines between them. -/
def withoutLines (s : List Char) : List Char := s.filter (· != '_')

/-- Digits to a base and lines, one of them at least. -/
def isDigits (base : Nat) (s : List Char) : Bool :=
  !s.isEmpty && s.all fun c => c == '_' || (digitValue? base c).isSome

/-- Decimal digits and lines, beginning with a digit. -/
def isDecimal (s : List Char) : Bool :=
  s.head?.any Char.isDigit && isDigits 10 s

/-- The parts of a text between colons. -/
def splitColons : List Char → List Char × List (List Char)
  | [] => ([], [])
  | c :: s =>
      let (first, more) := splitColons s
      if c == ':' then ([], first :: more) else (c :: first, more)

/-- A place of a number to base sixty after the first one. -/
def isSixtieth : List Char → Bool
  | [c] => c.isDigit
  | [c, d] => '0' ≤ c && c ≤ '5' && d.isDigit
  | _ => false

/-- The number that digits to a base write, which there must be. -/
def number (base : Nat) (s : List Char) : Except Fault Nat :=
  let s := withoutLines s
  match s, digits? base s with
  | _ :: _, some n => .ok n
  | _, _ => .error .unrepresentable

/-- The number that places to base sixty write after the first one. -/
def sexagesimal (first : Int) (places : List (List Char)) : Int :=
  places.foldl (fun n place => n * 60 + (Text.decimalNat place : Int)) first

/-- The natural number that a word without sign writes, if it writes one. -/
def natural? (s : List Char) : Option (Except Fault Int) :=
  let ofNat (n : Nat) : Int := n
  match s with
  | ['0'] => some (.ok 0)
  | '0' :: 'b' :: rest =>
      if isDigits 2 rest then some ((number 2 rest).map ofNat) else none
  | '0' :: 'x' :: rest =>
      if isDigits 16 rest then some ((number 16 rest).map ofNat) else none
  | '0' :: rest =>
      if isDigits 8 rest then some ((number 8 ('0' :: rest)).map ofNat) else none
  | s =>
      let (first, places) := splitColons s
      if isDecimal first && places.all isSixtieth then
        some ((Numeral.integer false (withoutLines first)).map fun n => sexagesimal n places)
      else
        none

/-- The integer that a word writes, if it writes one. -/
def integer? (s : List Char) : Option (Except Fault Int) :=
  let (negative, s) := splitSign s
  (natural? s).map fun n => n.map fun n => if negative then -n else n

/-- The power of ten at the end of a word, zero if there is none. -/
def power? : List Char → Option Int
  | [] => some 0
  | e :: sign :: digits =>
      if (e = 'e' ∨ e = 'E') ∧ (sign = '+' ∨ sign = '-') ∧ digits ≠ []
          ∧ digits.all Char.isDigit then
        let n : Int := Text.decimalNat digits
        some (if sign = '-' then -n else n)
      else
        none
  | _ => none

/-- The number with a point that a word without sign writes. -/
def pointed? (s : List Char) : Option Binary64 :=
  let isDigitOrLine (c : Char) := c.isDigit || c == '_'
  let whole := s.takeWhile isDigitOrLine
  match s.dropWhile isDigitOrLine with
  | '.' :: rest =>
      let fraction := withoutLines (rest.takeWhile isDigitOrLine)
      (power? (rest.dropWhile isDigitOrLine)).map fun power =>
        Binary64.ofDecimal false (Text.decimalNat (withoutLines whole ++ fraction))
          (power - (fraction.length : Int))
  | _ => none

/-- The sum of places to base sixty, the last one first; `weight` is what one
counts at the place. -/
def weigh (weight : Nat) (total : Number) : List Number → Except Fault Number
  | [] => .ok total
  | x :: more => do weigh (weight * 60) (← total.add (← x.mul (.int weight))) more

/-- The number with a point whose whole part is written in places to base sixty. -/
def pointedSexagesimal? (s : List Char) : Option (Except Fault Number) :=
  let (first, places) := splitColons s
  match places.reverse with
  | [] => none
  | last :: between =>
      let isLast := match last.span (· != '.') with
        | (whole, '.' :: fraction) =>
            isSixtieth whole && fraction.all fun c => c.isDigit || c == '_'
        | _ => false
      if isDecimal first && isLast && between.all isSixtieth then do
        let last ← pointed? last
        let whole (digits : List Char) : Number :=
          .float (Binary64.ofDecimal false (Text.decimalNat (withoutLines digits)) 0)
        some (weigh 1 (.float Binary64.zero)
          (.float last :: between.map whole ++ [whole first]))
      else
        none

/-- The binary number that a word writes, if it writes one: digits before the
point, or at least one behind it and then no sign. -/
def binary? (s : List Char) : Option (Except Fault Number) :=
  let (negative, rest) := splitSign s
  let signed (x : Number) := if negative then x.neg else x
  if infinityWords.contains (String.ofList rest) then
    some (.ok (.float (.infinite negative)))
  else if undefinedWords.contains (String.ofList s) then
    some (.ok (.float .nan))
  else
    let isPointed := match rest with
      | '.' :: c :: _ => c.isDigit && rest = s
      | c :: _ => c.isDigit
      | [] => false
    if isPointed then
      match pointed? rest with
      | some x => some (.ok (signed (.float x)))
      | none => (pointedSexagesimal? rest).map fun x => x.map signed
    else
      none

/-- What bare text stands for, nothing being the missing scalar. -/
def resolve (s : List Char) : Except Fault (Option Scalar) :=
  let word := String.ofList s
  if nullWords.contains word then .ok none
  else if trueWords.contains word then .ok (some (.bool true))
  else if falseWords.contains word then .ok (some (.bool false))
  else if reservedWords.contains word then .error (.unreadableSettings .value)
  else
    match binary? s, integer? s, stamp? s with
    | some x, _, _ => x.map fun x => some (.number x)
    | none, some i, _ => i.map fun i => some (.number (.int i))
    | none, none, some (.error fault) => .error fault
    | none, none, _ => .ok (some (.text word))

section Lemmas

theorem resolve_of_other
    {s : List Char}
    (hnull : String.ofList s ∉ nullWords)
    (htrue : String.ofList s ∉ trueWords)
    (hfalse : String.ofList s ∉ falseWords)
    (hreserved : String.ofList s ∉ reservedWords)
    (hbinary : binary? s = none)
    (hinteger : integer? s = none)
    (hstamp : stamp? s = none) :
    resolve s = .ok (some (.text (String.ofList s))) := by
  simp [resolve, hnull, htrue, hfalse, hreserved, hbinary, hinteger, hstamp]

end Lemmas

end Yaml
end Spreadsheet
