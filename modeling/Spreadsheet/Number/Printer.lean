import Spreadsheet.Binary64.Numeral
import Spreadsheet.Number.Basic

/-!
# Writing numbers

Four forms of a number: plain, as cells and formulas hold it; standard, as
messages and stored documents hold it; grouped, for display; and as an amount
of money.  An integer of more than `digitLimit` digits has no written form.

Results: the plain and the standard form of an integer agree
(`standard_int`), and a whole binary number is written plainly as the integer
it equals (`plain_whole`).
-/

namespace Spreadsheet

/-- The decimal text of an integer. -/
def integerText (i : Int) : Except Fault String :=
  if IsWritable i then .ok i.repr else .error .tooManyDigits

namespace Number

/-- Without grouping and exponent; a whole number without a point. -/
def plain : Number → Except Fault String
  | .int i => integerText i
  | .float x =>
      match x.toInt? with
      | some i => .ok i.repr
      | none => .ok (String.ofList (x.numeral .plain))

/-- The shortest form that is read back as the same number of the same kind. -/
def standard : Number → Except Fault String
  | .int i => integerText i
  | .float x => .ok (String.ofList (x.numeral .standard))

/-- An integer with its thousands grouped. -/
def groupedInteger (i : Int) : Except Fault String :=
  if IsWritable i then
    .ok (String.ofList (Binary64.signText (decide (i < 0))
      ++ groupThousands (Nat.toDigits 10 i.natAbs)))
  else
    .error .tooManyDigits

/-- The text less the occurrences of a character at its end. -/
def dropTrailing (c : Char) (s : List Char) : List Char :=
  (s.reverse.dropWhile (· == c)).reverse

/-- Thousands grouped and at most three places, zeros at the end dropped. -/
def grouped : Number → Except Fault String
  | .int i => groupedInteger i
  | .float x =>
      match x.toInt? with
      | some i => groupedInteger i
      | none =>
          let text := dropTrailing '.' (dropTrailing '0' (x.fixed 3))
          .ok (if text = ['-', '0'] then "0" else String.ofList text)

/-- A sign, the symbol, and the magnitude with two places. -/
def currency (symbol : String) (x : Number) : Except Fault String := do
  let magnitude ← x.abs.toBinary64
  let sign := if x.less (.int 0) then "-" else ""
  return sign ++ symbol ++ String.ofList (magnitude.fixed 2)

section Lemmas

theorem standard_int
    (i : Int) :
    standard (.int i) = plain (.int i) := rfl

theorem plain_whole
    {x : Binary64} {i : Int}
    (h : x.toInt? = some i) :
    plain (.float x) = .ok i.repr := by
  simp [plain, h]

end Lemmas

end Number
end Spreadsheet
