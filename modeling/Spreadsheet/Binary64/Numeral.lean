import Spreadsheet.Binary64.Shortest

/-!
# Numerals

How a binary number is written: its shortest digits laid out by a
`NumeralStyle`, or rounded to fixed places with its thousands grouped.

Result: grouping adds commas and nothing else (`filter_groupThousands`).
-/

namespace Spreadsheet

/-- The choices of a numeral: which exponents of the leading digit are written
positionally, what follows a whole number, and the names of the numbers that
have no digits. -/
structure NumeralStyle where
  positional : Int → Bool
  wholeEnding : String
  infinity : String
  undefined : String

/-- Text interchange and messages: positional between `10 ^ -4` and `10 ^ 16`,
a whole number ending in `.0`. -/
def NumeralStyle.standard : NumeralStyle where
  positional e := -4 ≤ e && e < 16
  wholeEnding := ".0"
  infinity := "inf"
  undefined := "nan"

/-- Cells and formulas: always positional. -/
def NumeralStyle.plain : NumeralStyle where
  positional _ := true
  wholeEnding := ""
  infinity := "inf"
  undefined := "nan"

namespace Decimal

/-- The decimal digits, highest first, without zeros at the end. -/
def significantDigits (d : Decimal) : List Char :=
  ((Nat.toDigits 10 d.digits).reverse.dropWhile (· == '0')).reverse

/-- Digits with the point after the first `whole` of them. -/
def placePoint (style : NumeralStyle) (digits : List Char) (whole : Int) : List Char :=
  if whole ≤ 0 then
    '0' :: '.' :: (List.replicate (-whole).toNat '0' ++ digits)
  else if (digits.length : Int) ≤ whole then
    digits ++ List.replicate (whole.toNat - digits.length) '0' ++ style.wholeEnding.toList
  else
    digits.take whole.toNat ++ '.' :: digits.drop whole.toNat

/-- One digit, the others behind a point, and the exponent of the first with
its sign and at least two digits. -/
def scientific (digits : List Char) (exponent : Int) : List Char :=
  let mantissa :=
    match digits with
    | [] => ['0']
    | [c] => [c]
    | c :: r => c :: '.' :: r
  let power := Nat.toDigits 10 exponent.natAbs
  let power := if power.length < 2 then '0' :: power else power
  mantissa ++ 'e' :: (if exponent < 0 then '-' else '+') :: power

/-- A positive decimal written in a style. -/
def numeral (style : NumeralStyle) (d : Decimal) : List Char :=
  let digits := d.significantDigits
  let whole := d.exponent + (Nat.toDigits 10 d.digits).length
  if style.positional (whole - 1) then
    placePoint style digits whole
  else
    scientific digits (whole - 1)

end Decimal

/-- A comma before every complete group of three, counted from the front. -/
def groupThrees : List Char → List Char
  | a :: b :: c :: d :: r => a :: b :: c :: ',' :: groupThrees (d :: r)
  | s => s

/-- Digits with a comma before every complete group of three counted from the
end. -/
def groupThousands (digits : List Char) : List Char :=
  (groupThrees digits.reverse).reverse

/-- A quotient with a fixed number of places, half to even, thousands grouped. -/
def fixedPoint (places n d : Nat) : List Char :=
  let scaled := roundDiv (n * Nat.pow 10 places) d
  let fraction := Nat.toDigits 10 (scaled % Nat.pow 10 places)
  groupThousands (Nat.toDigits 10 (scaled / Nat.pow 10 places))
    ++ '.' :: (List.replicate (places - fraction.length) '0' ++ fraction)

namespace Binary64

/-- The minus sign of a negative number. -/
def signText (negative : Bool) : List Char :=
  if negative then ['-'] else []

/-- A number in its shortest digits. -/
def numeral (style : NumeralStyle) : Binary64 → List Char
  | .finite negative units _ =>
      let digits :=
        if units = 0 then '0' :: style.wholeEnding.toList
        else (shortest units).numeral style
      signText negative ++ digits
  | .infinite negative => signText negative ++ style.infinity.toList
  | .nan => style.undefined.toList

/-- A number rounded to fixed places, thousands grouped. -/
def fixed (places : Nat) : Binary64 → List Char
  | .finite negative units _ => signText negative ++ fixedPoint places units unitsPerOne
  | .infinite negative => signText negative ++ "inf".toList
  | .nan => "nan".toList

end Binary64

section Lemmas

theorem filter_groupThrees
    {p : Char → Bool}
    (hp : p ',' = false)
    (s : List Char) :
    (groupThrees s).filter p = s.filter p := by
  fun_induction groupThrees s with
  | case1 a b c d r ih =>
      show ([a, b, c, ','] ++ groupThrees (d :: r)).filter p = ([a, b, c] ++ d :: r).filter p
      rw [List.filter_append, List.filter_append, ih]
      simp [List.filter_cons, hp]
  | case2 s => rfl

/-- Grouping adds commas and nothing else. -/
theorem filter_groupThousands
    {p : Char → Bool}
    (hp : p ',' = false)
    (s : List Char) :
    (groupThousands s).filter p = s.filter p := by
  rw [groupThousands, List.filter_reverse, filter_groupThrees hp, ← List.filter_reverse,
    List.reverse_reverse]

end Lemmas

end Spreadsheet
