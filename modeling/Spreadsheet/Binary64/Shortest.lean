import Spreadsheet.Binary64.Rounding

/-!
# Shortest decimal form of a binary number

Of all decimals that round to a given positive number, the one with the fewest
digits; among those, the nearest, a tie going to the even last digit.  For one
digit, two digits, and so on up to seventeen, the two neighbours of the number
on that decimal grid are tested for lying within the interval of reals that
round to it.

Result: a grid answers only with a decimal that reads back
(`readsBack_of_onGrid`).
-/

namespace Spreadsheet

/-- `digits * 10 ^ exponent`. -/
structure Decimal where
  digits : Nat
  exponent : Int
deriving DecidableEq, Repr

namespace Decimal

/-- The decimal as a quotient of multiples of the smallest binary number. -/
def quotient (d : Decimal) : Nat × Nat :=
  if 0 ≤ d.exponent then
    (d.digits * Nat.pow 10 d.exponent.toNat * Binary64.unitsPerOne, 1)
  else
    (d.digits * Binary64.unitsPerOne, Nat.pow 10 (-d.exponent).toNat)

end Decimal

namespace Binary64

/-- The last bit of the significand is zero, so that ties round here. -/
def hasEvenSignificand (units : Nat) : Bool :=
  (units / Nat.pow 2 (gap units)) % 2 == 0

/-- The lower end, in half units, of the reals that round to this magnitude. -/
def lowEnd (units : Nat) : Nat :=
  if units = Nat.pow 2 (52 + gap units) ∧ 0 < gap units then
    2 * units - Nat.pow 2 (gap units) / 2
  else
    2 * units - Nat.pow 2 (gap units)

/-- The upper end, in half units, of the reals that round to this magnitude. -/
def highEnd (units : Nat) : Nat :=
  2 * units + Nat.pow 2 (gap units)

/-- The decimal rounds to this magnitude. -/
def readsBack (units : Nat) (d : Decimal) : Bool :=
  let (n, m) := d.quotient
  if hasEvenSignificand units then
    lowEnd units * m ≤ 2 * n && 2 * n ≤ highEnd units * m
  else
    lowEnd units * m < 2 * n && 2 * n < highEnd units * m

/-- The largest decimal with this exponent that does not exceed the magnitude. -/
def floorOnGrid (units : Nat) (exponent : Int) : Decimal :=
  if 0 ≤ exponent then
    ⟨units / (Nat.pow 10 exponent.toNat * unitsPerOne), exponent⟩
  else
    ⟨units * Nat.pow 10 (-exponent).toNat / unitsPerOne, exponent⟩

/-- The lower of two neighbours is the nearer, or as near and of even digits. -/
def prefersLower (units : Nat) (lower upper : Decimal) : Bool :=
  let (n, m) := lower.quotient
  let (n', _) := upper.quotient
  let below := units * m - n
  let above := n' - units * m
  below < above || (below == above && lower.digits % 2 == 0)

/-- The decimal with this exponent that reads back; of two the nearer, of two
as near the one whose last digit is even. -/
def onGrid (units : Nat) (exponent : Int) : Option Decimal :=
  let lower := floorOnGrid units exponent
  let upper : Decimal := ⟨lower.digits + 1, exponent⟩
  match readsBack units lower, readsBack units upper with
  | true, true => some (if prefersLower units lower upper then lower else upper)
  | true, false => some lower
  | false, true => some upper
  | false, false => none

/-- The exponent of the leading decimal digit of a positive magnitude. -/
def leadingExponent (units : Nat) : Int :=
  (decimalLength (units * Nat.pow 10 400 / unitsPerOne) : Int) - 401

/-- The shortest decimal that rounds to a positive magnitude. -/
def shortest (units : Nat) : Decimal :=
  let e := leadingExponent units
  ((List.range 17).findSome? fun (i : Nat) => onGrid units (e - i)).getD (floorOnGrid units (e - 16))

section Lemmas

theorem readsBack_of_onGrid
    {units : Nat} {exponent : Int} {d : Decimal}
    (h : onGrid units exponent = some d) :
    readsBack units d = true := by
  unfold onGrid at h
  simp only at h
  split at h
  · next hl hu =>
      split at h <;> (obtain rfl := Option.some.inj h; assumption)
  · next hl _ => obtain rfl := Option.some.inj h; exact hl
  · next _ hu => obtain rfl := Option.some.inj h; exact hu
  · exact absurd h (by simp)

end Lemmas

end Binary64
end Spreadsheet
