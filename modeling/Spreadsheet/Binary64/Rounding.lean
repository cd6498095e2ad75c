import Spreadsheet.Binary64.Basic

/-!
# Rounding to a binary number

The number nearest to an exact quotient, a tie going to the even neighbour.
Sums, products, quotients, whole numbers and decimal fractions all come to be
numbers of the format through `ofQuotient`, so each is rounded once.

Results: the quotient is bracketed by its rounding (`roundDiv_le`,
`le_roundDiv`), what comes out is representable (`representable_nearest`), and
a quotient that is already a representable whole number of units is kept
(`nearest_mul_self`).
-/

namespace Spreadsheet

/-- The quotient to the nearest whole number, a half going to the even one. -/
def roundDiv (n d : Nat) : Nat :=
  let q := n / d
  let r := n % d
  if 2 * r < d then q
  else if d < 2 * r then q + 1
  else if q % 2 = 0 then q
  else q + 1

section RoundDiv

theorem le_roundDiv
    (n d : Nat) :
    n / d ≤ roundDiv n d := by
  unfold roundDiv
  dsimp only
  repeat' split
  all_goals omega

theorem roundDiv_le
    (n d : Nat) :
    roundDiv n d ≤ n / d + 1 := by
  unfold roundDiv
  dsimp only
  repeat' split
  all_goals omega

/-- An exact quotient is its own rounding. -/
theorem roundDiv_mul_self
    (k : Nat) {d : Nat}
    (hd : 0 < d) :
    roundDiv (k * d) d = k := by
  simp [roundDiv, Nat.mul_div_cancel _ hd, hd]

end RoundDiv

namespace Binary64

/-- The representable multiple nearest to `n / d` smallest numbers, the limit
apart. -/
def nearest (n d : Nat) : Nat :=
  let s := gap (n / d)
  roundDiv n (d * Nat.pow 2 s) * Nat.pow 2 s

theorem roundDiv_gap_le
    (n d : Nat) :
    roundDiv n (d * Nat.pow 2 (gap (n / d))) ≤ Nat.pow 2 53 := by
  simp only [Nat.pow_eq]
  have h := roundDiv_le n (d * 2 ^ gap (n / d))
  have hlt : n / (d * 2 ^ gap (n / d)) < 2 ^ 53 := by
    rw [← Nat.div_div_eq_div_mul, Nat.div_lt_iff_lt_mul (Nat.pow_pos (by decide)), ← Nat.pow_add]
    refine Nat.lt_of_lt_of_le Nat.lt_log2_self (Nat.pow_le_pow_right (by decide) ?_)
    unfold gap
    omega
  omega

theorem representable_nearest
    {n d : Nat}
    (h : nearest n d < limit) :
    Representable (nearest n d) :=
  representable_mul_two_pow (roundDiv_gap_le n d) h

/-- A representable whole number of units is its own rounding. -/
theorem nearest_mul_self
    {u d : Nat}
    (hd : 0 < d)
    (hu : Representable u) :
    nearest (u * d) d = u := by
  obtain ⟨k, hk⟩ := hu.2
  have hp : 0 < Nat.pow 2 (gap u) := Nat.pow_pos (by decide)
  have hdiv : u * d / d = u := Nat.mul_div_cancel _ hd
  have hround : roundDiv (u * d) (d * Nat.pow 2 (gap u)) = k := by
    have : u * d = k * (d * Nat.pow 2 (gap u)) := by
      rw [Nat.mul_left_comm, Nat.mul_comm k, ← hk, Nat.mul_comm]
    rw [this, roundDiv_mul_self k (Nat.mul_pos hd hp)]
  simp only [nearest, hdiv, hround]
  rw [Nat.mul_comm, ← hk]

/-- The number nearest to `n / d` smallest numbers, with a sign. -/
def ofQuotient (negative : Bool) (n d : Nat) : Binary64 :=
  if h : nearest n d < limit then
    .finite negative (nearest n d) (representable_nearest h)
  else
    .infinite negative

theorem ofQuotient_mul_self
    (negative : Bool) {u d : Nat}
    (hd : 0 < d)
    (hu : Representable u) :
    ofQuotient negative (u * d) d = .finite negative u hu := by
  have hn := nearest_mul_self hd hu
  simp [ofQuotient, hn, hu.1]

/-- The number, unless it is infinite. -/
def unlessInfinite : Binary64 → Option Binary64
  | .infinite _ => none
  | x => some x

/-- The number nearest to a whole number; `none` where that is infinite. -/
def ofInt? (i : Int) : Option Binary64 :=
  (ofQuotient (decide (i < 0)) (i.natAbs * unitsPerOne) 1).unlessInfinite

/-- How many decimal digits a number has; zero has none. -/
def decimalLength (n : Nat) : Nat :=
  if n = 0 then 0 else (Nat.toDigits 10 n).length

/-- The number nearest to `± m * 10 ^ e`.  A magnitude far outside the format
is settled by its number of digits, without computing the power. -/
def ofDecimal (negative : Bool) (m : Nat) (e : Int) : Binary64 :=
  if m = 0 ∨ decimalLength m + e < -400 then
    .finite negative 0 representable_zero
  else if 400 < decimalLength m + e then
    .infinite negative
  else if 0 ≤ e then
    ofQuotient negative (m * Nat.pow 10 e.toNat * unitsPerOne) 1
  else
    ofQuotient negative (m * unitsPerOne) (Nat.pow 10 (-e).toNat)

end Binary64
end Spreadsheet
