/-!
# Binary floating-point numbers

A finite number of the 64-bit binary format is a whole multiple of the smallest
positive one, `2 ^ -1074`, with at most 53 significant bits.  It is kept as its
sign and that multiple, so that every exact question about it is a question
about whole numbers; the two infinities and the undefined result stand apart.

Results: a number of at most 53 bits shifted left is representable
(`representable_mul_two_pow`).
-/

namespace Spreadsheet

namespace Binary64

/-- How many smallest positive numbers make one. -/
@[irreducible] def unitsPerOne : Nat := Nat.pow 2 1074

/-- The least multiple that is too large for a finite number. -/
@[irreducible] def limit : Nat := Nat.pow 2 2098

/-- The distance, as a power of two, between neighbours at this magnitude. -/
def gap (units : Nat) : Nat := units.log2 - 52

/-- At most 53 significant bits, and below the limit. -/
def Representable (units : Nat) : Prop :=
  units < limit ∧ Nat.pow 2 (gap units) ∣ units

instance (units : Nat) : Decidable (Representable units) :=
  inferInstanceAs (Decidable (_ ∧ _))

end Binary64

/-- A number of the 64-bit binary floating-point format. -/
inductive Binary64 where
  /-- `± units * 2 ^ -1074`. -/
  | finite (negative : Bool) (units : Nat) (fits : Binary64.Representable units)
  | infinite (negative : Bool)
  | nan
deriving DecidableEq

namespace Binary64

theorem unitsPerOne_pos :
    0 < unitsPerOne := by
  unfold unitsPerOne
  generalize 1074 = k
  exact Nat.two_pow_pos k

theorem limit_pos :
    0 < limit := by
  unfold limit
  generalize 2098 = k
  exact Nat.two_pow_pos k

theorem representable_zero :
    Representable 0 :=
  ⟨limit_pos, Nat.dvd_zero _⟩

/-- The positive zero. -/
def zero : Binary64 := .finite false 0 representable_zero

instance : Inhabited Binary64 := ⟨zero⟩

/-- The sign: the minus sign counts also on zero and infinity. -/
def isNegative : Binary64 → Bool
  | .finite negative _ _ => negative
  | .infinite negative => negative
  | .nan => false

/-- Neither infinite nor undefined. -/
def isFinite : Binary64 → Bool
  | .finite _ _ _ => true
  | _ => false

/-- The opposite number. -/
def neg : Binary64 → Binary64
  | .finite negative units fits => .finite (!negative) units fits
  | .infinite negative => .infinite (!negative)
  | .nan => .nan

/-- The magnitude. -/
def abs : Binary64 → Binary64
  | .finite _ units fits => .finite false units fits
  | .infinite _ => .infinite false
  | .nan => .nan

/-- The multiple of the smallest positive number, with its sign. -/
def signedUnits (negative : Bool) (units : Nat) : Int :=
  if negative then -(units : Int) else units

/-- The whole number that a finite number equals, if there is one. -/
def toInt? : Binary64 → Option Int
  | .finite negative units _ =>
      if units % unitsPerOne = 0 then
        some (signedUnits negative (units / unitsPerOne))
      else
        none
  | _ => none

/-- The whole part of a finite number, its fraction dropped. -/
def truncate? : Binary64 → Option Int
  | .finite negative units _ => some (signedUnits negative (units / unitsPerOne))
  | _ => none

section Lemmas

theorem representable_mul_two_pow
    {k s : Nat}
    (hk : k ≤ Nat.pow 2 53)
    (hlt : k * Nat.pow 2 s < limit) :
    Representable (k * Nat.pow 2 s) := by
  refine ⟨hlt, ?_⟩
  simp only [Nat.pow_eq] at hk ⊢
  rcases Nat.lt_or_eq_of_le hk with hk | rfl
  · rcases Nat.eq_zero_or_pos k with rfl | hpos
    · simp
    · have hne : k * 2 ^ s ≠ 0 :=
        Nat.mul_ne_zero (by omega) (Nat.ne_of_gt (Nat.pow_pos (by decide)))
      have hlog : (k * 2 ^ s).log2 < 53 + s := by
        rw [Nat.log2_lt hne, Nat.pow_add]
        exact Nat.mul_lt_mul_of_pos_right hk (Nat.pow_pos (by decide))
      exact Nat.dvd_trans (Nat.pow_dvd_pow 2 (by unfold gap; omega)) (Nat.dvd_mul_left _ _)
  · rw [← Nat.pow_add]
    refine Nat.pow_dvd_pow 2 ?_
    unfold gap
    rw [Nat.log2_two_pow]
    omega

@[simp] theorem neg_neg
    (x : Binary64) :
    x.neg.neg = x := by
  cases x <;> simp [neg]

end Lemmas

end Binary64
end Spreadsheet
