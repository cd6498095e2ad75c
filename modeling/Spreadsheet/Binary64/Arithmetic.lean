import Spreadsheet.Binary64.Rounding

/-!
# Arithmetic on binary numbers

Each operation is its exact result, rounded once.  The cases in which no exact
result exists (infinities, division by zero) follow the rules of the format.

Results: adding the positive zero changes no nonzero number
(`zero_add_of_ne_zero`), and it is its own double (`zero_add_zero`).
-/

namespace Spreadsheet
namespace Binary64

/-- The rounded sum. -/
def add : Binary64 → Binary64 → Binary64
  | .nan, _ => .nan
  | _, .nan => .nan
  | .infinite a, .infinite b => if a = b then .infinite a else .nan
  | .infinite a, .finite _ _ _ => .infinite a
  | .finite _ _ _, .infinite b => .infinite b
  | .finite a u _, .finite b v _ =>
      let sum := signedUnits a u + signedUnits b v
      if sum = 0 then
        .finite (a && b) 0 representable_zero
      else
        ofQuotient (decide (sum < 0)) sum.natAbs 1

/-- The rounded difference. -/
def sub (x y : Binary64) : Binary64 :=
  add x y.neg

/-- The rounded product. -/
def mul : Binary64 → Binary64 → Binary64
  | .nan, _ => .nan
  | _, .nan => .nan
  | .infinite a, .infinite b => .infinite (a != b)
  | .infinite a, .finite b v _ => if v = 0 then .nan else .infinite (a != b)
  | .finite a u _, .infinite b => if u = 0 then .nan else .infinite (a != b)
  | .finite a u _, .finite b v _ => ofQuotient (a != b) (u * v) unitsPerOne

/-- The rounded quotient. -/
def div : Binary64 → Binary64 → Binary64
  | .nan, _ => .nan
  | _, .nan => .nan
  | .infinite _, .infinite _ => .nan
  | .infinite a, .finite b _ _ => .infinite (a != b)
  | .finite a _ _, .infinite b => .finite (a != b) 0 representable_zero
  | .finite a u _, .finite b v _ =>
      if v = 0 then
        if u = 0 then .nan else .infinite (a != b)
      else
        ofQuotient (a != b) (u * unitsPerOne) v

section Lemmas

theorem sign_signedUnits
    {negative : Bool} {u : Nat}
    (hu : u ≠ 0) :
    decide (signedUnits negative u < 0) = negative := by
  cases negative with
  | false => simp [signedUnits]
  | true =>
      simp [signedUnits]
      omega

@[simp] theorem natAbs_signedUnits
    (negative : Bool) (u : Nat) :
    (signedUnits negative u).natAbs = u := by
  cases negative <;> simp [signedUnits]

/-- Adding the positive zero keeps every nonzero number. -/
theorem zero_add_of_ne_zero
    {negative : Bool} {u : Nat}
    (hu : Representable u)
    (hne : u ≠ 0) :
    add zero (.finite negative u hu) = .finite negative u hu := by
  have hs : signedUnits negative u ≠ 0 := by
    cases negative <;> simp [signedUnits] <;> omega
  have h := ofQuotient_mul_self negative (d := 1) (by decide) hu
  simp only [Nat.mul_one] at h
  have hz : signedUnits false 0 = 0 := rfl
  simp only [add, zero, hz, Int.zero_add, hs, if_false, sign_signedUnits hne,
    natAbs_signedUnits, h]

/-- Adding the positive zero to itself. -/
theorem zero_add_zero :
    add zero zero = zero := by
  simp [add, zero, signedUnits]

end Lemmas

end Binary64
end Spreadsheet
