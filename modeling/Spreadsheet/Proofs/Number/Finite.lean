import Spreadsheet.Proofs.Except
import Spreadsheet.Proofs.Number.Order
import Spreadsheet.Scalar

/-!
# Finite numbers

A number read from a text is finite, and so is what a scalar shows arithmetic if its own
number is.  The sum of finite numbers may be too large; divided by a count, a finite sum
stays finite.

Results: a finite number divided by a positive integer is finite (`isFinite_div`), and
a scalar that holds no infinite or undefined number shows none (`isFinite_coerceValue`).
-/

namespace Spreadsheet

section Lemmas

namespace Binary64

/-- A quotient that is at most a representable number is rounded to a finite one. -/
theorem isFinite_ofQuotient
    (negative : Bool) {n d u : Nat}
    (hd : 0 < d)
    (hu : Representable u)
    (h : n ≤ u * d) :
    (ofQuotient negative n d).isFinite = true := by
  have hnearest : nearest n d < limit :=
    calc
      nearest n d ≤ nearest (u * d) d := nearest_mono d h
      _ = u := nearest_mul_self hd hu
      _ < limit := hu.1
  rw [ofQuotient, dif_pos hnearest]
  rfl

theorem isFinite_of_unlessInfinite
    {negative : Bool} {n d : Nat} {x : Binary64}
    (h : (ofQuotient negative n d).unlessInfinite = some x) :
    x.isFinite = true := by
  unfold ofQuotient at h
  split at h
  · obtain rfl := Option.some.inj h
    rfl
  · cases h

/-- A positive integer is rounded to a number that is at least one. -/
theorem exists_units_of_ofInt?
    {count : Nat} {x : Binary64}
    (hcount : 0 < count)
    (h : ofInt? count = some x) :
    ∃ units fits, x = .finite false units fits ∧ unitsPerOne ≤ units := by
  have hsign : decide ((count : Int) < 0) = false := by simp
  have hone : nearest unitsPerOne 1 = unitsPerOne := by
    have := nearest_mul_self Nat.one_pos representable_unitsPerOne
    rwa [Nat.mul_one] at this
  have hle : unitsPerOne ≤ count * unitsPerOne := Nat.le_mul_of_pos_left _ hcount
  rw [ofInt?, hsign, Int.natAbs_natCast] at h
  unfold ofQuotient at h
  split at h
  · next hlimit =>
      obtain rfl := Option.some.inj h
      refine ⟨_, representable_nearest hlimit, rfl, ?_⟩
      calc
        unitsPerOne = nearest unitsPerOne 1 := hone.symm
        _ ≤ nearest (count * unitsPerOne) 1 := nearest_mono 1 hle
  · cases h

/-- Division by a number that is at least one leaves a finite number finite. -/
theorem isFinite_div
    {x : Binary64} {units : Nat}
    (hx : x.isFinite = true)
    (fits : Representable units)
    (hunits : unitsPerOne ≤ units) :
    (x.div (.finite false units fits)).isFinite = true := by
  have hpos := unitsPerOne_pos
  cases x with
  | infinite negative => cases hx
  | nan => cases hx
  | finite negative u hu =>
      have hne : units ≠ 0 := by omega
      simp only [div, hne, if_false]
      exact isFinite_ofQuotient _ (by omega) hu (Nat.mul_le_mul_left u hunits)

end Binary64

namespace Number

theorem div_float
    (x : Binary64) (y : Number) :
    (float x).div y = do return float (x.div (← y.toBinary64)) := by
  have hx : (float x).toBinary64 = .ok x := rfl
  cases y with
  | int j =>
      rw [div, hx]
      · exact bind_of_eq_ok rfl _
      · simp
  | float y => rfl

theorem exists_units_of_toBinary64
    {count : Nat} {x : Binary64}
    (hcount : 0 < count)
    (h : (int count).toBinary64 = .ok x) :
    ∃ units fits, x = .finite false units fits ∧ Binary64.unitsPerOne ≤ units := by
  rw [toBinary64] at h
  cases hx : Binary64.ofInt? count with
  | none =>
      rw [hx] at h
      cases h
  | some y =>
      rw [hx] at h
      obtain rfl := Except.ok.inj h
      exact Binary64.exists_units_of_ofInt? hcount hx

theorem isFinite_div
    {x quotient : Number} {count : Nat}
    (hx : x.isFinite = true)
    (hcount : 0 < count)
    (h : x.div (.int count) = .ok quotient) :
    quotient.isFinite = true := by
  cases x with
  | int i =>
      rw [div] at h
      generalize hquotient : Binary64.unlessInfinite _ = result at h
      cases result with
      | none => cases h
      | some y =>
          obtain rfl := Except.ok.inj h
          exact Binary64.isFinite_of_unlessInfinite hquotient
  | float x =>
      rw [div_float] at h
      obtain ⟨y, hy, h⟩ := bind_eq_ok_iff.1 h
      obtain rfl := Except.ok.inj h
      obtain ⟨units, fits, rfl, hunits⟩ := exists_units_of_toBinary64 hcount hy
      exact Binary64.isFinite_div hx fits hunits

/-- The number at the front of a text is finite. -/
theorem isFinite_coerceText
    {s : List Char} {x : Number}
    (h : coerceText s = .ok x) :
    x.isFinite = true := by
  unfold coerceText at h
  dsimp only at h
  split at h
  · next n _ _ =>
      cases hvalue : n.value? with
      | error fault => simp [hvalue, bind, Except.bind] at h
      | ok value =>
          simp only [hvalue, bind, Except.bind, pure, Except.pure, Except.ok.injEq] at h
          subst h
          cases value with
          | none => rfl
          | some x => exact value?_isFinite hvalue
  · obtain rfl := Except.ok.inj h
    rfl

end Number

/-- The value is no infinite or undefined number. -/
def IsFiniteValue (value : Option Scalar) : Prop :=
  ∀ x, value = some (.number x) → x.isFinite = true

theorem isFinite_coerceValue
    {value : Option Scalar} {x : Number}
    (hvalue : IsFiniteValue value)
    (h : coerceValue value = .ok x) :
    x.isFinite = true := by
  cases value with
  | none =>
      obtain rfl := Except.ok.inj h
      rfl
  | some scalar =>
      cases scalar with
      | bool b =>
          obtain rfl := Except.ok.inj h
          rfl
      | number y =>
          obtain rfl := Except.ok.inj h
          exact hvalue _ rfl
      | text s => exact Number.isFinite_coerceText h

end Lemmas

end Spreadsheet
