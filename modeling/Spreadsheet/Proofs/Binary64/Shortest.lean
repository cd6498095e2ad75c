import Mathlib.Tactic.LinearCombination
import Mathlib.Tactic.NormNum.Pow
import Spreadsheet.Proofs.Binary64.Interval

/-!
# The shortest decimal reads back

Seventeen digits always suffice: at the exponent of the seventeenth digit the
grid of decimals is finer than the interval that rounds to the number is wide,
so one of the two neighbours of the number on that grid lies within it.

Result: the shortest decimal is read as the number it was made from
(`readsBack_shortest`).
-/

namespace Spreadsheet
namespace Binary64

section Lemmas

variable {units : Nat}

theorem exponent_floorOnGrid
    (units : Nat) (exponent : Int) :
    (floorOnGrid units exponent).exponent = exponent := by
  unfold floorOnGrid
  split <;> rfl

/-- The neighbours of a magnitude on a grid are one step apart. -/
theorem floorOnGrid_bounds
    (units : Nat) (exponent : Int) :
    (floorOnGrid units exponent).value * unitsPerOne ≤ units
      ∧ (units : ℚ) < (floorOnGrid units exponent).value * unitsPerOne
          + 10 ^ exponent * unitsPerOne := by
  unfold floorOnGrid Decimal.value
  simp only [Nat.pow_eq]
  split
  · next h =>
      have hstep : 0 < 10 ^ exponent.toNat * unitsPerOne :=
        Nat.mul_pos (Nat.pow_pos (by decide)) unitsPerOne_pos
      have hlow := Nat.div_mul_le_self units (10 ^ exponent.toNat * unitsPerOne)
      have hhigh : units < _ := Nat.lt_div_mul_add hstep
      dsimp only
      generalize units / (10 ^ exponent.toNat * unitsPerOne) = q at hlow hhigh ⊢
      rw [← Nat.cast_le (α := ℚ)] at hlow
      rw [← Nat.cast_lt (α := ℚ)] at hhigh
      push_cast at hlow hhigh
      rw [Decimal.zpow_of_nonneg h, mul_assoc]
      exact ⟨hlow, hhigh⟩
  · next h =>
      have hpos : (0 : ℚ) < 10 ^ (-exponent).toNat := by positivity
      have hpow := Decimal.zpow_mul_pow_of_neg h
      have hlow := Nat.div_mul_le_self (units * 10 ^ (-exponent).toNat) unitsPerOne
      have hhigh : units * 10 ^ (-exponent).toNat < _ := Nat.lt_div_mul_add unitsPerOne_pos
      dsimp only
      generalize units * 10 ^ (-exponent).toNat / unitsPerOne = q at hlow hhigh ⊢
      rw [← Nat.cast_le (α := ℚ)] at hlow
      rw [← Nat.cast_lt (α := ℚ)] at hhigh
      push_cast at hlow hhigh
      have hscale : (q : ℚ) * 10 ^ exponent * unitsPerOne * 10 ^ (-exponent).toNat
          = q * unitsPerOne := by
        linear_combination (q * unitsPerOne : ℚ) * hpow
      have hstep : (10 : ℚ) ^ exponent * unitsPerOne * 10 ^ (-exponent).toNat
          = unitsPerOne := by
        linear_combination (unitsPerOne : ℚ) * hpow
      constructor
      · rw [← mul_le_mul_iff_left₀ hpos, hscale]
        exact hlow
      · rw [← mul_lt_mul_iff_left₀ hpos, add_mul, hscale, hstep]
        exact hhigh

/-- Steps of a grid that is fine beside the magnitude are shorter than the
interval that rounds to it. -/
theorem step_lt_of_fine
    {step : ℚ}
    (hu : Representable units)
    (hpos : 0 < units)
    (hfine : step * 10 ^ 16 ≤ units) :
    (lowEnd units : ℚ) + 2 * step < highEnd units := by
  have hgap : (0 : ℚ) < 2 ^ gap units := by positivity
  have hle := two_pow_gap_le_self hu hpos
  have hhigh : (highEnd units : ℚ) = 2 * units + 2 ^ gap units := by
    unfold highEnd
    rw [Nat.pow_eq]
    push_cast
    rfl
  by_cases hedge : units = 2 ^ (52 + gap units) ∧ 0 < gap units
  · have hunits : (units : ℚ) = 2 ^ 52 * 2 ^ gap units := by
      rw [← pow_add]
      exact_mod_cast hedge.1
    have hlow : (lowEnd units : ℚ) ≤ 2 * units := by
      rw [lowEnd_of_edge hedge]
      exact_mod_cast Nat.sub_le _ _
    rw [hhigh]
    norm_num at hfine hunits
    linarith
  · have hunits : (units : ℚ) < 2 ^ 53 * 2 ^ gap units := by
      rw [← pow_add]
      exact_mod_cast lt_two_pow_gap units
    have hlow : (lowEnd units : ℚ) = 2 * units - 2 ^ gap units := by
      rw [lowEnd_of_not_edge hedge, Nat.cast_sub (by omega)]
      push_cast
      rfl
    rw [hlow, hhigh]
    norm_num at hfine hunits
    linarith

theorem lowEnd_lt
    (hu : Representable units)
    (hpos : 0 < units) :
    lowEnd units < 2 * units := by
  have hself := two_pow_gap_le_self hu hpos
  have hgap := Nat.two_pow_pos (gap units)
  by_cases hedge : units = 2 ^ (52 + gap units) ∧ 0 < gap units
  · have heven : 2 ^ gap units / 2 = 2 ^ (gap units - 1) := Nat.pow_div hedge.2 (by decide)
    have hhalf := Nat.two_pow_pos (gap units - 1)
    rw [lowEnd_of_edge hedge]
    omega
  · rw [lowEnd_of_not_edge hedge]
    omega

theorem lt_highEnd
    (units : Nat) :
    2 * units < highEnd units := by
  have hgap := Nat.two_pow_pos (gap units)
  unfold highEnd
  rw [Nat.pow_eq]
  omega

/-- One of the two neighbours of a magnitude on a fine grid reads back. -/
theorem readsBack_neighbour
    {exponent : Int}
    (hu : Representable units)
    (hpos : 0 < units)
    (hfine : (10 : ℚ) ^ exponent * unitsPerOne * 10 ^ 16 ≤ units) :
    readsBack units (floorOnGrid units exponent) = true
      ∨ readsBack units ⟨(floorOnGrid units exponent).digits + 1, exponent⟩ = true := by
  obtain ⟨hlower, hupper⟩ := floorOnGrid_bounds units exponent
  have hwide := step_lt_of_fine hu hpos hfine
  have hvalue : Decimal.value ⟨(floorOnGrid units exponent).digits + 1, exponent⟩ * unitsPerOne
      = (floorOnGrid units exponent).value * unitsPerOne + 10 ^ exponent * unitsPerOne := by
    unfold Decimal.value
    rw [exponent_floorOnGrid]
    push_cast
    ring
  have hlow : (lowEnd units : ℚ) < 2 * units := by exact_mod_cast lowEnd_lt hu hpos
  have hhigh : (2 * units : ℚ) < highEnd units := by exact_mod_cast lt_highEnd units
  rw [readsBack_iff, readsBack_iff, hvalue]
  by_contra hneither
  rw [not_or] at hneither
  obtain ⟨hnot, hnot'⟩ := hneither
  by_cases heven : hasEvenSignificand units = true
  · rw [if_pos heven] at hnot hnot'
    have hbelow : 2 * ((floorOnGrid units exponent).value * unitsPerOne) < lowEnd units := by
      by_contra hle
      exact hnot ⟨by linarith, by linarith⟩
    exact hnot' ⟨by linarith, by linarith⟩
  · rw [if_neg heven] at hnot hnot'
    have hbelow : 2 * ((floorOnGrid units exponent).value * unitsPerOne) ≤ lowEnd units := by
      by_contra hle
      exact hnot ⟨by linarith, by linarith⟩
    exact hnot' ⟨by linarith, by linarith⟩

theorem onGrid_isSome
    {exponent : Int}
    (h : readsBack units (floorOnGrid units exponent) = true
      ∨ readsBack units ⟨(floorOnGrid units exponent).digits + 1, exponent⟩ = true) :
    (onGrid units exponent).isSome = true := by
  unfold onGrid
  dsimp only
  split
  · rfl
  · rfl
  · rfl
  · next hl hu => simp [hl, hu] at h

/-- The leading digit of a whole part is not above it, at any scale. -/
theorem pow_length_le
    {scale : Nat}
    (hscale : unitsPerOne ≤ Nat.pow 10 scale)
    (hpos : 0 < units) :
    (10 : ℚ) ^ ((decimalLength (units * Nat.pow 10 scale / unitsPerOne) : ℤ) - 1 - scale)
      * unitsPerOne ≤ units := by
  rw [Nat.pow_eq] at hscale ⊢
  have hlarge : unitsPerOne ≤ units * 10 ^ scale :=
    Nat.le_trans hscale (Nat.le_mul_of_pos_left _ hpos)
  have hquot : 0 < units * 10 ^ scale / unitsPerOne := Nat.div_pos hlarge unitsPerOne_pos
  have hlength := decimalLength_pos hquot
  have hpow := pow_decimalLength_le hquot
  have hmul := Nat.div_mul_le_self (units * 10 ^ scale) unitsPerOne
  generalize units * 10 ^ scale / unitsPerOne = q at hlength hpow hmul ⊢
  have hscaled : (10 : ℚ) ^ ((decimalLength q : ℤ) - 1) * unitsPerOne ≤ units * 10 ^ scale := by
    have hsub : (decimalLength q : ℤ) - 1 = (decimalLength q - 1 : ℕ) := by omega
    rw [hsub, zpow_natCast]
    exact_mod_cast Nat.le_trans (Nat.mul_le_mul_right _ hpow) hmul
  have hten : (0 : ℚ) < 10 ^ scale := by positivity
  rw [zpow_sub₀ (by norm_num), zpow_natCast, div_mul_eq_mul_div, div_le_iff₀ hten]
  exact hscaled

/-- The leading digit is not above the magnitude. -/
theorem pow_leadingExponent_le
    (hpos : 0 < units) :
    (10 : ℚ) ^ leadingExponent units * unitsPerOne ≤ units := by
  have hle := pow_length_le unitsPerOne_le hpos
  have hexponent : leadingExponent units
      = (decimalLength (units * Nat.pow 10 400 / unitsPerOne) : ℤ) - 1 - (400 : ℕ) := by
    unfold leadingExponent
    generalize decimalLength _ = length
    omega
  rw [hexponent]
  exact hle

/-- The shortest decimal of a positive number is read as the number. -/
theorem readsBack_shortest
    (hu : Representable units)
    (hpos : 0 < units) :
    readsBack units (shortest units) = true := by
  have hfine : (10 : ℚ) ^ (leadingExponent units - 16) * unitsPerOne * 10 ^ 16 ≤ units := by
    refine le_trans (le_of_eq ?_) (pow_leadingExponent_le hpos)
    rw [zpow_sub₀ (by norm_num)]
    field_simp
  have hlast := onGrid_isSome (readsBack_neighbour hu hpos hfine)
  unfold shortest
  dsimp only
  cases hfound : (List.range 17).findSome? fun (i : Nat) =>
      onGrid units (leadingExponent units - i) with
  | some x =>
      obtain ⟨i, -, hi⟩ := List.exists_of_findSome?_eq_some hfound
      exact readsBack_of_onGrid hi
  | none =>
      have hnone := List.findSome?_eq_none_iff.1 hfound 16 (by simp)
      rw [Nat.cast_ofNat] at hnone
      rw [hnone] at hlast
      exact absurd hlast (by simp)

end Lemmas

end Binary64
end Spreadsheet
