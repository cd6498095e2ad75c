import Mathlib.Algebra.Order.Field.Power
import Mathlib.Algebra.Order.Field.Rat
import Mathlib.Tactic.FieldSimp
import Mathlib.Tactic.Linarith
import Mathlib.Tactic.Positivity
import Mathlib.Tactic.Ring
import Spreadsheet.Binary64.Shortest

/-!
# The interval that rounds to a binary number

The quotients that round to a magnitude are those between two ends, which count
themselves if the significand is even.  So a decimal that is tested for lying
between the ends is read as the number itself, and only the value of the decimal
matters, not how many zeros it ends in.

Of two exact quotients the smaller one is rounded to no greater number.  In one
binade the significands decide, and between two binades the power of two that
parts them.

Results: a quotient between the ends rounds to the magnitude
(`nearest_of_within`), and a decimal there is read as the number
(`ofDecimal_of_readsBack`); rounding is monotone (`nearest_mono`), and goes not
beyond a representable number (`nearest_le`).
-/

namespace Spreadsheet

section RoundDiv

/-- A quotient within one half of a whole number is rounded to it, exactly one
half only if that is even. -/
theorem roundDiv_eq
    {n d k : Nat}
    (hlow : 2 * (k * d) ≤ 2 * n + d)
    (hhigh : 2 * n ≤ 2 * (k * d) + d)
    (hodd : k % 2 = 1 → 2 * (k * d) < 2 * n + d ∧ 2 * n < 2 * (k * d) + d)
    (hd : 0 < d) :
    roundDiv n d = k := by
  have hdiv : n / d * d + n % d = n := Nat.div_add_mod' n d
  have hmod : n % d < d := Nat.mod_lt n hd
  unfold roundDiv
  generalize n / d = q at hdiv ⊢
  generalize n % d = r at hdiv hmod ⊢
  rcases Nat.lt_trichotomy k q with hk | rfl | hk
  · have hstep : (k + 1) * d ≤ q * d := Nat.mul_le_mul_right d hk
    rw [Nat.add_mul] at hstep
    have hq : q = k + 1 := by
      by_contra hne
      have hstep : (k + 2) * d ≤ q * d := Nat.mul_le_mul_right d (by omega)
      rw [Nat.add_mul] at hstep
      omega
    subst hq
    rw [Nat.add_mul] at hdiv
    dsimp only
    split <;> omega
  · dsimp only
    split
    · rfl
    · split
      · omega
      · split <;> omega
  · have hstep : (q + 1) * d ≤ k * d := Nat.mul_le_mul_right d hk
    rw [Nat.add_mul] at hstep
    have hkq : k = q + 1 := by
      by_contra hne
      have hstep : (q + 2) * d ≤ k * d := Nat.mul_le_mul_right d (by omega)
      rw [Nat.add_mul] at hstep
      omega
    subst hkq
    rw [Nat.add_mul] at hlow hhigh hodd
    dsimp only
    split
    · omega
    · split
      · rfl
      · split <;> omega

end RoundDiv

namespace Binary64

/-- The quotient lies between the ends of the interval that rounds to a
magnitude. -/
def Within (units n d : Nat) : Prop :=
  if hasEvenSignificand units then
    lowEnd units * d ≤ 2 * n ∧ 2 * n ≤ highEnd units * d
  else
    lowEnd units * d < 2 * n ∧ 2 * n < highEnd units * d

section Lemmas

variable {units n d : Nat}

theorem readsBack_iff_within
    {x : Decimal} :
    readsBack units x = true ↔ Within units x.quotient.1 x.quotient.2 := by
  unfold readsBack Within
  dsimp only
  split <;> simp

theorem lt_two_pow_gap
    (units : Nat) :
    units < 2 ^ (53 + gap units) := by
  refine Nat.lt_of_lt_of_le Nat.lt_log2_self (Nat.pow_le_pow_right (by decide) ?_)
  unfold gap
  omega

theorem two_pow_gap_le
    (h : 0 < gap units) :
    2 ^ (52 + gap units) ≤ units := by
  have hne : units ≠ 0 := by
    rintro rfl
    simp [gap] at h
  refine Nat.le_trans (Nat.pow_le_pow_right (by decide) ?_) (Nat.log2_self_le hne)
  unfold gap at h ⊢
  omega

theorem gap_eq
    {s : Nat}
    (hlt : units < 2 ^ (53 + s))
    (hle : 0 < s → 2 ^ (52 + s) ≤ units) :
    gap units = s := by
  have hlog : units.log2 ≤ 52 + s := by
    rcases Nat.eq_zero_or_pos units with rfl | hpos
    · simp
    · have := (Nat.log2_lt (Nat.ne_of_gt hpos)).2 hlt
      omega
  rcases Nat.eq_zero_or_pos s with rfl | hs
  · unfold gap
    omega
  · have hpow : 0 < 2 ^ (52 + s) := Nat.two_pow_pos _
    have hpos : units ≠ 0 := by
      have := hle hs
      omega
    have := (Nat.le_log2 hpos).2 (hle hs)
    unfold gap
    omega

theorem nearest_eq_of_gap
    {s k : Nat}
    (hgap : gap (n / d) = s)
    (hround : roundDiv n (d * 2 ^ s) = k) :
    nearest n d = k * 2 ^ s := by
  simp only [nearest, hgap, Nat.pow_eq, hround]

/-- The ends of the interval where the neighbours on both sides are equally
far. -/
theorem lowEnd_of_not_edge
    (h : ¬ (units = 2 ^ (52 + gap units) ∧ 0 < gap units)) :
    lowEnd units = 2 * units - 2 ^ gap units := by
  simp only [lowEnd, Nat.pow_eq, if_neg h]

theorem lowEnd_of_edge
    (h : units = 2 ^ (52 + gap units) ∧ 0 < gap units) :
    lowEnd units = 2 * units - 2 ^ gap units / 2 := by
  simp only [lowEnd, Nat.pow_eq, if_pos h]

theorem exists_significand
    (hu : Representable units)
    (hpos : 0 < units) :
    ∃ k, units = k * 2 ^ gap units ∧ 0 < k ∧ k < 2 ^ 53
      ∧ hasEvenSignificand units = decide (k % 2 = 0) := by
  obtain ⟨k, hk⟩ := hu.2
  have hpow : 0 < 2 ^ gap units := Nat.two_pow_pos _
  rw [Nat.pow_eq, Nat.mul_comm] at hk
  refine ⟨k, hk, ?_, ?_, ?_⟩
  · refine Nat.pos_of_ne_zero ?_
    rintro rfl
    omega
  · have hlt : k * 2 ^ gap units < 2 ^ 53 * 2 ^ gap units := by
      rw [← hk, ← Nat.pow_add]
      exact lt_two_pow_gap units
    exact Nat.lt_of_mul_lt_mul_right hlt
  · have hdiv : units / 2 ^ gap units = k := Nat.div_eq_of_eq_mul_left hpow hk
    unfold hasEvenSignificand
    rw [Nat.pow_eq, hdiv]
    exact beq_eq_decide _ _

/-- Between the ends, below an edge between two distances of neighbours. -/
theorem nearest_of_within_edge
    {k : Nat}
    (hk : units = k * 2 ^ gap units)
    (hedge : units = 2 ^ (52 + gap units) ∧ 0 < gap units)
    (hd : 0 < d)
    (hlow : lowEnd units * d ≤ 2 * n)
    (hlt : n < units * d) :
    nearest n d = units := by
  obtain ⟨s, hs⟩ : ∃ s, gap units = s + 1 := ⟨gap units - 1, by omega⟩
  rw [lowEnd_of_edge hedge, hs, Nat.pow_succ, Nat.mul_div_cancel _ (by decide)] at hlow
  rw [hs] at hk
  have hhalf : units = 2 * 2 ^ (52 + s) := by
    rw [hedge.1, hs]
    ring
  have hle : 2 ^ s ≤ 2 ^ (52 + s) := Nat.pow_le_pow_right (by decide) (by omega)
  have hgap : gap (n / d) = s := by
    refine gap_eq ?_ fun _ => ?_
    · rw [Nat.div_lt_iff_lt_mul hd]
      calc
        n < units * d := hlt
        _ = 2 ^ (53 + s) * d := by rw [hhalf]; ring
    · rw [Nat.le_div_iff_mul_le hd]
      have hwide : (2 * 2 ^ (52 + s)) * d ≤ (2 * units - 2 ^ s) * d :=
        Nat.mul_le_mul_right d (by omega)
      rw [Nat.mul_assoc] at hwide
      omega
  have hround : roundDiv n (d * 2 ^ s) = 2 * k := by
    have hunits : units * d = 2 * k * (d * 2 ^ s) := by
      rw [hk]
      ring
    rw [Nat.sub_mul, Nat.mul_assoc 2, hunits, Nat.mul_comm (2 ^ s)] at hlow
    rw [hunits] at hlt
    refine roundDiv_eq (by omega) (by omega) (by omega) ?_
    exact Nat.mul_pos hd (Nat.two_pow_pos s)
  rw [nearest_eq_of_gap hgap hround]
  conv_rhs => rw [hk]
  ring

/-- Within half a distance of neighbours, not below an edge. -/
theorem nearest_of_within_half
    {k : Nat}
    (hk : units = k * 2 ^ gap units)
    (hklt : k < 2 ^ 53)
    (hd : 0 < d)
    (hlow : 2 * (k * (d * 2 ^ gap units)) ≤ 2 * n + d * 2 ^ gap units)
    (hhigh : 2 * n ≤ 2 * (k * (d * 2 ^ gap units)) + d * 2 ^ gap units)
    (hodd : k % 2 = 1 → 2 * (k * (d * 2 ^ gap units)) < 2 * n + d * 2 ^ gap units
      ∧ 2 * n < 2 * (k * (d * 2 ^ gap units)) + d * 2 ^ gap units)
    (hedge : 0 < gap units → 2 ^ 52 * (d * 2 ^ gap units) ≤ n) :
    nearest n d = units := by
  have hstep : 0 < d * 2 ^ gap units := Nat.mul_pos hd (Nat.two_pow_pos _)
  have hgap : gap (n / d) = gap units := by
    refine gap_eq ?_ fun hgap => ?_
    · rw [Nat.div_lt_iff_lt_mul hd, Nat.pow_add, Nat.mul_assoc, Nat.mul_comm (2 ^ gap units)]
      have : (k + 1) * (d * 2 ^ gap units) ≤ 2 ^ 53 * (d * 2 ^ gap units) :=
        Nat.mul_le_mul_right _ hklt
      rw [Nat.add_mul] at this
      omega
    · rw [Nat.le_div_iff_mul_le hd, Nat.pow_add, Nat.mul_assoc, Nat.mul_comm (2 ^ gap units)]
      exact hedge hgap
  rw [nearest_eq_of_gap hgap (roundDiv_eq hlow hhigh hodd hstep)]
  exact hk.symm

theorem le_significand
    {k : Nat}
    (hk : units = k * 2 ^ gap units)
    (hgap : 0 < gap units) :
    2 ^ 52 ≤ k := by
  have hle : 2 ^ 52 * 2 ^ gap units ≤ k * 2 ^ gap units := by
    rw [← hk, ← Nat.pow_add]
    exact two_pow_gap_le hgap
  exact Nat.le_of_mul_le_mul_right hle (Nat.two_pow_pos _)

/-- A quotient between the ends rounds to the magnitude. -/
theorem nearest_of_within
    (hu : Representable units)
    (hpos : 0 < units)
    (hd : 0 < d)
    (h : Within units n d) :
    nearest n d = units := by
  obtain ⟨k, hk, hkpos, hklt, heven⟩ := exists_significand hu hpos
  have hunits : units * d = k * (d * 2 ^ gap units) := by
    conv_lhs => rw [hk]
    ring
  have hhigh : highEnd units * d = 2 * (k * (d * 2 ^ gap units)) + d * 2 ^ gap units := by
    rw [← hunits, highEnd, Nat.pow_eq]
    ring
  have hclosed : lowEnd units * d ≤ 2 * n ∧ 2 * n ≤ highEnd units * d := by
    unfold Within at h
    split at h <;> omega
  have hopen : k % 2 = 1 → lowEnd units * d < 2 * n ∧ 2 * n < highEnd units * d := by
    intro hodd
    unfold Within at h
    rwa [if_neg (by simp [heven, hodd])] at h
  rw [hhigh] at hclosed hopen
  by_cases hedge : units = 2 ^ (52 + gap units) ∧ 0 < gap units
  · by_cases hlt : n < units * d
    · exact nearest_of_within_edge hk hedge hd hclosed.1 hlt
    · have hmul : 2 ^ 52 * (d * 2 ^ gap units) ≤ k * (d * 2 ^ gap units) :=
        Nat.mul_le_mul_right _ (le_significand hk hedge.2)
      have hstep : 0 < d * 2 ^ gap units := Nat.mul_pos hd (Nat.two_pow_pos _)
      refine nearest_of_within_half hk hklt hd (by omega) hclosed.2 ?_ (fun _ => by omega)
      intro hodd
      have := hopen hodd
      omega
  · rw [lowEnd_of_not_edge hedge, Nat.sub_mul, Nat.mul_assoc 2, hunits,
      Nat.mul_comm (2 ^ gap units)] at hclosed hopen
    refine nearest_of_within_half hk hklt hd (by omega) hclosed.2 ?_ fun hgap => ?_
    · intro hodd
      have := hopen hodd
      omega
    · have hlt : 2 ^ 52 < k := by
        refine Nat.lt_of_le_of_ne (le_significand hk hgap) fun heq => hedge ⟨?_, hgap⟩
        refine hk.trans ?_
        rw [← heq, Nat.pow_add]
      have hmul : (2 ^ 52 + 1) * (d * 2 ^ gap units) ≤ k * (d * 2 ^ gap units) :=
        Nat.mul_le_mul_right _ hlt
      rw [Nat.add_mul] at hmul
      omega

end Lemmas

end Binary64

namespace Decimal

/-- The number that a decimal writes. -/
def value (x : Decimal) : ℚ := x.digits * 10 ^ x.exponent

section Lemmas

theorem quotient_pos
    (x : Decimal) :
    0 < x.quotient.2 := by
  unfold quotient
  split
  · exact Nat.one_pos
  · exact Nat.pow_pos (by decide)

theorem zpow_of_nonneg
    {exponent : Int}
    (h : 0 ≤ exponent) :
    (10 : ℚ) ^ exponent = 10 ^ exponent.toNat := by
  rw [← zpow_natCast, Int.toNat_of_nonneg h]

theorem zpow_mul_pow_of_neg
    {exponent : Int}
    (h : ¬0 ≤ exponent) :
    (10 : ℚ) ^ exponent * 10 ^ (-exponent).toNat = 1 := by
  rw [← zpow_natCast, Int.toNat_of_nonneg (by omega), ← zpow_add₀ (by norm_num)]
  simp

theorem quotient_eq
    (x : Decimal) :
    (x.quotient.1 : ℚ) = x.value * Binary64.unitsPerOne * x.quotient.2 := by
  unfold quotient value
  split
  · next h =>
      simp only [Nat.pow_eq]
      push_cast
      rw [zpow_of_nonneg h]
      ring
  · next h =>
      simp only [Nat.pow_eq]
      push_cast
      calc
        (x.digits * Binary64.unitsPerOne : ℚ)
          = x.digits * Binary64.unitsPerOne * (10 ^ x.exponent * 10 ^ (-x.exponent).toNat) := by
            rw [zpow_mul_pow_of_neg h, mul_one]
        _ = x.digits * 10 ^ x.exponent * Binary64.unitsPerOne * 10 ^ (-x.exponent).toNat := by
            ring

end Lemmas

end Decimal

namespace Binary64

section Lemmas

variable {units : Nat} {x : Decimal}

/-- A decimal is tested by its value. -/
theorem readsBack_iff :
    readsBack units x = true ↔
      if hasEvenSignificand units then
        (lowEnd units : ℚ) ≤ 2 * (x.value * unitsPerOne)
          ∧ 2 * (x.value * unitsPerOne) ≤ (highEnd units : ℚ)
      else
        (lowEnd units : ℚ) < 2 * (x.value * unitsPerOne)
          ∧ 2 * (x.value * unitsPerOne) < (highEnd units : ℚ) := by
  have hpos : (0 : ℚ) < x.quotient.2 := by exact_mod_cast x.quotient_pos
  have htwice : 2 * (x.quotient.1 : ℚ) = 2 * (x.value * unitsPerOne) * x.quotient.2 := by
    rw [x.quotient_eq]
    ring
  rw [readsBack_iff_within, Within]
  split
  · rw [← Nat.cast_le (α := ℚ), ← Nat.cast_le (α := ℚ)]
    push_cast
    rw [htwice, mul_le_mul_iff_left₀ hpos, mul_le_mul_iff_left₀ hpos]
  · rw [← Nat.cast_lt (α := ℚ), ← Nat.cast_lt (α := ℚ)]
    push_cast
    rw [htwice, mul_lt_mul_iff_left₀ hpos, mul_lt_mul_iff_left₀ hpos]

theorem readsBack_congr
    {y : Decimal}
    (h : x.value = y.value) :
    readsBack units x = readsBack units y := by
  rw [Bool.eq_iff_iff, readsBack_iff, readsBack_iff, h]

theorem two_pow_gap_le_self
    (hu : Representable units)
    (hpos : 0 < units) :
    2 ^ gap units ≤ units :=
  Nat.le_of_dvd hpos hu.2

/-- A decimal between the ends is within one half of the magnitude. -/
theorem value_bounds_of_readsBack
    (hu : Representable units)
    (hpos : 0 < units)
    (h : readsBack units x = true) :
    (units : ℚ) ≤ 2 * (x.value * unitsPerOne) ∧ x.value * unitsPerOne ≤ 2 * (units : ℚ) := by
  have hgap := two_pow_gap_le_self hu hpos
  have hlow : units ≤ lowEnd units := by
    unfold lowEnd
    simp only [Nat.pow_eq]
    split <;> omega
  have hhigh : highEnd units ≤ 3 * units := by
    unfold highEnd
    rw [Nat.pow_eq]
    omega
  have hlow : (units : ℚ) ≤ lowEnd units := by exact_mod_cast hlow
  have hhigh : (highEnd units : ℚ) ≤ 3 * units := by exact_mod_cast hhigh
  rw [readsBack_iff] at h
  split at h <;> constructor <;> linarith [h.1, h.2]

theorem decimalLength_pos
    {m : Nat}
    (hm : 0 < m) :
    0 < decimalLength m := by
  rw [decimalLength, if_neg (Nat.ne_of_gt hm)]
  exact Nat.length_toDigits_pos

theorem lt_pow_decimalLength
    (m : Nat) :
    m < 10 ^ decimalLength m := by
  rcases Nat.eq_zero_or_pos m with rfl | hm
  · exact Nat.pow_pos (by decide)
  · refine (Nat.length_toDigits_le_iff (by decide) (decimalLength_pos hm)).1 ?_
    rw [decimalLength, if_neg (Nat.ne_of_gt hm)]

theorem pow_decimalLength_le
    {m : Nat}
    (hm : 0 < m) :
    10 ^ (decimalLength m - 1) ≤ m := by
  by_contra hlt
  rcases Nat.eq_zero_or_pos (decimalLength m - 1) with hzero | hpos
  · rw [hzero] at hlt
    omega
  · have hlength := (Nat.length_toDigits_le_iff (by decide) hpos).2 (Nat.not_le.1 hlt)
    have := decimalLength_pos hm
    rw [decimalLength, if_neg (Nat.ne_of_gt hm)] at hlength this
    omega

theorem cast_le_pow
    {n k : Nat}
    (h : n ≤ Nat.pow 10 k) :
    (n : ℚ) ≤ 10 ^ (k : ℤ) := by
  rw [zpow_natCast]
  exact_mod_cast h

theorem unitsPerOne_le :
    unitsPerOne ≤ Nat.pow 10 400 := by
  unfold unitsPerOne
  decide +kernel

theorem limit_le :
    limit ≤ 10 ^ 309 * unitsPerOne := by
  unfold limit unitsPerOne
  decide +kernel

theorem digits_pos_of_readsBack
    (hu : Representable units)
    (hpos : 0 < units)
    (h : readsBack units x = true) :
    0 < x.digits := by
  refine Nat.pos_of_ne_zero fun hzero => ?_
  have hunits : (0 : ℚ) < units := by exact_mod_cast hpos
  have hbounds := value_bounds_of_readsBack hu hpos h
  have hvalue : x.value = 0 := by simp [Decimal.value, hzero]
  rw [hvalue] at hbounds
  linarith [hbounds.1]

theorem value_le_of_length
    (x : Decimal) :
    x.value ≤ 10 ^ ((decimalLength x.digits : ℤ) + x.exponent) := by
  rw [zpow_add₀ (by norm_num), zpow_natCast]
  refine mul_le_mul_of_nonneg_right ?_ (by positivity)
  exact_mod_cast Nat.le_of_lt (lt_pow_decimalLength x.digits)

theorem length_le_value
    (h : 0 < x.digits) :
    10 ^ ((decimalLength x.digits : ℤ) - 1 + x.exponent) ≤ x.value := by
  have hlength := decimalLength_pos h
  have hsub : (decimalLength x.digits : ℤ) - 1 = (decimalLength x.digits - 1 : ℕ) := by omega
  rw [zpow_add₀ (by norm_num), hsub, zpow_natCast]
  refine mul_le_mul_of_nonneg_right ?_ (by positivity)
  exact_mod_cast pow_decimalLength_le h

/-- A decimal that reads back is not below the format. -/
theorem le_length_of_readsBack
    (hu : Representable units)
    (hpos : 0 < units)
    (h : readsBack units x = true) :
    -400 ≤ decimalLength x.digits + x.exponent := by
  by_contra hlt
  have hone : (0 : ℚ) ≤ unitsPerOne := Nat.cast_nonneg _
  have hunits : (1 : ℚ) ≤ units := by exact_mod_cast hpos
  have hpower := cast_le_pow unitsPerOne_le
  have hlow := (value_bounds_of_readsBack hu hpos h).1
  have hprod : x.value * unitsPerOne ≤ 10 ^ (-1 : ℤ) := by
    calc
      x.value * unitsPerOne
        ≤ 10 ^ ((decimalLength x.digits : ℤ) + x.exponent) * 10 ^ ((400 : ℕ) : ℤ) :=
          mul_le_mul (value_le_of_length x) hpower hone (by positivity)
      _ = (10 : ℚ) ^ ((decimalLength x.digits : ℤ) + x.exponent + (400 : ℕ)) :=
          (zpow_add₀ (by norm_num) _ _).symm
      _ ≤ 10 ^ (-1 : ℤ) := zpow_le_zpow_right₀ (by norm_num) (by omega)
  rw [zpow_neg_one] at hprod
  linarith

/-- A decimal that reads back is not above the format. -/
theorem length_le_of_readsBack
    (hu : Representable units)
    (hpos : 0 < units)
    (h : readsBack units x = true) :
    decimalLength x.digits + x.exponent ≤ 400 := by
  by_contra hlt
  have hone : (0 : ℚ) < unitsPerOne := by exact_mod_cast unitsPerOne_pos
  have hunits : (units : ℚ) ≤ 10 ^ (309 : ℤ) * unitsPerOne := by
    have : units ≤ 10 ^ 309 * unitsPerOne := Nat.le_trans (Nat.le_of_lt hu.1) limit_le
    exact_mod_cast this
  have hhigh := (value_bounds_of_readsBack hu hpos h).2
  have hvalue : x.value ≤ 2 * 10 ^ (309 : ℤ) := by
    refine le_of_mul_le_mul_right ?_ hone
    linarith
  have hlarge : (10 : ℚ) ^ (309 : ℤ) * 10 ≤ x.value := by
    calc
      (10 : ℚ) ^ (309 : ℤ) * 10 = 10 ^ (309 + 1 : ℤ) := (zpow_add_one₀ (by norm_num) _).symm
      _ ≤ 10 ^ ((decimalLength x.digits : ℤ) - 1 + x.exponent) :=
          zpow_le_zpow_right₀ (by norm_num) (by omega)
      _ ≤ x.value := length_le_value (digits_pos_of_readsBack hu hpos h)
  have hpow : (0 : ℚ) < 10 ^ (309 : ℤ) := by positivity
  generalize (10 : ℚ) ^ (309 : ℤ) = t at hvalue hlarge hpow
  linarith

/-- A decimal between the ends is read as the number. -/
theorem ofDecimal_of_readsBack
    (negative : Bool)
    (hu : Representable units)
    (hpos : 0 < units)
    (h : readsBack units x = true) :
    ofDecimal negative x.digits x.exponent = .finite negative units hu := by
  have hdigits := digits_pos_of_readsBack hu hpos h
  have hlow := le_length_of_readsBack hu hpos h
  have hhigh := length_le_of_readsBack hu hpos h
  have hnearest : nearest x.quotient.1 x.quotient.2 = units :=
    nearest_of_within hu hpos x.quotient_pos (readsBack_iff_within.1 h)
  have hquotient : ofQuotient negative x.quotient.1 x.quotient.2 = .finite negative units hu := by
    unfold ofQuotient
    rw [dif_pos (by rw [hnearest]; exact hu.1)]
    simp only [hnearest]
  unfold ofDecimal
  rw [if_neg (by omega), if_neg (by omega)]
  unfold Decimal.quotient at hquotient
  split
  · next hexp =>
      rw [if_pos hexp] at hquotient
      exact hquotient
  · next hexp =>
      rw [if_neg hexp] at hquotient
      exact hquotient

end Lemmas

end Binary64

section Order

theorem roundDiv_mono
    {n m : Nat} (d : Nat)
    (h : n ≤ m) :
    roundDiv n d ≤ roundDiv m d := by
  rcases Nat.lt_or_eq_of_le (Nat.div_le_div_right (c := d) h) with hlt | heq
  · calc
      roundDiv n d ≤ n / d + 1 := roundDiv_le n d
      _ ≤ m / d := hlt
      _ ≤ roundDiv m d := le_roundDiv m d
  · have hn := Nat.div_add_mod n d
    have hm := Nat.div_add_mod m d
    rw [heq] at hn
    unfold roundDiv
    dsimp only
    rw [heq]
    repeat' split
    all_goals omega

namespace Binary64

/-- The smaller of two quotients is rounded to no greater multiple. -/
theorem nearest_mono
    {n m : Nat} (d : Nat)
    (h : n ≤ m) :
    nearest n d ≤ nearest m d := by
  have hquotient : n / d ≤ m / d := Nat.div_le_div_right h
  have hgap : gap (n / d) ≤ gap (m / d) := by
    rcases Nat.eq_zero_or_pos (n / d) with hzero | hpos
    · simp [hzero, gap]
    · refine Nat.sub_le_sub_right ((Nat.le_log2 (by omega)).2 ?_) 52
      exact Nat.le_trans (Nat.log2_self_le (by omega)) hquotient
  simp only [nearest, Nat.pow_eq]
  rcases Nat.lt_or_eq_of_le hgap with hlt | heq
  · -- the power of two at which the upper binade starts lies between the two
    have hlow : roundDiv n (d * 2 ^ gap (n / d)) ≤ 2 ^ 53 := roundDiv_gap_le n d
    have hhigh : 2 ^ 52 ≤ roundDiv m (d * 2 ^ gap (m / d)) := by
      refine Nat.le_trans ?_ (le_roundDiv _ _)
      rw [← Nat.div_div_eq_div_mul, Nat.le_div_iff_mul_le (Nat.two_pow_pos _), ← Nat.pow_add]
      exact two_pow_gap_le (by omega)
    calc
      roundDiv n (d * 2 ^ gap (n / d)) * 2 ^ gap (n / d)
          ≤ 2 ^ 53 * 2 ^ gap (n / d) := Nat.mul_le_mul_right _ hlow
      _ = 2 ^ 52 * 2 ^ (gap (n / d) + 1) := by rw [← Nat.pow_add, ← Nat.pow_add]; congr 1; omega
      _ ≤ 2 ^ 52 * 2 ^ gap (m / d) :=
          Nat.mul_le_mul_left _ (Nat.pow_le_pow_right (by decide) hlt)
      _ ≤ roundDiv m (d * 2 ^ gap (m / d)) * 2 ^ gap (m / d) := Nat.mul_le_mul_right _ hhigh
  · rw [heq]
    exact Nat.mul_le_mul_right _ (roundDiv_mono _ h)

/-- No number is rounded beyond one that is representable. -/
theorem nearest_le
    {u v : Nat}
    (hu : Representable u)
    (hv : v ≤ u) :
    nearest v 1 ≤ u := by
  have hself := nearest_mul_self Nat.one_pos hu
  rw [Nat.mul_one] at hself
  exact Nat.le_trans (nearest_mono 1 hv) (Nat.le_of_eq hself)

end Binary64

end Order

end Spreadsheet
