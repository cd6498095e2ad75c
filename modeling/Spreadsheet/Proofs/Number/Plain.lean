import Spreadsheet.Proofs.Cell.Rendering
import Spreadsheet.Proofs.Json.Number
import Spreadsheet.Proofs.Number.Order

/-!
# Plain numerals

Cells and formulas hold a number without a power of ten: a whole one as an integer, any
other with a point among its digits.  The rounding of an integer is whole, so a number
that is not has digits behind the point, and what is written is read as an equal number.

Results: a finite number has a plain numeral (`exists_plainNumeral`), and its text is read
as a number equal to it (`PlainNumeral.exists_read?`).
-/

namespace Spreadsheet

open Numeral

section Lemmas

/-- Plain numerals have no power of ten. -/
theorem Decimal.numeral_plain
    (d : Decimal) :
    d.numeral .plain = Decimal.placePoint .plain d.significantDigits
      (d.exponent + (Nat.toDigits 10 d.digits).length) := rfl

end Lemmas

namespace Numeral

section Lemmas

variable {n : Numeral}

theorem isDecimal_of_isDigit
    {c : Char}
    (h : c.isDigit = true) :
    Text.isDecimal c = true := by
  simp [Text.isDecimal, Text.decimalValue?_ascii h]

theorem scanSign_signText
    (negative : Bool)
    {s : List Char}
    (hs : ∀ c ∈ s.head?, c.isDigit = true) :
    scanSign (Binary64.signText negative ++ s) = (negative, s) := by
  cases negative with
  | true => rfl
  | false =>
      rw [Binary64.signText, if_neg (by simp), List.nil_append]
      unfold scanSign
      split
      · exact absurd (hs '-' rfl) (by decide)
      · exact absurd (hs '+' rfl) (by decide)
      · rfl

/-- Digits of any script are scanned up to what is none. -/
theorem scanDigits_append_of_isDecimal
    {digits rest : List Char}
    (hdigits : ∀ c ∈ digits, Text.isDecimal c = true)
    (hrest : ∀ c ∈ rest.head?, Text.isDecimal c = false) :
    scanDigits (digits ++ rest) = (digits, rest) := by
  rw [scanDigits, List.takeWhile_append_of_pos hdigits, List.dropWhile_append_of_pos hdigits]
  cases rest with
  | nil => simp
  | cons c rest => simp [hrest c rfl]

theorem scanDigits_append
    {digits rest : List Char}
    (hdigits : ∀ c ∈ digits, c.isDigit = true)
    (hrest : ∀ c ∈ rest.head?, Text.isDecimal c = false) :
    scanDigits (digits ++ rest) = (digits, rest) :=
  scanDigits_append_of_isDecimal (fun c hc => isDecimal_of_isDigit (hdigits c hc)) hrest

/-- A numeral without a power of ten is scanned as its parts. -/
theorem scan?_text
    (hwhole : IsDigits n.whole)
    (hfraction : ∀ digits, n.fraction = some digits → IsDigits digits)
    (hpower : n.power = none) :
    scan? (Binary64.signText n.negative ++ n.text) = some (n, []) := by
  obtain ⟨negative, whole, fraction, power⟩ := n
  obtain rfl : power = none := hpower
  have hsome : whole.isEmpty = false := by simpa using hwhole.1
  have hhead : ∀ s, ∀ c ∈ (whole ++ s).head?, c.isDigit = true := by
    intro s c hc
    rw [List.head?_append_of_ne_nil _ hwhole.1] at hc
    exact hwhole.2 c (List.mem_of_mem_head? hc)
  have hend : ∀ c ∈ ([] : List Char).head?, Text.isDecimal c = false := by simp
  unfold scan?
  cases fraction with
  | none =>
      have hdigits := scanDigits_append hwhole.2 hend
      simp only [text, Option.elim_none, List.append_nil]
      rw [scanSign_signText negative (by simpa using hhead [])]
      rw [List.append_nil] at hdigits
      simp [hdigits, hsome, scanPower]
  | some fraction =>
      have hdigits : scanDigits (whole ++ '.' :: fraction) = (whole, '.' :: fraction) := by
        refine scanDigits_append hwhole.2 ?_
        rintro c ⟨⟩
        decide
      have hrest := scanDigits_append (hfraction fraction rfl).2 hend
      rw [List.append_nil] at hrest
      simp only [text, Option.elim_some, Option.elim_none, List.append_nil]
      rw [scanSign_signText negative (hhead _)]
      simp [hdigits, hrest, hsome, scanPower]

end Lemmas

end Numeral

namespace Binary64

section Lemmas

variable {negative : Bool} {units : Nat}

/-- A multiple of a power of two is rounded to one. -/
theorem two_pow_dvd_nearest
    (m k : Nat) :
    2 ^ k ∣ nearest (m * 2 ^ k) 1 := by
  simp only [nearest, Nat.div_one, Nat.one_mul, Nat.pow_eq]
  rcases Nat.le_total k (gap (m * 2 ^ k)) with hle | hle
  · exact Nat.dvd_mul_left_of_dvd (Nat.pow_dvd_pow 2 hle) _
  · obtain ⟨j, hj⟩ : 2 ^ gap (m * 2 ^ k) ∣ m * 2 ^ k :=
      Nat.dvd_mul_left_of_dvd (Nat.pow_dvd_pow 2 hle) m
    have hround : roundDiv (m * 2 ^ k) (2 ^ gap (m * 2 ^ k)) * 2 ^ gap (m * 2 ^ k) = m * 2 ^ k := by
      generalize 2 ^ gap (m * 2 ^ k) = p at hj
      rcases Nat.eq_zero_or_pos p with rfl | hp
      · rw [hj, Nat.zero_mul, Nat.mul_zero]
      · rw [hj, Nat.mul_comm p j, roundDiv_mul_self j hp]
    rw [hround]
    exact Nat.dvd_mul_left _ _

/-- The rounding of an integer is whole. -/
theorem unitsPerOne_dvd_nearest
    (m : Nat) :
    unitsPerOne ∣ nearest (m * unitsPerOne) 1 := by
  have h := two_pow_dvd_nearest m 1074
  unfold unitsPerOne
  generalize 1074 = k at h ⊢
  exact h

theorem toInt?_of_dvd
    {fits : Representable units}
    (h : unitsPerOne ∣ units) :
    (finite negative units fits).toInt?
      = some (signedUnits negative (units / unitsPerOne)) := by
  rw [toInt?, if_pos (Nat.mod_eq_zero_of_dvd h)]

theorem neg_ofQuotient
    (n d : Nat) :
    (ofQuotient false n d).neg = ofQuotient true n d := by
  unfold ofQuotient
  split <;> rfl

/-- The sign of a decimal is that of the number read. -/
theorem neg_ofDecimal
    (m : Nat) (e : Int) :
    (ofDecimal false m e).neg = ofDecimal true m e := by
  unfold ofDecimal
  repeat' split
  · rfl
  · rfl
  · exact neg_ofQuotient _ _
  · exact neg_ofQuotient _ _

/-- A decimal that is read back as a number is read as it in any layout. -/
theorem toBinary64_of_writes
    {n : Numeral} {s : List Char} {d : Decimal}
    (fits : Representable units)
    (hpos : 0 < units)
    (hback : readsBack units d = true)
    (h : n.Writes s d.value) :
    n.toBinary64 = .finite n.negative units fits := by
  rw [n.toBinary64_eq]
  refine ofDecimal_of_readsBack n.negative fits hpos ?_
  rw [readsBack_congr h.value]
  exact hback

/-- A number that an integer is read as is whole. -/
theorem unitsPerOne_dvd_of_readsBack
    {m : Nat}
    (fits : Representable units)
    (hpos : 0 < units)
    (hback : readsBack units ⟨m, 0⟩ = true) :
    unitsPerOne ∣ units := by
  have hvalue := ofDecimal_of_readsBack false fits hpos hback
  unfold ofDecimal at hvalue
  split at hvalue
  · injection hvalue with _ hunits
    omega
  · split at hvalue
    · cases hvalue
    · have hscaled : ∀ one : Nat, m * Nat.pow 10 (0 : Int).toNat * one = m * one := by
        intro one
        simp
      rw [if_pos (Int.le_refl 0), hscaled] at hvalue
      unfold ofQuotient at hvalue
      split at hvalue
      · injection hvalue with _ hunits
        rw [← hunits]
        exact unitsPerOne_dvd_nearest m
      · cases hvalue

theorem decimalLength_le
    {m k : Nat}
    (hk : 0 < k)
    (h : m < 10 ^ k) :
    decimalLength m ≤ k := by
  rw [decimalLength]
  split
  · exact Nat.zero_le k
  · exact (Nat.length_toDigits_le_iff (by decide) hk).2 h

theorem nonneg_of_toInt?
    {x : Binary64} {i : Int}
    (h : x.toInt? = some i)
    (hsign : x.isNegative = false) :
    0 ≤ i := by
  cases x with
  | infinite negative => cases h
  | nan => cases h
  | finite negative units fits =>
      obtain rfl : negative = false := hsign
      simp only [toInt?, Option.ite_none_right_eq_some, Option.some.injEq] at h
      rw [← h.2]
      exact Int.natCast_nonneg _

/-- What equals a number without a sign has none, unless it is zero. -/
theorem isNegative_of_equal
    {x y : Binary64}
    (hequal : (Number.float x).equal (.float y) = true)
    (hfinite : y.isFinite = true)
    (hsign : y.isNegative = false)
    (hne : x.toInt? = none) :
    x.isNegative = false := by
  have hfinite' : x.isFinite = true := Number.isFinite_of_equal hequal hfinite
  obtain ⟨p, hx, hy⟩ := Number.equal_iff.1 hequal
  cases x with
  | infinite negative => cases hfinite'
  | nan => cases hfinite'
  | finite negative units fits =>
      cases y with
      | infinite negative => cases hfinite
      | nan => cases hfinite
      | finite negative' units' fits' =>
          obtain rfl : negative' = false := hsign
          have hplace := Place.at.inj (Option.some.inj (hx.trans hy.symm))
          cases negative with
          | false => rfl
          | true =>
              have hzero : units = 0 := by
                simp only [signedUnits, Bool.false_eq_true, if_false, if_true] at hplace
                omega
              subst hzero
              cases hne

/-- A whole number is read from the digits of its integer. -/
theorem ofDecimal_natAbs
    {x : Binary64} {i : Int}
    (h : x.toInt? = some i)
    (hsign : x.isNegative = false) :
    ofDecimal false i.natAbs 0 = x := by
  cases x with
  | infinite negative => cases h
  | nan => cases h
  | finite negative units fits =>
      obtain rfl : negative = false := hsign
      simp only [toInt?, Option.ite_none_right_eq_some, Option.some.injEq] at h
      obtain ⟨hmod, rfl⟩ := h
      have hunits : units = units / unitsPerOne * unitsPerOne :=
        (Nat.div_mul_cancel (Nat.dvd_of_mod_eq_zero hmod)).symm
      rw [natAbs_signedUnits]
      generalize units / unitsPerOne = m at hunits
      subst hunits
      have hlength := decimalLength_le (by decide)
        (Nat.lt_of_mul_lt_mul_right (Nat.lt_of_lt_of_le fits.1 limit_le))
      have hself := ofQuotient_mul_self false Nat.one_pos fits
      rw [Nat.mul_one] at hself
      unfold ofDecimal
      rcases Nat.eq_zero_or_pos m with rfl | hpos
      · simp
      · rw [if_neg (by omega), if_neg (by omega), if_pos (Int.le_refl 0)]
        have hscaled : m * Nat.pow 10 (0 : Int).toNat = m := by simp
        rw [hscaled, hself]

/-- A number that is not whole is written with digits on both sides of a point. -/
theorem exists_point
    {x : Binary64}
    (hfinite : x.isFinite = true)
    (hwhole : x.toInt? = none) :
    ∃ whole fraction, IsDigits whole ∧ IsDigits fraction
      ∧ x.numeral .plain = signText x.isNegative ++ (whole ++ '.' :: fraction)
      ∧ Numeral.toBinary64 ⟨x.isNegative, whole, some fraction, none⟩ = x := by
  cases x with
  | infinite negative => cases hfinite
  | nan => cases hfinite
  | finite negative units fits =>
      have hdvd : ¬ unitsPerOne ∣ units := by
        intro hdvd
        rw [toInt?_of_dvd hdvd] at hwhole
        cases hwhole
      have hpos : 0 < units := by
        refine Nat.pos_of_ne_zero ?_
        rintro rfl
        exact hdvd (Nat.dvd_zero _)
      have hback := readsBack_shortest fits hpos
      obtain ⟨hdigits, hzero, hvalue⟩ :=
        Decimal.significantDigits_facts (digits_pos_of_readsBack fits hpos hback)
      have hnumeral : (finite negative units fits).numeral .plain
          = signText negative ++ (shortest units).numeral .plain := by
        simp [numeral, Nat.ne_of_gt hpos]
      rw [hnumeral, Decimal.numeral_plain]
      generalize ((shortest units).exponent
        + (Nat.toDigits 10 (shortest units).digits).length : Int) = place at hvalue ⊢
      have hpoint : ∀ {whole fraction : List Char},
          Writes ⟨negative, whole, some fraction, none⟩
            (Decimal.placePoint .plain (shortest units).significantDigits place)
            (Decimal.placed (shortest units).significantDigits place) →
          ∃ whole fraction, IsDigits whole ∧ IsDigits fraction
            ∧ signText negative
                ++ Decimal.placePoint .plain (shortest units).significantDigits place
              = signText negative ++ (whole ++ '.' :: fraction)
            ∧ Numeral.toBinary64 ⟨negative, whole, some fraction, none⟩
              = finite negative units fits := by
        intro whole fraction h
        rw [hvalue] at h
        refine ⟨whole, fraction, h.isPlain.whole, h.isPlain.fraction fraction rfl, ?_,
          toBinary64_of_writes fits hpos hback h⟩
        rw [← h.text]
        simp [Numeral.text]
      rcases Int.lt_or_le 0 place with hplace | hplace
      · rcases Int.lt_or_le place (shortest units).significantDigits.length with hlt | hle
        · exact hpoint (Decimal.writes_placePoint_of_lt negative hdigits hzero hplace hlt)
        · -- the digits of an integer are never fewer than its places
          refine absurd (unitsPerOne_dvd_of_readsBack fits hpos
            (m := Text.decimalNat (shortest units).significantDigits
              * 10 ^ (place - (shortest units).significantDigits.length).toNat) ?_) hdvd
          rw [readsBack_congr (y := shortest units), hback]
          rw [← hvalue, Decimal.value, Decimal.placed]
          have hpow : (10 : ℚ) ^ (place - ((shortest units).significantDigits.length : Int))
              = 10 ^ (place - (shortest units).significantDigits.length).toNat := by
            rw [← zpow_natCast]
            congr 1
            omega
          rw [hpow]
          push_cast
          norm_num
      · exact hpoint (Decimal.writes_placePoint_of_nonpos negative hdigits hplace)

end Lemmas

end Binary64

/-- How a finite number is written in cells: as an integer that equals it, or with digits
on both sides of a point. -/
inductive PlainNumeral : Number → Numeral → Prop
  | whole
      {x : Number} {i : Int}
      (hequal : x.equal (.int i) = true)
      (hi : IsWritable i) :
      PlainNumeral x ⟨decide (i < 0), Nat.toDigits 10 i.natAbs, none, none⟩
  | point
      {x : Binary64} {whole fraction : List Char}
      (hfinite : x.isFinite = true)
      (hne : x.toInt? = none)
      (hwhole : IsDigits whole)
      (hfraction : IsDigits fraction)
      (hvalue : Numeral.toBinary64 ⟨x.isNegative, whole, some fraction, none⟩ = x) :
      PlainNumeral (.float x) ⟨x.isNegative, whole, some fraction, none⟩

section Lemmas

variable {x : Number} {n : Numeral}

theorem Number.equal_of_toInt?
    {x : Binary64} {i : Int}
    (h : x.toInt? = some i) :
    (Number.float x).equal (.int i) = true := by
  cases x with
  | infinite negative => cases h
  | nan => cases h
  | finite negative units fits =>
      simp only [Binary64.toInt?, Option.ite_none_right_eq_some, Option.some.injEq] at h
      obtain ⟨hmod, rfl⟩ := h
      have hunits := Nat.div_add_mod units Binary64.unitsPerOne
      rw [hmod, Nat.add_zero] at hunits
      have hplace : Binary64.signedUnits negative units
          = Binary64.signedUnits negative (units / Binary64.unitsPerOne)
            * (Binary64.unitsPerOne : Int) := by
        have hcast : (units : Int)
            = ((units / Binary64.unitsPerOne : Nat) : Int) * (Binary64.unitsPerOne : Int) := by
          rw [← Int.natCast_mul, Nat.mul_comm, hunits]
        cases negative
        · exact hcast
        · rw [Binary64.signedUnits, Binary64.signedUnits, if_pos rfl, if_pos rfl, Int.neg_mul,
            ← hcast]
      simp [equal, order?, place?, Binary64.place?, hplace, Place.compare]

/-- A finite number has a plain numeral, if it can be written. -/
theorem exists_plainNumeral
    (hfinite : x.isFinite = true)
    (htext : x.HasText) :
    ∃ n, PlainNumeral x n
      ∧ x.plain = .ok (String.ofList (Binary64.signText n.negative ++ n.text)) := by
  cases x with
  | int i =>
      have hi : IsWritable i := htext
      refine ⟨_, .whole (Number.equal_self (by simp)) hi, ?_⟩
      rw [Number.plain, integerText, if_pos hi, ← Json.toList_repr, String.ofList_toList]
  | float x =>
      cases hwhole : x.toInt? with
      | some i =>
          refine ⟨_, .whole (Number.equal_of_toInt? hwhole)
            (Number.isWritable_of_toInt? hwhole), ?_⟩
          rw [Number.plain_whole hwhole, ← Json.toList_repr, String.ofList_toList]
      | none =>
          obtain ⟨whole, fraction, hdigits, hfraction, htext, hvalue⟩ :=
            Binary64.exists_point hfinite hwhole
          refine ⟨_, .point hfinite hwhole hdigits hfraction hvalue, ?_⟩
          simp only [Number.plain, hwhole, htext, Numeral.text, Option.elim_some, Option.elim_none,
            List.append_nil]

/-- The digits of an integer behind its sign have it as their value. -/
theorem Numeral.value?_natAbs
    {i : Int}
    (hi : IsWritable i) :
    Numeral.value? ⟨decide (i < 0), Nat.toDigits 10 i.natAbs, none, none⟩ = .ok (some (.int i)) := by
  simp [Numeral.value?, Json.integer_natAbs hi, bind, Except.bind, pure, Except.pure]

/-- The value of a plain numeral is a number that equals the one it was written for. -/
theorem PlainNumeral.exists_value?
    (h : PlainNumeral x n) :
    ∃ y, n.value? = .ok (some y) ∧ y.equal x = true := by
  cases h with
  | @whole _ i hequal hi =>
      exact ⟨.int i, Numeral.value?_natAbs hi, by rwa [Number.equal_comm]⟩
  | @point x whole fraction hfinite hne hwhole hfraction hvalue =>
      refine ⟨.float x, ?_, Number.equal_self_of_isFinite hfinite⟩
      simp only [Numeral.value?, hvalue, hfinite]
      rfl

/-- The parts of a plain numeral are digits. -/
theorem PlainNumeral.isDigits
    (h : PlainNumeral x n) :
    IsDigits n.whole ∧ (∀ digits, n.fraction = some digits → IsDigits digits)
      ∧ n.power = none := by
  cases h with
  | whole hequal hi =>
      exact ⟨⟨Nat.toDigits_ne_nil, fun c hc => Text.isDigit_of_mem_toDigits hc⟩, by simp, rfl⟩
  | point hfinite hne hwhole hfraction hvalue =>
      refine ⟨hwhole, fun digits h => ?_, rfl⟩
      obtain rfl := Option.some.inj h
      exact hfraction

/-- A plain numeral holds nothing but digits, behind a sign and with a point among them. -/
theorem PlainNumeral.mem_text
    (h : PlainNumeral x n)
    {c : Char}
    (hc : c ∈ n.text) :
    c.isDigit = true ∨ c = '.' := by
  obtain ⟨hwhole, hfraction, hpower⟩ := h.isDigits
  rw [Numeral.text, hpower, Option.elim_none, List.append_nil, List.mem_append] at hc
  rcases hc with hc | hc
  · exact .inl (hwhole.2 c hc)
  · cases hdigits : n.fraction with
    | none => simp [hdigits] at hc
    | some digits =>
        rw [hdigits, Option.elim_some, List.mem_cons] at hc
        rcases hc with rfl | hc
        · exact .inr rfl
        · exact .inl ((hfraction digits hdigits).2 c hc)

theorem PlainNumeral.isDigit_of_mem_head?
    (h : PlainNumeral x n)
    {c : Char}
    (hc : c ∈ n.text.head?) :
    c.isDigit = true := by
  obtain ⟨hwhole, -, -⟩ := h.isDigits
  rw [Numeral.text, List.append_assoc, List.head?_append_of_ne_nil _ hwhole.1] at hc
  exact hwhole.2 c (List.mem_of_mem_head? hc)

theorem PlainNumeral.isDigit_of_mem_getLast?
    (h : PlainNumeral x n)
    {c : Char}
    (hc : c ∈ n.text.getLast?) :
    c.isDigit = true := by
  obtain ⟨hwhole, hfraction, hpower⟩ := h.isDigits
  rw [Numeral.text, hpower, Option.elim_none, List.append_nil] at hc
  cases hdigits : n.fraction with
  | none =>
      rw [hdigits, Option.elim_none, List.append_nil] at hc
      exact hwhole.2 c (List.mem_of_getLast? hc)
  | some digits =>
      obtain ⟨hne, hall⟩ := hfraction digits hdigits
      rw [hdigits, Option.elim_some, List.getLast?_append_of_ne_nil _ (by simp),
        List.getLast?_cons_of_ne_nil hne] at hc
      exact hall c (List.mem_of_getLast? hc)

/-- The text of a plain numeral is read as its value. -/
theorem PlainNumeral.exists_read?
    (h : PlainNumeral x n) :
    ∃ y, Number.read? (Binary64.signText n.negative ++ n.text) = .ok (some y)
      ∧ y.equal x = true := by
  obtain ⟨hwhole, hfraction, hpower⟩ := h.isDigits
  obtain ⟨y, hvalue, hequal⟩ := h.exists_value?
  have hcommas : Number.withoutCommas (Binary64.signText n.negative ++ n.text)
      = Binary64.signText n.negative ++ n.text := by
    refine Number.withoutCommas_of_not_mem fun hc => ?_
    rcases List.mem_append.1 hc with hsign | htext
    · exact absurd (Binary64.eq_of_mem_signText hsign) (by decide)
    · rcases h.mem_text htext with hdigit | hpoint
      · exact absurd hdigit (by decide)
      · exact absurd hpoint (by decide)
  refine ⟨y, ?_, hequal⟩
  rw [Number.read?, hcommas, Numeral.scan?_text hwhole hfraction hpower]
  exact hvalue

end Lemmas

end Spreadsheet
