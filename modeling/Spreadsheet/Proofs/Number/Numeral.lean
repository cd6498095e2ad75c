import Mathlib.Data.List.TakeWhile
import Spreadsheet.Proofs.Binary64.Shortest
import Spreadsheet.Proofs.Number.Digits
import Spreadsheet.Number.Printer
import Spreadsheet.Number.Reader

/-!
# Numerals that are written

A binary number is written as a numeral: digits, and where they apply a point
and further digits and a power of ten.  The value of the numeral is that of the
shortest decimal, whichever way its digits are laid out.

Result: what is written for a finite binary number are the parts of a numeral
that is read as the number (`exists_numeral`).
-/

namespace Spreadsheet
namespace Numeral

/-- The digits with their power of ten. -/
def decimal (n : Numeral) : Decimal :=
  ⟨Text.decimalNat (n.whole ++ n.fraction.getD []), n.exponent - (n.fraction.getD []).length⟩

/-- The characters of the parts, without the sign. -/
def text (n : Numeral) : List Char :=
  n.whole ++ (n.fraction.elim [] fun digits => '.' :: digits)
    ++ n.power.elim [] fun power => 'e' :: (if power.1 then '-' else '+') :: power.2

/-- At least one digit, and nothing else. -/
def IsDigits (s : List Char) : Prop := s ≠ [] ∧ ∀ c ∈ s, c.isDigit = true

/-- All parts are digits, and the first has no needless zero. -/
structure IsPlain (n : Numeral) : Prop where
  whole : IsDigits n.whole
  noZero : n.whole = ['0'] ∨ n.whole.head? ≠ some '0'
  fraction : ∀ digits, n.fraction = some digits → IsDigits digits
  power : ∀ sign digits, n.power = some (sign, digits) → IsDigits digits

/-- The numeral has a point or a power of ten. -/
def IsBinary (n : Numeral) : Prop := n.fraction ≠ none ∨ n.power ≠ none

/-- The numeral is written as `s` and has the value `v`. -/
structure Writes (n : Numeral) (s : List Char) (v : ℚ) : Prop where
  text : n.text = s
  isPlain : n.IsPlain
  value : n.decimal.value = v

end Numeral

section Lemmas

open Numeral

/-- The text of a sign holds nothing but a minus. -/
theorem Binary64.eq_of_mem_signText
    {negative : Bool} {c : Char}
    (h : c ∈ Binary64.signText negative) :
    c = '-' := by
  unfold Binary64.signText at h
  split at h
  · exact List.mem_singleton.1 h
  · cases h

theorem Number.withoutCommas_of_not_mem
    {s : List Char}
    (h : ',' ∉ s) :
    Number.withoutCommas s = s := by
  refine List.filter_eq_self.2 fun c hc => ?_
  rw [bne_iff_ne]
  rintro rfl
  exact h hc

theorem Numeral.toBinary64_eq
    (n : Numeral) :
    n.toBinary64 = Binary64.ofDecimal n.negative n.decimal.digits n.decimal.exponent := rfl

namespace Decimal

variable {style : NumeralStyle} {digits : List Char}

/-- Digits and the place of the point, as a number. -/
def placed (digits : List Char) (whole : Int) : ℚ :=
  Text.decimalNat digits * 10 ^ (whole - digits.length)

theorem isDigits_append
    {s t : List Char}
    (hs : IsDigits s)
    (ht : ∀ c ∈ t, c.isDigit = true) :
    IsDigits (s ++ t) := by
  refine ⟨by simp [hs.1], ?_⟩
  intro c hc
  rcases List.mem_append.1 hc with hc | hc
  · exact hs.2 c hc
  · exact ht c hc

theorem isDigit_of_mem_zeros
    {n : Nat} {c : Char}
    (h : c ∈ List.replicate n '0') :
    c.isDigit = true := by
  rw [List.eq_of_mem_replicate h]
  rfl

/-- Below one: a zero, and zeros behind the point. -/
theorem writes_placePoint_of_nonpos
    {whole : Int}
    (negative : Bool)
    (hdigits : IsDigits digits)
    (hwhole : whole ≤ 0) :
    Writes ⟨negative, ['0'], some (List.replicate (-whole).toNat '0' ++ digits), none⟩
      (placePoint style digits whole) (placed digits whole) := by
  constructor
  case text =>
    simp [Numeral.text, placePoint, hwhole]
  case isPlain =>
    constructor
    case whole => exact ⟨by simp, by simp⟩
    case noZero => exact .inl rfl
    case fraction =>
      intro _ h
      obtain rfl := Option.some.inj h
      refine ⟨by simp [hdigits.1], ?_⟩
      intro c hc
      rcases List.mem_append.1 hc with hc | hc
      · exact isDigit_of_mem_zeros hc
      · exact hdigits.2 c hc
    case power =>
      intro sign power h
      simp at h
  case value =>
    have hvalue : Text.decimalNat ('0' :: (List.replicate (-whole).toNat '0' ++ digits))
        = Text.decimalNat digits := by
      rw [← List.cons_append, ← List.replicate_succ, Text.decimalNat_zeros_append]
    simp only [Numeral.decimal, Decimal.value, placed, Numeral.exponent, Option.getD_some,
      List.cons_append, List.nil_append, hvalue, List.length_append, List.length_replicate]
    congr 2
    omega

/-- A whole number: zeros fill it up. -/
theorem writes_placePoint_of_le
    {whole : Int}
    (negative : Bool)
    (hdigits : IsDigits digits)
    (hzero : digits.head? ≠ some '0')
    (hending : style.wholeEnding = ".0" ∨ style.wholeEnding = "")
    (hpos : 0 < whole)
    (hwhole : (digits.length : Int) ≤ whole) :
    ∃ fraction, (style.wholeEnding = ".0" → fraction ≠ none)
      ∧ Writes
          ⟨negative, digits ++ List.replicate (whole.toNat - digits.length) '0', fraction, none⟩
          (placePoint style digits whole) (placed digits whole) := by
  have hfilled : IsDigits (digits ++ List.replicate (whole.toNat - digits.length) '0') :=
    isDigits_append hdigits fun _ => isDigit_of_mem_zeros
  have hhead : (digits ++ List.replicate (whole.toNat - digits.length) '0').head? ≠ some '0' := by
    rw [List.head?_append, Option.or_of_isSome (by simp [hdigits.1])]
    exact hzero
  have hpow : (10 : ℚ) ^ (whole - digits.length) = 10 ^ (whole.toNat - digits.length) := by
    rw [← zpow_natCast]
    congr 1
    omega
  rcases hending with hending | hending
  · refine ⟨some ['0'], fun _ => by simp, ?_, ?_, ?_⟩
    · simp [Numeral.text, placePoint, Int.not_le.2 hpos, hwhole, hending]
    · refine ⟨hfilled, .inr hhead, fun _ h => ?_, fun _ _ h => by simp at h⟩
      obtain rfl := Option.some.inj h
      exact ⟨by simp, by simp⟩
    · have hvalue := Text.decimalNat_append_zeros digits (whole.toNat - digits.length + 1)
      rw [List.replicate_succ', ← List.append_assoc] at hvalue
      simp only [Numeral.decimal, Decimal.value, placed, Numeral.exponent, Option.getD_some,
        hvalue, hpow]
      push_cast
      rw [pow_succ]
      norm_num
      ring
  · refine ⟨none, fun h => by simp [hending] at h, ?_, ?_, ?_⟩
    · simp [Numeral.text, placePoint, Int.not_le.2 hpos, hwhole, hending]
    · exact ⟨hfilled, .inr hhead, fun _ h => by simp at h, fun _ _ h => by simp at h⟩
    · simp only [Numeral.decimal, Decimal.value, placed, Numeral.exponent, Option.getD_none,
        List.append_nil, Text.decimalNat_append_zeros, hpow]
      push_cast
      norm_num

/-- The point stands among the digits. -/
theorem writes_placePoint_of_lt
    {whole : Int}
    (negative : Bool)
    (hdigits : IsDigits digits)
    (hzero : digits.head? ≠ some '0')
    (hpos : 0 < whole)
    (hwhole : whole < digits.length) :
    Writes ⟨negative, digits.take whole.toNat, some (digits.drop whole.toNat), none⟩
      (placePoint style digits whole) (placed digits whole) := by
  constructor
  case text =>
    simp [Numeral.text, placePoint, Int.not_le.2 hpos, Int.not_le.2 hwhole]
  case isPlain =>
    constructor
    case whole =>
      refine ⟨?_, fun c hc => hdigits.2 c (List.mem_of_mem_take hc)⟩
      rw [Ne, List.take_eq_nil_iff]
      rintro (h | h)
      · omega
      · exact hdigits.1 h
    case noZero =>
      right
      rw [List.head?_take, if_neg (by omega)]
      exact hzero
    case fraction =>
      intro _ h
      obtain rfl := Option.some.inj h
      refine ⟨?_, fun c hc => hdigits.2 c (List.mem_of_mem_drop hc)⟩
      rw [Ne, List.drop_eq_nil_iff]
      omega
    case power =>
      intro sign power h
      simp at h
  case value =>
    simp only [Numeral.decimal, Decimal.value, placed, Numeral.exponent, Option.getD_some,
      List.take_append_drop, List.length_drop]
    congr 2
    omega

/-- The digits of a power of ten, at least two of them. -/
def powerDigits (exponent : Int) : List Char :=
  let power := Nat.toDigits 10 exponent.natAbs
  if power.length < 2 then '0' :: power else power

theorem isDigits_powerDigits
    (exponent : Int) :
    IsDigits (powerDigits exponent) := by
  have hdigits : IsDigits (Nat.toDigits 10 exponent.natAbs) :=
    ⟨Nat.toDigits_ne_nil, fun _ => Text.isDigit_of_mem_toDigits⟩
  unfold powerDigits
  dsimp only
  split
  · refine ⟨by simp, ?_⟩
    intro c hc
    rcases List.mem_cons.1 hc with rfl | hc
    · rfl
    · exact hdigits.2 c hc
  · exact hdigits

theorem decimalNat_powerDigits
    (exponent : Int) :
    Text.decimalNat (powerDigits exponent) = exponent.natAbs := by
  unfold powerDigits
  dsimp only
  split
  · exact (Text.decimalNat_zeros_append 1 _).trans (Text.decimalNat_toDigits _)
  · exact Text.decimalNat_toDigits _

theorem exponent_powerDigits
    (negative : Bool) (whole : List Char) (fraction : Option (List Char)) (exponent : Int) :
    Numeral.exponent ⟨negative, whole, fraction, some (exponent < 0, powerDigits exponent)⟩
      = exponent := by
  simp only [Numeral.exponent, decimalNat_powerDigits, decide_eq_true_eq]
  split <;> omega

/-- One digit, the others behind the point, and a power of ten. -/
theorem writes_scientific
    {whole : Int}
    (negative : Bool)
    (hdigits : IsDigits digits)
    (hzero : digits.head? ≠ some '0') :
    ∃ first fraction, Writes
      ⟨negative, first, fraction, some (whole - 1 < 0, powerDigits (whole - 1))⟩
      (scientific digits (whole - 1)) (placed digits whole) := by
  obtain ⟨c, r, rfl⟩ := List.exists_cons_of_ne_nil hdigits.1
  have hfirst : IsDigits [c] := ⟨by simp, by simpa using hdigits.2 c (by simp)⟩
  have hpower : ∀ sign digits, some (decide (whole - 1 < 0), powerDigits (whole - 1))
      = some (sign, digits) → IsDigits digits := by
    intro sign digits h
    obtain ⟨-, rfl⟩ := Prod.mk.inj (Option.some.inj h)
    exact isDigits_powerDigits _
  cases r with
  | nil =>
      refine ⟨[c], none, ?_, ?_, ?_⟩
      · simp [Numeral.text, scientific, powerDigits]
      · exact ⟨hfirst, .inr hzero, fun _ h => by simp at h, hpower⟩
      · simp only [Numeral.decimal, Decimal.value, placed, exponent_powerDigits,
          Option.getD_none, List.append_nil, List.length_nil, List.length_singleton]
        congr 2
        omega
  | cons d r =>
      refine ⟨[c], some (d :: r), ?_, ?_, ?_⟩
      · simp [Numeral.text, scientific, powerDigits]
      · refine ⟨hfirst, .inr hzero, fun _ h => ?_, hpower⟩
        obtain rfl := Option.some.inj h
        exact ⟨by simp, fun e he => hdigits.2 e (List.mem_cons_of_mem _ he)⟩
      · simp only [Numeral.decimal, Decimal.value, placed, exponent_powerDigits,
          Option.getD_some, List.singleton_append, List.length_cons]
        congr 2
        omega

/-- The digits of a number are its significant ones and zeros. -/
theorem significantDigits_append
    (x : Decimal) :
    ∃ n, Nat.toDigits 10 x.digits = x.significantDigits ++ List.replicate n '0' := by
  have hsplit := List.takeWhile_append_dropWhile
    (p := (· == '0')) (l := (Nat.toDigits 10 x.digits).reverse)
  refine ⟨((Nat.toDigits 10 x.digits).reverse.takeWhile (· == '0')).length, ?_⟩
  have hzeros : (Nat.toDigits 10 x.digits).reverse.takeWhile (· == '0')
      = List.replicate ((Nat.toDigits 10 x.digits).reverse.takeWhile (· == '0')).length '0' := by
    refine List.eq_replicate_of_mem fun c hc => ?_
    simpa using List.mem_takeWhile_imp hc
  rw [hzeros] at hsplit
  have hreverse := congrArg List.reverse hsplit
  rw [List.reverse_append, List.reverse_reverse, List.reverse_replicate] at hreverse
  exact hreverse.symm

theorem significantDigits_facts
    {x : Decimal}
    (hpos : 0 < x.digits) :
    IsDigits x.significantDigits ∧ x.significantDigits.head? ≠ some '0'
      ∧ placed x.significantDigits (x.exponent + (Nat.toDigits 10 x.digits).length) = x.value := by
  obtain ⟨n, hn⟩ := significantDigits_append x
  have hhead := Text.head?_toDigits_ne_zero hpos
  have hne : x.significantDigits ≠ [] := by
    intro hnil
    rw [hnil, List.nil_append] at hn
    rw [hn] at hhead
    cases n with
    | zero => exact Nat.toDigits_ne_nil hn
    | succ n => exact hhead rfl
  refine ⟨⟨hne, fun c hc => ?_⟩, ?_, ?_⟩
  · refine Text.isDigit_of_mem_toDigits (n := x.digits) ?_
    rw [hn]
    exact List.mem_append_left _ hc
  · rwa [hn, List.head?_append, Option.or_of_isSome (by simp [hne])] at hhead
  · have hvalue := Text.decimalNat_toDigits x.digits
    rw [hn, Text.decimalNat_append_zeros] at hvalue
    have hsum : x.exponent + (Nat.toDigits 10 x.digits).length - x.significantDigits.length
        = n + x.exponent := by
      rw [hn, List.length_append, List.length_replicate]
      push_cast
      omega
    unfold placed Decimal.value
    rw [hsum, zpow_add₀ (by norm_num), zpow_natCast, ← mul_assoc]
    congr 1
    exact_mod_cast hvalue

/-- A positive decimal is written as a numeral of its value. -/
theorem exists_numeral
    {x : Decimal}
    (negative : Bool)
    (hpos : 0 < x.digits)
    (hending : style.wholeEnding = ".0" ∨ style.wholeEnding = "") :
    ∃ n : Numeral, n.negative = negative ∧ (style.wholeEnding = ".0" → n.IsBinary)
      ∧ n.Writes (x.numeral style) x.value := by
  obtain ⟨hdigits, hzero, hvalue⟩ := significantDigits_facts hpos
  rw [← hvalue]
  unfold numeral
  dsimp only
  generalize x.exponent + ((Nat.toDigits 10 x.digits).length : Int) = whole
  split
  · rcases Int.lt_or_le 0 whole with hwhole | hwhole
    · rcases Int.lt_or_le whole x.significantDigits.length with hlt | hle
      · exact ⟨_, rfl, fun _ => .inl (by simp),
          writes_placePoint_of_lt negative hdigits hzero hwhole hlt⟩
      · obtain ⟨fraction, hfraction, hwrites⟩ :=
          writes_placePoint_of_le negative hdigits hzero hending hwhole hle
        exact ⟨_, rfl, fun h => .inl (hfraction h), hwrites⟩
    · exact ⟨_, rfl, fun _ => .inl (by simp),
        writes_placePoint_of_nonpos negative hdigits hwhole⟩
  · obtain ⟨first, fraction, hwrites⟩ := writes_scientific negative hdigits hzero
    exact ⟨_, rfl, fun _ => .inr (by simp), hwrites⟩

end Decimal

namespace Binary64

/-- A finite number is written as its sign and a numeral that is read as it. -/
theorem exists_numeral
    {style : NumeralStyle} {x : Binary64}
    (hfinite : x.isFinite = true)
    (hending : style.wholeEnding = ".0" ∨ style.wholeEnding = "") :
    ∃ n : Numeral, n.IsPlain ∧ (style.wholeEnding = ".0" → n.IsBinary)
      ∧ x.numeral style = signText n.negative ++ n.text ∧ n.toBinary64 = x := by
  cases x with
  | infinite negative => simp [isFinite] at hfinite
  | nan => simp [isFinite] at hfinite
  | finite negative units fits =>
      rcases Nat.eq_zero_or_pos units with rfl | hpos
      · have hzero : IsDigits ['0'] := ⟨by simp, by simp⟩
        rcases hending with hending | hending
        · refine ⟨⟨negative, ['0'], some ['0'], none⟩, ?_, ?_, ?_, ?_⟩
          · refine ⟨hzero, .inl rfl, fun _ h => ?_, fun _ _ h => by simp at h⟩
            obtain rfl := Option.some.inj h
            exact hzero
          · exact fun _ => .inl (by simp)
          · simp [numeral, Numeral.text, hending]
          · rfl
        · refine ⟨⟨negative, ['0'], none, none⟩, ?_, ?_, ?_, ?_⟩
          · exact ⟨hzero, .inl rfl, fun _ h => by simp at h, fun _ _ h => by simp at h⟩
          · exact fun h => by simp [hending] at h
          · simp [numeral, Numeral.text, hending]
          · rfl
      · have hback := readsBack_shortest fits hpos
        obtain ⟨n, rfl, hbinary, hwrites⟩ := Decimal.exists_numeral negative
          (digits_pos_of_readsBack fits hpos hback) hending
        refine ⟨n, hwrites.isPlain, hbinary, ?_, ?_⟩
        · simp [numeral, Nat.ne_of_gt hpos, hwrites.text]
        · rw [n.toBinary64_eq]
          refine ofDecimal_of_readsBack n.negative fits hpos ?_
          rw [readsBack_congr hwrites.value]
          exact hback

end Binary64

end Lemmas

end Spreadsheet
