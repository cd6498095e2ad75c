import Spreadsheet.Json.Printer
import Spreadsheet.Json.Token
import Spreadsheet.Proofs.Number.Numeral

/-!
# Numbers between other tokens

A number is read as far as its characters go, so it is read as itself only if
what follows cannot go on with it.

Result: a written number is read as itself, of the same kind
(`scanToken_numberText`).
-/

namespace Spreadsheet
namespace Json

open Numeral

/-- What follows cannot go on with a number. -/
def EndsNumber (s : List Char) : Prop :=
  ∀ c r, s = c :: r → c.isDigit = false ∧ c ≠ '.' ∧ c ≠ 'e' ∧ c ≠ 'E'

/-- What follows is no digit. -/
def EndsDigits (s : List Char) : Prop :=
  ∀ c r, s = c :: r → c.isDigit = false

section Lemmas

variable {s rest : List Char}

theorem EndsNumber.endsDigits
    (h : EndsNumber rest) :
    EndsDigits rest :=
  fun c r hr => (h c r hr).1

theorem endsNumber_nil :
    EndsNumber [] := by
  intro c r h
  simp at h

theorem endsNumber_cons
    {c : Char}
    (hc : c.isDigit = false ∧ c ≠ '.' ∧ c ≠ 'e' ∧ c ≠ 'E')
    (s : List Char) :
    EndsNumber (c :: s) := by
  intro d r h
  obtain ⟨rfl, -⟩ := List.cons.inj h
  exact hc

theorem endsDigits_cons
    {c : Char}
    (hc : c.isDigit = false)
    (s : List Char) :
    EndsDigits (c :: s) := by
  intro d r h
  obtain ⟨rfl, -⟩ := List.cons.inj h
  exact hc

theorem takeWhile_digits
    (hs : ∀ c ∈ s, c.isDigit = true)
    (hrest : EndsDigits rest) :
    (s ++ rest).takeWhile Char.isDigit = s := by
  rw [List.takeWhile_append_of_pos hs]
  cases rest with
  | nil => simp
  | cons c r => simp [hrest c r rfl]

theorem dropWhile_digits
    (hs : ∀ c ∈ s, c.isDigit = true)
    (hrest : EndsDigits rest) :
    (s ++ rest).dropWhile Char.isDigit = rest := by
  rw [List.dropWhile_append_of_pos hs]
  cases rest with
  | nil => rfl
  | cons c r => simp [hrest c r rfl]

theorem scanWhole?_append
    (hs : IsDigits s)
    (hzero : s = ['0'] ∨ s.head? ≠ some '0')
    (hrest : EndsDigits rest) :
    scanWhole? (s ++ rest) = some (s, rest) := by
  obtain ⟨c, r, rfl⟩ := List.exists_cons_of_ne_nil hs.1
  rcases hzero with hzero | hzero
  · obtain ⟨rfl, rfl⟩ := List.cons.inj hzero
    rfl
  · have hc : c ≠ '0' := fun h => hzero (by rw [h]; rfl)
    have hr : ∀ d ∈ r, d.isDigit = true := fun d hd => hs.2 d (List.mem_cons_of_mem _ hd)
    rw [List.cons_append, scanWhole?.eq_def]
    split
    · next h => exact absurd (List.cons.inj h).1 hc
    · next h =>
        obtain ⟨rfl, rfl⟩ := List.cons.inj h
        rw [if_pos (hs.2 _ (by simp)), takeWhile_digits hr hrest, dropWhile_digits hr hrest]
    · next h => simp at h

theorem scanFraction_append
    {fraction : Option (List Char)}
    (hs : ∀ digits, fraction = some digits → IsDigits digits)
    (hrest : EndsDigits rest)
    (hpoint : ∀ r, rest ≠ '.' :: r) :
    scanFraction ((fraction.elim [] fun digits => '.' :: digits) ++ rest) = (fraction, rest) := by
  cases fraction with
  | none =>
      rw [Option.elim_none, List.nil_append, scanFraction.eq_def]
      split
      · exact absurd rfl (hpoint _)
      · rfl
  | some digits =>
      have hdigits := hs digits rfl
      obtain ⟨c, r, rfl⟩ := List.exists_cons_of_ne_nil hdigits.1
      have hr : ∀ d ∈ r, d.isDigit = true := fun d hd => hdigits.2 d (List.mem_cons_of_mem _ hd)
      simp only [Option.elim_some, List.cons_append, scanFraction]
      rw [if_pos (hdigits.2 c (by simp)), takeWhile_digits hr hrest, dropWhile_digits hr hrest]

theorem scanPower_append
    {power : Option (Bool × List Char)}
    (hs : ∀ sign digits, power = some (sign, digits) → IsDigits digits)
    (hrest : EndsNumber rest) :
    scanPower ((power.elim [] fun power => 'e' :: (if power.1 then '-' else '+') :: power.2) ++ rest)
      = (power, rest) := by
  cases power with
  | none =>
      rw [Option.elim_none, List.nil_append, scanPower.eq_def]
      split
      · exact absurd rfl (hrest _ _ rfl).2.2.1
      · exact absurd rfl (hrest _ _ rfl).2.2.2
      · rfl
  | some power =>
      obtain ⟨sign, digits⟩ := power
      have hdigits := hs sign digits rfl
      have hsign : Numeral.scanSign ((if sign then '-' else '+') :: (digits ++ rest))
          = (sign, digits ++ rest) := by
        cases sign <;> rfl
      simp only [Option.elim_some, List.cons_append, scanPower, hsign,
        takeWhile_digits hdigits.2 hrest.endsDigits, dropWhile_digits hdigits.2 hrest.endsDigits]
      rw [if_neg (by simp [hdigits.1])]

/-- The parts of a number are read as they are written. -/
theorem scanNumber?_text
    {n : Numeral}
    (hn : n.IsPlain)
    (hrest : EndsNumber rest) :
    scanNumber? n.negative (n.text ++ rest) = some (numberToken n, rest) := by
  have hpower := scanPower_append hn.power hrest
  have hfraction : ∀ t, (n.power.elim [] fun power =>
      'e' :: (if power.1 then '-' else '+') :: power.2) ++ rest = t →
      EndsDigits t ∧ (∀ r, t ≠ '.' :: r) := by
    rintro t rfl
    cases n.power with
    | none => exact ⟨hrest.endsDigits, fun r hr => (hrest _ _ hr).2.1 rfl⟩
    | some power => exact ⟨endsDigits_cons (by decide) _, fun r hr => by simp at hr⟩
  obtain ⟨hdigits, hpoint⟩ := hfraction _ rfl
  have hwhole : EndsDigits ((n.fraction.elim [] fun digits => '.' :: digits)
      ++ ((n.power.elim [] fun power => 'e' :: (if power.1 then '-' else '+') :: power.2)
        ++ rest)) := by
    cases n.fraction with
    | none => exact hdigits
    | some digits => exact endsDigits_cons (by decide) _
  unfold scanNumber? Numeral.text
  rw [List.append_assoc, List.append_assoc, scanWhole?_append hn.whole hn.noZero hwhole]
  simp only [scanFraction_append hn.fraction hdigits hpoint, hpower]

/-- What starts with a digit is read as a number. -/
theorem scanToken_digit
    {c : Char}
    (hc : c.isDigit = true)
    (s : List Char) :
    scanToken (c :: s) = (scanNumber? false (c :: s)).getD (.stray, []) := by
  have hne : ∀ d, d.isDigit = false → c ≠ d := by
    rintro d hd rfl
    rw [hc] at hd
    exact absurd hd (by decide)
  rw [scanToken.eq_def]
  split
  all_goals try rfl
  all_goals
    next h => exact absurd (List.cons.inj h).1 (hne _ (by decide))

/-- What starts with a minus sign and a digit is read as a number. -/
theorem scanToken_minus
    {c : Char}
    (hc : c.isDigit = true)
    (s : List Char) :
    scanToken ('-' :: c :: s) = (scanNumber? true (c :: s)).getD (.stray, []) := by
  have hne : c ≠ 'I' := by
    rintro rfl
    exact absurd hc (by decide)
  rw [scanToken]
  intro r h
  exact hne (List.cons.inj h).1

/-- A sign and digits are read as a number. -/
theorem scanToken_text
    {n : Numeral}
    (hn : n.IsPlain)
    (hrest : EndsNumber rest) :
    scanToken (Binary64.signText n.negative ++ n.text ++ rest) = (numberToken n, rest) := by
  have hscan := scanNumber?_text hn hrest
  obtain ⟨c, r, hwhole⟩ := List.exists_cons_of_ne_nil hn.whole.1
  have hc := hn.whole.2 c (by simp [hwhole])
  obtain ⟨t, ht⟩ : ∃ t, n.text ++ rest = c :: t := by
    simp [Numeral.text, hwhole]
  rw [List.append_assoc, ht]
  rw [ht] at hscan
  cases hsign : n.negative with
  | true =>
      rw [hsign] at hscan
      simp only [Binary64.signText, if_true, List.singleton_append]
      rw [scanToken_minus hc, hscan]
      rfl
  | false =>
      rw [hsign] at hscan
      simp only [Binary64.signText, Bool.false_eq_true, if_false, List.nil_append]
      rw [scanToken_digit hc, hscan]
      rfl

/-- A numeral with a point or a power is a binary number. -/
theorem numberToken_of_isBinary
    {n : Numeral}
    (h : n.IsBinary) :
    numberToken n = .number (.float n.toBinary64) := by
  unfold numberToken
  rw [if_neg]
  rcases h with h | h
  · simp [h]
  · simp [h]

theorem isPlain_integer
    (i : Int) :
    IsPlain ⟨decide (i < 0), Nat.toDigits 10 i.natAbs, none, none⟩ := by
  refine ⟨⟨Nat.toDigits_ne_nil, fun _ => Text.isDigit_of_mem_toDigits⟩, ?_,
    fun _ h => by simp at h, fun _ _ h => by simp at h⟩
  rcases Nat.eq_zero_or_pos i.natAbs with hzero | hpos
  · left
    simp [hzero]
  · exact .inr (Text.head?_toDigits_ne_zero hpos)

/-- An integer that can be written has no more digits than can be read. -/
theorem length_toDigits_le
    {i : Int}
    (h : IsWritable i) :
    (Nat.toDigits 10 i.natAbs).length ≤ digitLimit := by
  unfold IsWritable at h
  have hpos : 0 < digitLimit := by decide
  generalize digitLimit = limit at h hpos ⊢
  exact (Nat.length_toDigits_le_iff (by decide) hpos).2 h

/-- The sign of an integer and the digits of its magnitude write it. -/
theorem integer_natAbs
    {i : Int}
    (h : IsWritable i) :
    Numeral.integer (decide (i < 0)) (Nat.toDigits 10 i.natAbs) = .ok i := by
  unfold Numeral.integer
  rw [if_neg (Nat.not_lt.2 (length_toDigits_le h)), Text.decimalNat_toDigits]
  simp only [decide_eq_true_eq]
  congr 1
  split <;> omega

theorem numberToken_integer
    {i : Int}
    (h : IsWritable i) :
    numberToken ⟨decide (i < 0), Nat.toDigits 10 i.natAbs, none, none⟩ = .number (.int i) := by
  simp only [numberToken, Option.isNone_none, Bool.and_self, if_true, integer_natAbs h]

theorem toList_repr
    (i : Int) :
    i.repr.toList
      = Binary64.signText (decide (i < 0))
        ++ Numeral.text ⟨decide (i < 0), Nat.toDigits 10 i.natAbs, none, none⟩ := by
  rw [Int.repr_eq_if]
  rcases Int.lt_or_le i 0 with hi | hi
  · have hnat : (-i).toNat = i.natAbs := by omega
    simp [Numeral.text, Binary64.signText, hi, Int.not_le.2 hi, hnat]
  · have hnat : i.toNat = i.natAbs := by omega
    simp [Numeral.text, Binary64.signText, hi, Int.not_lt.2 hi, hnat]

theorem integerText_eq_ok
    {i : Int} {text : String}
    (h : integerText i = .ok text) :
    IsWritable i ∧ text = i.repr := by
  unfold integerText at h
  split at h
  · next hi => exact ⟨hi, (Except.ok.inj h).symm⟩
  · simp at h

/-- A written number is read as itself, of the same kind. -/
theorem scanToken_numberText
    {layout : Layout} {x : Number} {text : String}
    (h : numberText layout x = .ok text)
    (hrest : EndsNumber rest) :
    scanToken (text.toList ++ rest) = (.number x, rest) := by
  cases x with
  | int i =>
      obtain ⟨hi, rfl⟩ := integerText_eq_ok h
      have hscan := scanToken_text (isPlain_integer i) hrest
      rw [numberToken_integer hi] at hscan
      rw [toList_repr]
      exact hscan
  | float x =>
      have htext : text = String.ofList (x.numeral numberStyle) := by
        unfold numberText at h
        simp only at h
        split at h
        · simp at h
        · exact (Except.ok.inj h).symm
      rw [htext, String.toList_ofList]
      cases hx : x.isFinite with
      | true =>
          have hending : numberStyle.wholeEnding = ".0" ∨ numberStyle.wholeEnding = "" := .inl rfl
          obtain ⟨n, hplain, hbinary, hnumeral, hvalue⟩ := Binary64.exists_numeral hx hending
          rw [hnumeral, scanToken_text hplain hrest, numberToken_of_isBinary (hbinary rfl), hvalue]
      | false =>
          cases x with
          | finite negative units fits => simp [Binary64.isFinite] at hx
          | infinite negative => cases negative <;> rfl
          | nan => rfl

end Lemmas

end Json
end Spreadsheet
