import Spreadsheet.Json.Lenient
import Spreadsheet.Proofs.Json.Number

/-!
# Whole numbers in texts

A whole number that is written without any of the liberties that a text may take
is read as itself.

Result: the text of an integer is the integer (`wholeText?_repr`).
-/

namespace Spreadsheet
namespace Json

section Lemmas

variable {s : List Char}

theorem trimSpace_of_all
    (h : ∀ c ∈ s, Text.isSpace c = false) :
    Text.trimSpace s = s := by
  have hdrop : ∀ t : List Char, (∀ c ∈ t, Text.isSpace c = false) →
      t.dropWhile Text.isSpace = t := by
    intro t ht
    cases t with
    | nil => rfl
    | cons c t => simp [ht c (by simp)]
  rw [Text.trimSpace, hdrop s h, hdrop s.reverse (by simpa using h), List.reverse_reverse]

theorem not_isSpace_of_isDigit
    {c : Char}
    (h : c.isDigit = true) :
    Text.isSpace c = false := by
  have hblank : Text.isBlank c = false := by
    refine Text.isBlank_of_visible ?_
    simp only [Char.isDigit, Bool.and_eq_true, decide_eq_true_eq] at h
    have hlow : 48 ≤ c.toNat := h.1
    have hhigh : c.toNat ≤ 57 := h.2
    omega
  exact (Bool.or_eq_false_iff.1 hblank).1

theorem dropZeros?_digits
    {n : Nat} :
    dropZeros? (Nat.toDigits 10 n) = some (Nat.toDigits 10 n) := by
  rcases Nat.eq_zero_or_pos n with rfl | hpos
  · rfl
  · obtain ⟨c, r, hdigits⟩ := List.exists_cons_of_ne_nil (Nat.toDigits_ne_nil (n := n) (b := 10))
    have hzero := Text.head?_toDigits_ne_zero hpos
    have hc : c.isDigit = true := Text.isDigit_of_mem_toDigits (n := n) (by simp [hdigits])
    rw [hdigits] at hzero ⊢
    rw [dropZeros?, if_neg (fun h => hzero (by rw [h]; rfl)), if_pos (.inl hc)]

theorem dropZeroFraction_of_not_mem
    (h : '.' ∉ s) :
    dropZeroFraction s = s := by
  have hnone : s.dropWhile (· != '.') = [] := by
    rw [List.dropWhile_eq_nil_iff]
    intro c hc
    have : c ≠ '.' := fun heq => h (heq ▸ hc)
    simpa using this
  rw [dropZeroFraction, hnone]

theorem hasDoubleMark_of_not_mem
    (h : '_' ∉ s) :
    hasDoubleMark s = false := by
  induction s with
  | nil => rfl
  | cons c s ih =>
      rw [List.mem_cons, not_or] at h
      rw [hasDoubleMark.eq_def]
      split
      · next heq => exact absurd (List.cons.inj heq).1 (Ne.symm h.1)
      · next heq =>
          obtain ⟨rfl, rfl⟩ := List.cons.inj heq
          exact ih h.2
      · next heq => simp at heq

theorem dropMarks?_of_not_mem
    (h : '_' ∉ s) :
    dropMarks? s = some s := by
  have hhead : s.head? ≠ some '_' := fun heq => h (List.mem_of_head? heq)
  have hlast : s.getLast? ≠ some '_' := fun heq => h (List.mem_of_getLast? heq)
  have hfilter : s.filter (· != '_') = s := by
    rw [List.filter_eq_self]
    intro c hc
    have : c ≠ '_' := fun heq => h (heq ▸ hc)
    simpa using this
  rw [dropMarks?, if_neg, hfilter]
  rintro (heq | heq | heq)
  · exact hhead heq
  · exact hlast heq
  · rw [hasDoubleMark_of_not_mem h] at heq
    exact absurd heq (by simp)

theorem plainNatural?_digits
    {n : Nat}
    (h : (Nat.toDigits 10 n).length ≤ digitLimit) :
    plainNatural? (Nat.toDigits 10 n) = some n := by
  have hall : (Nat.toDigits 10 n).all Char.isDigit = true :=
    List.all_eq_true.2 fun _ => Text.isDigit_of_mem_toDigits
  have hzero : Nat.toDigits 10 n = ['0'] ∨ (Nat.toDigits 10 n).head? ≠ some '0' := by
    rcases Nat.eq_zero_or_pos n with rfl | hpos
    · exact .inl rfl
    · exact .inr (Text.head?_toDigits_ne_zero hpos)
  rw [plainNatural?, if_pos ⟨Nat.toDigits_ne_nil, hall, hzero, h⟩, Text.decimalNat_toDigits]

theorem ne_of_mem_digits
    {n : Nat} {c d : Char} {r : List Char}
    (hdigits : Nat.toDigits 10 n = c :: r)
    (hd : d.isDigit = false) :
    c ≠ d := by
  rintro rfl
  have hc : c.isDigit = true := Text.isDigit_of_mem_toDigits (n := n) (by simp [hdigits])
  rw [hc] at hd
  exact absurd hd (by decide)

theorem withoutZeros?_digits
    {n : Nat} :
    withoutZeros? (Nat.toDigits 10 n) = some (Nat.toDigits 10 n) := by
  rw [← dropZeros?_digits]
  rw [withoutZeros?.eq_def]
  split
  · next h => exact absurd rfl (ne_of_mem_digits h (by decide))
  · next h => exact absurd rfl (ne_of_mem_digits h (by decide))
  · next h => exact absurd rfl (ne_of_mem_digits h (by decide))
  · rfl

theorem plainInteger?_digits
    {n : Nat}
    (h : (Nat.toDigits 10 n).length ≤ digitLimit) :
    plainInteger? (Nat.toDigits 10 n) = some (n : Int) := by
  rw [plainInteger?.eq_def]
  split
  · next hdigits => exact absurd rfl (ne_of_mem_digits hdigits (by decide))
  · rw [plainNatural?_digits h]
    rfl

theorem repr_cases
    (i : Int) :
    i.repr.toList = '-' :: Nat.toDigits 10 i.natAbs ∧ i < 0
      ∨ i.repr.toList = Nat.toDigits 10 i.natAbs ∧ 0 ≤ i := by
  rw [toList_repr]
  rcases Int.lt_or_le i 0 with hi | hi
  · left
    simp [Numeral.text, Binary64.signText, hi]
  · right
    simp [Numeral.text, Binary64.signText, Int.not_lt.2 hi, hi]

theorem mem_repr
    {i : Int} {c : Char}
    (h : c ∈ i.repr.toList) :
    c = '-' ∨ c.isDigit = true := by
  rcases repr_cases i with ⟨hi, -⟩ | ⟨hi, -⟩
  · rw [hi] at h
    rcases List.mem_cons.1 h with rfl | h
    · exact .inl rfl
    · exact .inr (Text.isDigit_of_mem_toDigits h)
  · rw [hi] at h
    exact .inr (Text.isDigit_of_mem_toDigits h)

/-- The text of an integer is the integer. -/
theorem wholeText?_repr
    {i : Int}
    (h : IsWritable i) :
    wholeText? i.repr.toList = some i := by
  have hlength := length_toDigits_le h
  have hspace : ∀ c ∈ i.repr.toList, Text.isSpace c = false := by
    intro c hc
    rcases mem_repr hc with rfl | hdigit
    · rfl
    · exact not_isSpace_of_isDigit hdigit
  have hpoint : '.' ∉ i.repr.toList := fun hc => by
    rcases mem_repr hc with h | h <;> simp at h
  have hmark : '_' ∉ i.repr.toList := fun hc => by
    rcases mem_repr hc with h | h <;> simp at h
  rw [wholeText?, trimSpace_of_all hspace]
  have hplain : withoutZeros? i.repr.toList = some i.repr.toList
      ∧ plainInteger? i.repr.toList = some i := by
    rcases repr_cases i with ⟨hi, hneg⟩ | ⟨hi, hnonneg⟩
    · rw [hi]
      constructor
      · rw [withoutZeros?, dropZeros?_digits]
        rfl
      · rw [plainInteger?, plainNatural?_digits hlength]
        show some (-(i.natAbs : Int)) = some i
        congr 1
        omega
    · rw [hi]
      refine ⟨withoutZeros?_digits, ?_⟩
      rw [plainInteger?_digits hlength]
      congr 1
      omega
  simp [hplain, dropZeroFraction_of_not_mem hpoint, dropMarks?_of_not_mem hmark]

end Lemmas

end Json
end Spreadsheet
