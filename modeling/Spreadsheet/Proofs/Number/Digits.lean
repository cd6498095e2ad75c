import Mathlib.Data.List.Induction
import Mathlib.Tactic.Ring
import Spreadsheet.Fault
import Spreadsheet.Text.Digit

/-!
# Digits and the numbers they write

Results: digits behind others count less by their number of places
(`decimalNat_append`), a natural number is what its digits write
(`decimalNat_toDigits`), and an integer of a few places can be written
(`isWritable_of_lt_pow`).
-/

namespace Spreadsheet

section Lemmas

theorem isWritable_of_lt_pow
    {i : Int}
    (places : Nat)
    (hplaces : places ≤ digitLimit)
    (h : i.natAbs < 10 ^ places) :
    IsWritable i := by
  unfold IsWritable
  -- The power is kept from being computed.
  generalize digitLimit = limit at hplaces ⊢
  exact Nat.lt_of_lt_of_le h (Nat.pow_le_pow_right (by decide) hplaces)

theorem isWritable_of_le
    {i j : Int}
    (hzero : 0 ≤ i)
    (hle : i ≤ j)
    (hj : IsWritable j) :
    IsWritable i := by
  unfold IsWritable at hj ⊢
  generalize Nat.pow 10 digitLimit = bound at hj ⊢
  omega

end Lemmas

namespace Text

section Lemmas

theorem decimalNat_append
    (s t : List Char) :
    decimalNat (s ++ t) = decimalNat s * 10 ^ t.length + decimalNat t := by
  induction t using List.reverseRecOn with
  | nil => simp
  | append_singleton t c ih =>
      rw [← List.append_assoc, decimalNat_append_singleton, ih, decimalNat_append_singleton,
        List.length_append, List.length_singleton, Nat.pow_succ]
      ring

theorem decimalNat_zeros
    (n : Nat) :
    decimalNat (List.replicate n '0') = 0 := by
  induction n with
  | zero => rfl
  | succ n ih =>
      rw [List.replicate_succ', decimalNat_append_singleton, ih]
      rfl

theorem decimalNat_zeros_append
    (n : Nat) (s : List Char) :
    decimalNat (List.replicate n '0' ++ s) = decimalNat s := by
  rw [decimalNat_append, decimalNat_zeros, Nat.zero_mul, Nat.zero_add]

theorem decimalNat_append_zeros
    (s : List Char) (n : Nat) :
    decimalNat (s ++ List.replicate n '0') = decimalNat s * 10 ^ n := by
  rw [decimalNat_append, decimalNat_zeros, List.length_replicate, Nat.add_zero]

theorem decimalNat_lt
    (s : List Char) :
    decimalNat s < 10 ^ s.length := by
  induction s using List.reverseRecOn with
  | nil => simp
  | append_singleton s c ih =>
      have hdigit : (decimalValue? c).getD 0 ≤ 9 := by
        cases hc : decimalValue? c with
        | none => simp
        | some d =>
            have := decimalValue?_lt hc
            simp only [Option.getD_some]
            omega
      rw [decimalNat_append_singleton, List.length_append, List.length_singleton, Nat.pow_succ]
      omega

theorem decimalValue?_digitChar
    {d : Nat}
    (hd : d < 10) :
    decimalValue? d.digitChar = some d := by
  rw [decimalValue?_ascii (by simpa [Nat.isDigit_digitChar] using hd),
    Nat.toNat_digitChar_sub_48_of_lt_ten hd]

/-- A natural number is what its digits write. -/
theorem decimalNat_toDigits
    (n : Nat) :
    decimalNat (Nat.toDigits 10 n) = n := by
  induction n using Nat.strongRecOn with
  | ind n ih =>
      rcases Nat.lt_or_ge n 10 with hn | hn
      · rw [Nat.toDigits_of_lt_base hn]
        simp [decimalNat, decimalValue?_digitChar hn]
      · rw [Nat.toDigits_of_base_le (by decide) hn, decimalNat_append_singleton,
          ih (n / 10) (by omega), decimalValue?_digitChar (Nat.mod_lt n (by decide))]
        simp only [Option.getD_some]
        omega

theorem isDigit_of_mem_toDigits
    {n : Nat} {c : Char}
    (h : c ∈ Nat.toDigits 10 n) :
    c.isDigit = true :=
  Nat.isDigit_of_mem_toDigits (by decide) (by decide) h

/-- A positive number does not begin with a zero. -/
theorem head?_toDigits_ne_zero
    {n : Nat}
    (hn : 0 < n) :
    (Nat.toDigits 10 n).head? ≠ some '0' := by
  induction n using Nat.strongRecOn with
  | ind n ih =>
      rcases Nat.lt_or_ge n 10 with hlt | hge
      · rw [Nat.toDigits_of_lt_base hlt]
        intro h
        have hvalue := decimalValue?_digitChar hlt
        rw [Option.some.inj h] at hvalue
        have : n = 0 := (Option.some.inj hvalue).symm
        omega
      · rw [Nat.toDigits_of_base_le (by decide) hge, List.head?_append,
          Option.or_of_isSome (by simp)]
        exact ih (n / 10) (by omega) (by omega)

end Lemmas

end Text
end Spreadsheet
