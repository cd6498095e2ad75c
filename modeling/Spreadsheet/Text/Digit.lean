/-!
# Decimal digits

Every script with positional decimal digits has ten of them in a row, zero
first.  `decimalValue?` gives the value of such a digit; `isDigitMark` also
takes the marks that stand for a digit without being one of ten, such as a
superscript two.

Results: the digits of the core library are digits here with their usual value
(`decimalValue?_ascii`), a decimal digit is below ten (`decimalValue?_lt`), and
digits without marks between them are left as they are
(`partedDigits?_of_all`).
-/

namespace Spreadsheet
namespace Text

/-- The zeros of the decimal scripts other than ASCII. -/
def scriptZeros : List Nat :=
  [
    0x00660, 0x006f0, 0x007c0, 0x00966, 0x009e6, 0x00a66, 0x00ae6, 0x00b66,
    0x00be6, 0x00c66, 0x00ce6, 0x00d66, 0x00de6, 0x00e50, 0x00ed0, 0x00f20,
    0x01040, 0x01090, 0x017e0, 0x01810, 0x01946, 0x019d0, 0x01a80, 0x01a90,
    0x01b50, 0x01bb0, 0x01c40, 0x01c50, 0x0a620, 0x0a8d0, 0x0a900, 0x0a9d0,
    0x0a9f0, 0x0aa50, 0x0abf0, 0x0ff10, 0x104a0, 0x10d30, 0x11066, 0x110f0,
    0x11136, 0x111d0, 0x112f0, 0x11450, 0x114d0, 0x11650, 0x116c0, 0x11730,
    0x118e0, 0x11950, 0x11c50, 0x11d50, 0x11da0, 0x16a60, 0x16ac0, 0x16b50,
    0x1d7ce, 0x1d7d8, 0x1d7e2, 0x1d7ec, 0x1d7f6, 0x1e140, 0x1e2f0, 0x1e950,
    0x1fbf0]

/-- Runs of digit marks outside the decimal scripts. -/
def digitMarkRuns : List (Nat × Nat) :=
  [
    (0x000b2, 0x000b3), (0x000b9, 0x000b9), (0x01369, 0x01371), (0x019da, 0x019da),
    (0x02070, 0x02070), (0x02074, 0x02079), (0x02080, 0x02089), (0x02460, 0x02468),
    (0x02474, 0x0247c), (0x02488, 0x02490), (0x024ea, 0x024ea), (0x024f5, 0x024fd),
    (0x024ff, 0x024ff), (0x02776, 0x0277e), (0x02780, 0x02788), (0x0278a, 0x02792),
    (0x10a40, 0x10a43), (0x10e60, 0x10e68), (0x11052, 0x1105a), (0x1f100, 0x1f10a)]

/-- The value of a decimal digit of any script. -/
def decimalValue? (c : Char) : Option Nat :=
  if c.isDigit then
    some (c.toNat - 0x30)
  else
    (scriptZeros.find? fun z => z ≤ c.toNat && c.toNat < z + 10).map (c.toNat - ·)

/-- A decimal digit of any script. -/
def isDecimal (c : Char) : Bool :=
  (decimalValue? c).isSome

/-- A decimal digit or a digit mark. -/
def isDigitMark (c : Char) : Bool :=
  isDecimal c || digitMarkRuns.any fun r => r.1 ≤ c.toNat && c.toNat ≤ r.2

/-- The value of a run of decimal digits; other characters count as zero. -/
def decimalNat (s : List Char) : Nat :=
  s.foldl (fun n c => 10 * n + (decimalValue? c).getD 0) 0

/-- The digits of a text in which single underscores may part them; none if
that is not all it holds. -/
def partedDigits? (isDigit : Char → Bool) : List Char → Option (List Char)
  | [] => none
  | [c] => if isDigit c then some [c] else none
  | c :: '_' :: s => if isDigit c then (partedDigits? isDigit s).map (c :: ·) else none
  | c :: s => if isDigit c then (partedDigits? isDigit s).map (c :: ·) else none

section Lemmas

theorem decimalValue?_ascii
    {c : Char}
    (h : c.isDigit = true) :
    decimalValue? c = some (c.toNat - 0x30) := by
  simp [decimalValue?, h]

theorem decimalValue?_lt
    {c : Char} {d : Nat}
    (h : decimalValue? c = some d) :
    d < 10 := by
  unfold decimalValue? at h
  split at h
  · next hc =>
      have hd := Option.some.inj h
      simp only [Char.isDigit, Bool.and_eq_true, decide_eq_true_eq] at hc
      have h9 : c.toNat ≤ 0x39 := hc.2
      omega
  · obtain ⟨z, hz, rfl⟩ := Option.map_eq_some_iff.1 h
    have := List.find?_some hz
    simp only [Bool.and_eq_true, decide_eq_true_eq] at this
    omega

@[simp] theorem decimalNat_nil :
    decimalNat [] = 0 := rfl

theorem decimalNat_append_singleton
    (s : List Char) (c : Char) :
    decimalNat (s ++ [c]) = 10 * decimalNat s + (decimalValue? c).getD 0 := by
  simp [decimalNat]

theorem partedDigits?_of_all
    {isDigit : Char → Bool} {s : List Char}
    (hmark : isDigit '_' = false)
    (hne : s ≠ [])
    (hall : ∀ c ∈ s, isDigit c = true) :
    partedDigits? isDigit s = some s := by
  fun_induction partedDigits? isDigit s with
  | case1 => exact absurd rfl hne
  | case2 => rfl
  | case3 c hc => exact absurd (hall c (by simp)) hc
  | case4 c s _ _ => exact absurd (hall '_' (by simp)) (by simp [hmark])
  | case5 c s hc => exact absurd (hall c (by simp)) hc
  | case6 c s hs _ _ ih =>
      rw [ih (fun h => hs h) (fun d hd => hall d (List.mem_cons_of_mem _ hd))]
      rfl
  | case7 c s _ _ hc => exact absurd (hall c (by simp)) hc

end Lemmas

end Text
end Spreadsheet
