import Mathlib.Tactic.ByContra
import Spreadsheet.Text.Blank
import Spreadsheet.Text.Digit
import Spreadsheet.Text.Upper

/-!
# Capitals

A text whose ASCII letters are made capitals; every other character stays.  What does not
tell a small letter from its capital gives the same on both texts, which is checked letter
by letter.

Results: a function that agrees on every letter and its capital does not see the case of a
character (`apply_toUpper`), and the parts that a text is cut into become the parts of the
text in capitals (`takeWhile_capitals`, `trim_capitals`).
-/

namespace Spreadsheet
namespace Text

/-- The text with its ASCII letters in upper case. -/
def capitals (s : List Char) : List Char :=
  s.map Char.toUpper

section Characters

theorem isAlpha_iff_toNat
    {c : Char} :
    c.isAlpha = true
      ↔ (65 ≤ c.toNat ∧ c.toNat ≤ 90) ∨ (97 ≤ c.toNat ∧ c.toNat ≤ 122) := by
  have hupper : c.isUpper = true ↔ 65 ≤ c.toNat ∧ c.toNat ≤ 90 := decide_eq_true_iff
  have hlower : c.isLower = true ↔ 97 ≤ c.toNat ∧ c.toNat ≤ 122 :=
    Bool.and_eq_true_iff.trans (and_congr decide_eq_true_iff decide_eq_true_iff)
  exact Bool.or_eq_true_iff.trans (or_congr hupper hlower)

theorem toUpper_cases
    (c : Char) :
    c.toUpper = c
      ∨ (97 ≤ c.toNat ∧ c.toNat ≤ 122) ∧ c.toUpper.toNat + 32 = c.toNat := by
  unfold Char.toUpper
  split
  · next h =>
      have hfrom : 97 ≤ c.toNat := h.1
      have hto : c.toNat ≤ 122 := h.2
      have hdistance : ('A'.val - 'a'.val : UInt32).toNat = 2 ^ 32 - 32 := by decide
      refine .inr ⟨⟨hfrom, hto⟩, ?_⟩
      show (c.val + ('A'.val - 'a'.val)).toNat + 32 = c.toNat
      rw [UInt32.toNat_add, hdistance]
      show (c.toNat + (2 ^ 32 - 32)) % 2 ^ 32 + 32 = c.toNat
      omega
  · exact .inl rfl

theorem toLower_cases
    (c : Char) :
    c.toLower = c
      ∨ (65 ≤ c.toNat ∧ c.toNat ≤ 90) ∧ c.toLower.toNat = c.toNat + 32 := by
  unfold Char.toLower
  split
  · next h =>
      have hfrom : 65 ≤ c.toNat := h.1
      have hto : c.toNat ≤ 90 := h.2
      have hdistance : ('a'.val - 'A'.val : UInt32).toNat = 32 := by decide
      refine .inr ⟨⟨hfrom, hto⟩, ?_⟩
      show (c.val + ('a'.val - 'A'.val)).toNat = c.toNat + 32
      rw [UInt32.toNat_add, hdistance]
      show (c.toNat + 32) % 2 ^ 32 = c.toNat + 32
      omega
  · exact .inl rfl

/-- A function that agrees on every letter and its capital does not see the case. -/
theorem apply_toUpper
    {α : Type} {f : Char → α}
    (h : ∀ k < 26, f (Char.ofNat (65 + k)) = f (Char.ofNat (97 + k)))
    (c : Char) :
    f c.toUpper = f c := by
  rcases toUpper_cases c with hsame | ⟨⟨hfrom, hto⟩, hcapital⟩
  · rw [hsame]
  · have hk := h (c.toNat - 97) (by omega)
    have hsmall : 97 + (c.toNat - 97) = c.toNat := by omega
    have hlarge : 65 + (c.toNat - 97) = c.toUpper.toNat := by omega
    rwa [hsmall, hlarge, Char.ofNat_toNat, Char.ofNat_toNat] at hk

/-- Only letters become another character. -/
theorem toUpper_of_isAlpha_eq_false
    {c : Char}
    (h : c.isAlpha = false) :
    c.toUpper = c := by
  rcases toUpper_cases c with hsame | ⟨hletter, -⟩
  · exact hsame
  · rw [isAlpha_iff_toNat.2 (.inr hletter)] at h
    cases h

/-- No letter becomes a character that is none. -/
theorem toUpper_eq_iff
    {c d : Char}
    (hd : d.isAlpha = false) :
    c.toUpper = d ↔ c = d := by
  constructor
  · rintro rfl
    rcases toUpper_cases c with hsame | ⟨⟨hfrom, hto⟩, hcapital⟩
    · exact hsame.symm
    · rw [isAlpha_iff_toNat.2 (.inl (by omega))] at hd
      cases hd
  · rintro rfl
    exact toUpper_of_isAlpha_eq_false hd

theorem toLower_eq_iff
    {c d : Char}
    (hd : d.isAlpha = false) :
    c.toLower = d ↔ c = d := by
  constructor
  · rintro rfl
    rcases toLower_cases c with hsame | ⟨⟨hfrom, hto⟩, hsmall⟩
    · exact hsame.symm
    · rw [isAlpha_iff_toNat.2 (.inr (by omega))] at hd
      cases hd
  · rintro rfl
    rcases toLower_cases c with hsame | ⟨hletter, -⟩
    · exact hsame
    · rw [isAlpha_iff_toNat.2 (.inl hletter)] at hd
      cases hd

/-- A character that becomes a digit is one. -/
theorem toLower_of_isDigit
    {c : Char}
    (h : c.toLower.isDigit = true) :
    c.toLower = c := by
  have hnone : c.toLower.isAlpha = false := by
    have hto : c.toLower.toNat ≤ 57 := (Char.isDigit_iff_toNat.1 h).2
    rw [Bool.eq_false_iff, ne_eq, isAlpha_iff_toNat]
    omega
  exact ((toLower_eq_iff hnone).1 rfl).symm

theorem toLower_lt
    {c : Char}
    (h : c.toNat < 0x80) :
    c.toLower.toNat < 0x80 := by
  rcases toLower_cases c with hsame | ⟨hletter, hsmall⟩
  · rwa [hsame]
  · omega

theorem toUpper_beq
    {d : Char}
    (hd : d.isAlpha = false)
    (c : Char) :
    (c.toUpper == d) = (c == d) := by
  rw [Bool.eq_iff_iff, beq_iff_eq, beq_iff_eq, toUpper_eq_iff hd]

@[simp] theorem toUpper_toUpper
    (c : Char) :
    c.toUpper.toUpper = c.toUpper :=
  apply_toUpper (by decide) c

theorem toUpper_toLower
    (c : Char) :
    c.toLower.toUpper = c.toUpper := by
  rcases toLower_cases c with hsame | ⟨⟨hfrom, hto⟩, hsmall⟩
  · rw [hsame]
  · have hall : ∀ k < 26, (Char.ofNat (97 + k)).toUpper = (Char.ofNat (65 + k)).toUpper := by
      decide
    have hk := hall (c.toNat - 65) (by omega)
    have hfirst : 97 + (c.toNat - 65) = c.toLower.toNat := by omega
    have hsecond : 65 + (c.toNat - 65) = c.toNat := by omega
    rwa [hfirst, hsecond, Char.ofNat_toNat, Char.ofNat_toNat] at hk

@[simp] theorem isBlank_toUpper
    (c : Char) :
    isBlank c.toUpper = isBlank c :=
  apply_toUpper (by decide) c

@[simp] theorem isDigit_toUpper
    (c : Char) :
    c.toUpper.isDigit = c.isDigit :=
  apply_toUpper (by decide) c

@[simp] theorem decimalValue?_toUpper
    (c : Char) :
    decimalValue? c.toUpper = decimalValue? c :=
  apply_toUpper (by decide) c

@[simp] theorem isDecimal_toUpper
    (c : Char) :
    isDecimal c.toUpper = isDecimal c := by
  rw [isDecimal, decimalValue?_toUpper, isDecimal]

theorem upperChar_toUpper
    (c : Char) :
    upperChar c.toUpper = upperChar c := by
  rcases toUpper_cases c with hsame | ⟨hletter, hcapital⟩
  · rw [hsame]
  · rw [upperChar_ascii (by omega), upperChar_ascii (by omega), toUpper_toUpper]

/-- A character of a kind that no small letter is of stays. -/
theorem toUpper_of_kind
    {p : Char → Bool} {c : Char}
    (hp : ∀ k < 26, p (Char.ofNat (97 + k)) = false)
    (hc : p c = true) :
    c.toUpper = c := by
  rcases toUpper_cases c with hsame | ⟨⟨hfrom, hto⟩, -⟩
  · exact hsame
  · have hk := hp (c.toNat - 97) (by omega)
    have hsmall : 97 + (c.toNat - 97) = c.toNat := by omega
    rw [hsmall, Char.ofNat_toNat, hc] at hk
    cases hk

theorem toUpper_of_isDecimal
    {c : Char}
    (h : isDecimal c = true) :
    c.toUpper = c :=
  toUpper_of_kind (by decide) h

/-- The decimal digits of ASCII are the usual ones. -/
theorem isDigit_of_isDecimal
    {c : Char}
    (hascii : c.toNat < 0x80)
    (h : isDecimal c = true) :
    c.isDigit = true := by
  have hzeros : scriptZeros.all (fun z => decide (0x80 ≤ z)) = true := by decide
  by_contra hdigit
  rw [isDecimal, decimalValue?, if_neg hdigit, Option.isSome_map, List.find?_isSome] at h
  obtain ⟨z, hz, hrange⟩ := h
  have hfrom := of_decide_eq_true (List.all_eq_true.1 hzeros z hz)
  simp only [Bool.and_eq_true, decide_eq_true_eq] at hrange
  omega

end Characters

section Texts

variable {s : List Char}

@[simp] theorem capitals_nil :
    capitals [] = [] := rfl

@[simp] theorem capitals_cons
    (c : Char) (s : List Char) :
    capitals (c :: s) = c.toUpper :: capitals s := rfl

@[simp] theorem capitals_append
    (s t : List Char) :
    capitals (s ++ t) = capitals s ++ capitals t :=
  List.map_append

@[simp] theorem length_capitals
    (s : List Char) :
    (capitals s).length = s.length :=
  List.length_map _

@[simp] theorem capitals_eq_nil_iff :
    capitals s = [] ↔ s = [] :=
  List.map_eq_nil_iff

@[simp] theorem capitals_capitals
    (s : List Char) :
    capitals (capitals s) = capitals s := by
  rw [capitals, capitals, List.map_map]
  exact List.map_congr_left fun c _ => toUpper_toUpper c

@[simp] theorem isEmpty_capitals
    (s : List Char) :
    (capitals s).isEmpty = s.isEmpty := by
  cases s <;> rfl

@[simp] theorem capitals_reverse
    (s : List Char) :
    capitals s.reverse = (capitals s).reverse :=
  List.map_reverse

/-- A text without small letters is its own capitals. -/
theorem capitals_eq_self
    (h : ∀ c ∈ s, c.toUpper = c) :
    capitals s = s :=
  (List.map_congr_left h).trans (List.map_id s)

theorem mem_capitals_iff
    {c : Char}
    (hc : c.isAlpha = false) :
    c ∈ capitals s ↔ c ∈ s := by
  simp only [capitals, List.mem_map, toUpper_eq_iff hc, exists_eq_right]

section Predicates

variable {p : Char → Bool} (hp : ∀ c, p c.toUpper = p c)
include hp

theorem takeWhile_capitals
    (s : List Char) :
    (capitals s).takeWhile p = capitals (s.takeWhile p) := by
  have hcomp : p ∘ Char.toUpper = p := funext hp
  rw [capitals, List.takeWhile_map, hcomp, capitals]

theorem dropWhile_capitals
    (s : List Char) :
    (capitals s).dropWhile p = capitals (s.dropWhile p) := by
  have hcomp : p ∘ Char.toUpper = p := funext hp
  rw [capitals, List.dropWhile_map, hcomp, capitals]

theorem filter_capitals
    (s : List Char) :
    (capitals s).filter p = capitals (s.filter p) := by
  have hcomp : p ∘ Char.toUpper = p := funext hp
  rw [capitals, List.filter_map, hcomp, capitals]

theorem all_capitals
    (s : List Char) :
    (capitals s).all p = s.all p := by
  have hcomp : p ∘ Char.toUpper = p := funext hp
  rw [capitals, List.all_map, hcomp]

end Predicates

@[simp] theorem trim_capitals
    (s : List Char) :
    trim (capitals s) = capitals (trim s) := by
  have hleft : trimLeft (capitals s) = capitals (trimLeft s) :=
    dropWhile_capitals isBlank_toUpper s
  rw [trim, hleft, trimRight, ← capitals_reverse, dropWhile_capitals isBlank_toUpper,
    ← capitals_reverse, trim, trimRight]

@[simp] theorem upper_capitals
    (s : List Char) :
    upper (capitals s) = upper s := by
  induction s with
  | nil => rfl
  | cons c s ih => rw [capitals_cons, upper_cons, upper_cons, upperChar_toUpper, ih]

@[simp] theorem decimalNat_capitals
    (s : List Char) :
    decimalNat (capitals s) = decimalNat s := by
  simp only [decimalNat, capitals, List.foldl_map, decimalValue?_toUpper]

@[simp] theorem upper_append
    (s t : List Char) :
    upper (s ++ t) = upper s ++ upper t :=
  List.flatMap_append

/-- The upper case of a text of ASCII alone. -/
theorem upper_of_ascii
    (hs : ∀ c ∈ s, c.toNat < 0x80) :
    upper s = capitals s := by
  induction s with
  | nil => rfl
  | cons c s ih =>
      rw [upper_cons, upperChar_ascii (hs c (by simp)),
        ih fun d hd => hs d (List.mem_cons_of_mem _ hd)]
      rfl

/-- Texts in small letters have the same capitals. -/
theorem capitals_map_toLower
    (s : List Char) :
    capitals (s.map Char.toLower) = capitals s := by
  rw [capitals, List.map_map, capitals]
  exact List.map_congr_left fun c _ => toUpper_toLower c

end Texts

end Text
end Spreadsheet
