import Spreadsheet.Proofs.Reference.Naming

/-!
# The usual form of a label

A label may stand between blanks, have small letters and have zeros in front of its
number.  Without these it is in its usual form, which is the label that its cell has.
Two of the characters that pass for letters are no small letters of any capital, though:
the capital I with a dot and the sign for kelvins.  A column with one of them counts like
another one, which has its own letters.

Results: the label of a cell that was read is the usual form of what was read if and only
if that has neither of the two characters, and labels without them name the same cell if
and only if they have the same usual form (`labels_name_one_way`).
-/

namespace Spreadsheet
namespace Reference

/-- The text without the zeros that stand at the front of the number at its end. -/
def withoutLeadingZeros (s : List Char) : List Char :=
  s.takeWhile (fun c => !c.isDigit) ++ (s.dropWhile fun c => !c.isDigit).dropWhile (· == '0')

/-- The usual form of a label: no blanks around it, capitals, and no zeros in front of the
number. -/
def canonical (s : List Char) : List Char :=
  withoutLeadingZeros (Text.upper (Text.trim s))

/-- The text has neither of the two characters that pass for letters but are no small
letters of any. -/
def IsPlain (s : List Char) : Prop := 'İ' ∉ s ∧ '\u212a' ∉ s

instance (s : List Char) : Decidable (IsPlain s) :=
  inferInstanceAs (Decidable (_ ∧ _))

section Letters

variable {c : Char} {letters : List Char}

theorem IsCapital.of_isAlpha
    (h : c.isAlpha = true) :
    IsCapital c.toUpper := by
  have hletter := Text.isAlpha_iff_toNat.1 h
  unfold IsCapital
  rcases Text.toUpper_cases c with hsame | ⟨hsmall, hcapital⟩
  · rw [hsame]
    rcases hletter with hcapital | hsmall
    · exact hcapital
    · -- A small letter does not stay.
      have hall : ∀ k < 26, (Char.ofNat (97 + k)).toUpper ≠ Char.ofNat (97 + k) := by decide
      have hvalue : 97 + (c.toNat - 97) = c.toNat := by omega
      have hk := hall (c.toNat - 97) (by omega)
      rw [hvalue, Char.ofNat_toNat] at hk
      exact absurd hsame hk
  · omega

/-- What passes for a letter has a capital, or is one of two characters that stay. -/
theorem upperChar_of_isLabelLetter
    (h : isLabelLetter c = true) :
    (∃ d, Text.upperChar c = [d] ∧ IsCapital d)
      ∨ (c = 'İ' ∨ c = '\u212a') ∧ Text.upperChar c = [c] := by
  simp only [isLabelLetter, Bool.or_eq_true, beq_iff_eq] at h
  rcases h with (((hletter | rfl) | rfl) | rfl) | rfl
  · have hascii : c.toNat < 0x80 := by
      have := Text.isAlpha_iff_toNat.1 hletter
      omega
    exact .inl ⟨c.toUpper, Text.upperChar_ascii hascii, .of_isAlpha hletter⟩
  · exact .inl ⟨'I', by decide, by simp [IsCapital]⟩
  · exact .inr ⟨.inl rfl, by decide⟩
  · exact .inl ⟨'S', by decide, by simp [IsCapital]⟩
  · exact .inr ⟨.inr rfl, by decide⟩

theorem upper_ne_nil
    (hne : letters ≠ [])
    (h : ∀ c ∈ letters, isLabelLetter c = true) :
    Text.upper letters ≠ [] := by
  obtain ⟨c, rest, rfl⟩ := List.exists_cons_of_ne_nil hne
  rcases upperChar_of_isLabelLetter (h c (by simp)) with ⟨d, hd, -⟩ | ⟨-, hd⟩ <;> simp [hd]

theorem mem_upper_of_isLabelLetter
    (h : ∀ c ∈ letters, isLabelLetter c = true)
    (hc : c ∈ Text.upper letters) :
    IsCapital c ∨ (c = 'İ' ∨ c = '\u212a') ∧ c ∈ letters := by
  obtain ⟨d, hd, hc⟩ := List.mem_flatMap.1 hc
  rcases upperChar_of_isLabelLetter (h d hd) with ⟨e, he, hcapital⟩ | ⟨hmark, he⟩
  · rw [he, List.mem_singleton] at hc
    exact .inl (hc ▸ hcapital)
  · rw [he, List.mem_singleton] at hc
    subst hc
    exact .inr ⟨hmark, hd⟩

theorem not_isDigit_of_mem_upper
    (h : ∀ c ∈ letters, isLabelLetter c = true)
    (hc : c ∈ Text.upper letters) :
    c.isDigit = false := by
  rw [Bool.eq_false_iff, ne_eq, Char.isDigit_iff_toNat]
  rintro ⟨-, hto⟩
  have hto : c.toNat ≤ 57 := hto
  rcases mem_upper_of_isLabelLetter h hc with ⟨hfrom, -⟩ | ⟨rfl | rfl, -⟩
  · omega
  · exact absurd hto (by decide)
  · exact absurd hto (by decide)

/-- Letters are all made capitals if and only if neither of the two characters is among
them. -/
theorem isCapital_upper_iff
    (h : ∀ c ∈ letters, isLabelLetter c = true) :
    (∀ c ∈ Text.upper letters, IsCapital c) ↔ IsPlain letters := by
  constructor
  · intro hcapital
    have hnot : ∀ c, Text.upperChar c = [c] → ¬ IsCapital c → c ∉ letters := fun c hstays hno hc =>
      hno (hcapital c (List.mem_flatMap.2 ⟨c, hc, by simp [hstays]⟩))
    exact ⟨hnot 'İ' (by decide) (by simp [IsCapital]), hnot '\u212a' (by decide) (by simp [IsCapital])⟩
  · rintro ⟨hdotted, hsign⟩ c hc
    rcases mem_upper_of_isLabelLetter h hc with hcapital | ⟨rfl | rfl, hc⟩
    · exact hcapital
    · exact absurd hc hdotted
    · exact absurd hc hsign

end Letters

section Digits

variable {digits : List Char}

theorem digitChar_of_isDigit
    {c : Char}
    (h : c.isDigit = true) :
    (c.toNat - 0x30).digitChar = c := by
  obtain ⟨hfrom, hto⟩ := Char.isDigit_iff_toNat.1 h
  have hfrom : 48 ≤ c.toNat := hfrom
  have hto : c.toNat ≤ 57 := hto
  apply Char.toNat_inj.1
  rw [Nat.toNat_digitChar_of_lt_ten (by omega)]
  omega

/-- Without the zeros in front, digits are those of the number that they write; of zero
nothing is left. -/
theorem dropWhile_zeros
    (h : ∀ c ∈ digits, c.isDigit = true) :
    digits.dropWhile (· == '0')
      = if Text.decimalNat digits = 0 then [] else Nat.toDigits 10 (Text.decimalNat digits) := by
  induction digits using List.reverseRecOn with
  | nil => rfl
  | append_singleton digits c ih =>
      have hc : c.isDigit = true := h c (by simp)
      obtain ⟨hfrom, hto⟩ := Char.isDigit_iff_toNat.1 hc
      have hfrom : 48 ≤ c.toNat := hfrom
      have hto : c.toNat ≤ 57 := hto
      have hsmall : c.toNat - 0x30 < 10 := by omega
      have hrest := ih fun d hd => h d (List.mem_append_left _ hd)
      rw [Text.decimalNat_append_singleton, Text.decimalValue?_ascii hc, Option.getD_some,
        List.dropWhile_append, hrest]
      by_cases hzero : Text.decimalNat digits = 0
      · simp only [hzero, Nat.mul_zero, Nat.zero_add]
        by_cases hlast : c = '0'
        · subst hlast
          rfl
        · have hpos : c.toNat - 0x30 ≠ 0 := by
            intro heq
            refine hlast (Char.toNat_inj.1 ?_)
            show c.toNat = 48
            omega
          simp [hpos, hlast, Nat.toDigits_of_lt_base hsmall, digitChar_of_isDigit hc]
      · have hpos : 10 * Text.decimalNat digits + (c.toNat - 0x30) ≠ 0 := by omega
        have hplace := Nat.toDigits_append_toDigits (b := 10) (by decide)
          (Nat.pos_of_ne_zero hzero) hsmall
        rw [Nat.toDigits_of_lt_base hsmall, digitChar_of_isDigit hc] at hplace
        rw [if_neg hzero, if_neg hpos, if_neg (by simp), hplace]

end Digits

section Labels

variable {s s' letters digits letters' digits' : List Char} {r r' : Reference} {label : String}

/-- The usual form of letters and digits. -/
theorem withoutLeadingZeros_upper
    (h : IsSplit letters digits) :
    withoutLeadingZeros (Text.upper (letters ++ digits))
      = Text.upper letters ++ digits.dropWhile (· == '0') := by
  have hdigits : Text.upper digits = digits := by
    rw [Text.upper_of_ascii fun c hc => ?_, Text.capitals_eq_self fun c hc => ?_]
    · exact Text.toUpper_of_kind (by decide) (h.isDigit c hc)
    · have hto : c.toNat ≤ 57 := (Char.isDigit_iff_toNat.1 (h.isDigit c hc)).2
      omega
  have hletters : ∀ c ∈ Text.upper letters, (!c.isDigit) = true := fun c hc => by
    rw [not_isDigit_of_mem_upper h.isLabelLetter hc]
    rfl
  have hnone : digits.takeWhile (fun c => !c.isDigit) = []
      ∧ digits.dropWhile (fun c => !c.isDigit) = digits := by
    obtain ⟨c, rest, rfl⟩ := List.exists_cons_of_ne_nil h.digits_ne_nil
    have hc := h.isDigit c (by simp)
    simp [hc]
  rw [withoutLeadingZeros, Text.upper_append, hdigits, List.takeWhile_append_of_pos hletters,
    List.dropWhile_append_of_pos hletters, hnone.1, hnone.2, List.append_nil]

theorem canonical_of_splitLabel?
    (h : splitLabel? (Text.trim s) = some (letters, digits)) :
    canonical s = Text.upper letters ++ digits.dropWhile (· == '0') := by
  obtain ⟨htrim, hsplit⟩ := splitLabel?_eq_some_iff.1 h
  rw [canonical, htrim, withoutLeadingZeros_upper hsplit]

/-- The two characters are among the letters if they are anywhere in the label. -/
theorem isPlain_iff_of_splitLabel?
    (h : splitLabel? (Text.trim s) = some (letters, digits)) :
    IsPlain s ↔ IsPlain letters := by
  obtain ⟨htrim, hsplit⟩ := splitLabel?_eq_some_iff.1 h
  have hmem : ∀ c : Char, Text.isBlank c = false → c.isDigit = false →
      (c ∈ s ↔ c ∈ letters) := by
    intro c hblank hdigit
    rw [← Text.mem_trim_iff hblank, htrim, List.mem_append, or_iff_left]
    intro hc
    rw [hsplit.isDigit c hc] at hdigit
    cases hdigit
  exact and_congr (not_congr (hmem 'İ' (by decide) (by decide)))
    (not_congr (hmem '\u212a' (by decide) (by decide)))

/-- The letters of the column that letters name are these in capitals, if they all have
one. -/
theorem columnLetters_eq_upper_iff
    (hne : letters ≠ [])
    (h : ∀ c ∈ letters, isLabelLetter c = true) :
    columnLetters (columnIndex letters).toNat = Text.upper letters ↔ IsPlain letters := by
  rw [← isCapital_upper_iff h]
  constructor
  · intro heq c hc
    rw [← heq] at hc
    exact isCapital_of_mem_columnLetters hc
  · intro hcapital
    obtain ⟨col, hcol, hletters⟩ := exists_columnLetters (upper_ne_nil hne h) hcapital
    rw [columnIndex, upper_of_isCapital hcapital, ← columnIndex] at hcol
    rw [hcol, Int.toNat_natCast, hletters]

/-- The label of a cell that was read is what was read in its usual form, if and only if
every letter has a capital. -/
theorem toList_label_eq_canonical_iff
    (h : parse? s = .ok (some r))
    (hlabel : r.label = .ok label) :
    label.toList = canonical s ↔ IsPlain s := by
  obtain ⟨letters, digits, hsplit, hparts⟩ := exists_splitLabel?_of_parse? h
  obtain ⟨-, hparts'⟩ := splitLabel?_eq_some_iff.1 hsplit
  obtain ⟨-, hrow, hcol⟩ := ofParts?_eq_some_iff.1 hparts
  have hzeros := dropWhile_zeros hparts'.isDigit
  rw [hrow, if_neg (by omega)] at hzeros
  rw [(toList_label hlabel).1, canonical_of_splitLabel? hsplit, hzeros, List.append_left_inj,
    ← hcol, columnLetters_eq_upper_iff hparts'.letters_ne_nil hparts'.isLabelLetter,
    isPlain_iff_of_splitLabel? hsplit]

/-- Capitals of letters are letters that are their own capitals. -/
theorem upper_of_isLabelLetter
    (h : ∀ c ∈ letters, isLabelLetter c = true) :
    (∀ c ∈ Text.upper letters, isLabelLetter c = true)
      ∧ Text.upper (Text.upper letters) = Text.upper letters := by
  have hcases : ∀ c ∈ Text.upper letters, isLabelLetter c = true ∧ Text.upperChar c = [c] := by
    intro c hc
    rcases mem_upper_of_isLabelLetter h hc with hcapital | ⟨rfl | rfl, -⟩
    · have hletter : c.isAlpha = true := Text.isAlpha_iff_toNat.2 (.inl hcapital)
      have hstays := upper_of_isCapital (s := [c]) fun d hd => (List.mem_singleton.1 hd) ▸ hcapital
      exact ⟨by simp [isLabelLetter, hletter], by simpa using hstays⟩
    · exact ⟨by decide, by decide⟩
    · exact ⟨by decide, by decide⟩
  refine ⟨fun c hc => (hcases c hc).1, ?_⟩
  rw [Text.upper, List.flatMap_congr fun c hc => (hcases c hc).2, List.flatMap_singleton']

/-- A label and its usual form name the same cell. -/
theorem parse?_canonical
    (h : parse? s = .ok (some r)) :
    parse? (canonical s) = .ok (some r) := by
  obtain ⟨letters, digits, hsplit, hparts⟩ := exists_splitLabel?_of_parse? h
  obtain ⟨-, hs⟩ := splitLabel?_eq_some_iff.1 hsplit
  obtain ⟨hlength, hrow, hcol⟩ := ofParts?_eq_some_iff.1 hparts
  have hne := upper_ne_nil hs.letters_ne_nil hs.isLabelLetter
  obtain ⟨hletters, hagain⟩ := upper_of_isLabelLetter hs.isLabelLetter
  have hzeros := dropWhile_zeros hs.isDigit
  rw [hrow, if_neg (by omega)] at hzeros
  have hshort : (Nat.toDigits 10 (r.row + 1)).length ≤ digitLimit :=
    hzeros ▸ (List.dropWhile_suffix _).length_le.trans hlength
  have hcanonical : splitLabel? (canonical s)
      = some (Text.upper letters, Nat.toDigits 10 (r.row + 1)) := by
    rw [canonical_of_splitLabel? hsplit, hzeros]
    exact splitLabel?_append hne Nat.toDigits_ne_nil hletters fun c => Text.isDigit_of_mem_toDigits
  rw [parse?_of_splitLabel? hcanonical, ofParts?_eq_some_iff, Text.decimalNat_toDigits,
    columnIndex, hagain, ← columnIndex]
  exact ⟨hshort, rfl, hcol⟩

theorem isPlain_label
    (h : r.label = .ok label) :
    IsPlain label.toList := by
  have hnot : ∀ c : Char, ¬ IsCapital c → c.isDigit = false → c ∉ label.toList := by
    intro c hcapital hdigit hc
    rw [(toList_label h).1] at hc
    rcases List.mem_append.1 hc with hc | hc
    · exact hcapital (isCapital_of_mem_columnLetters hc)
    · rw [Text.isDigit_of_mem_toDigits hc] at hdigit
      cases hdigit
  exact ⟨hnot 'İ' (by simp [IsCapital]) (by decide), hnot '\u212a' (by simp [IsCapital]) (by decide)⟩

/-- The label of a cell is in its usual form. -/
theorem canonical_label
    (h : r.label = .ok label) :
    canonical label.toList = label.toList :=
  ((toList_label_eq_canonical_iff (parse?_label h) h).2 (isPlain_label h)).symm

/-- A text that is read as a cell is its label up to the usual form, if and only if every
letter of it has a capital; in any case that label names the same cell.  Two texts of one
usual form name one cell, and if every letter of theirs has a capital, they name one cell
only then. -/
theorem labels_name_one_way
    (h : parse? s = .ok (some r))
    (h' : parse? s' = .ok (some r')) :
    (∃ label, r.label = .ok label ∧ (label.toList = canonical s ↔ IsPlain s)
        ∧ parse? label.toList = .ok (some r) ∧ canonical label.toList = label.toList)
      ∧ (canonical s = canonical s' → r = r')
      ∧ (IsPlain s → IsPlain s' → r = r' → canonical s = canonical s') := by
  obtain ⟨label, hlabel⟩ := exists_label_of_row_lt (row_lt_of_parse? h)
  have hform := toList_label_eq_canonical_iff h hlabel
  refine ⟨⟨label, hlabel, hform, parse?_label hlabel, canonical_label hlabel⟩, ?_, ?_⟩
  · intro hcanonical
    have hread := parse?_canonical h
    rw [hcanonical, parse?_canonical h'] at hread
    exact (Option.some.inj (Except.ok.inj hread)).symm
  · rintro hplain hplain' rfl
    rw [← hform.2 hplain, (toList_label_eq_canonical_iff h' hlabel).2 hplain']

/-- A long s and a small letter between blanks, and zeros in front of the number. -/
theorem labels_name_one_way_longLetter :
    canonical [' ', 'ſ', 'i', '0', '0', '7', '\t'] = canonical ['S', 'I', '7']
      ∧ ∃ label, (⟨502, 6⟩ : Reference).label = .ok label
        ∧ label.toList = canonical [' ', 'ſ', 'i', '0', '0', '7', '\t'] := by
  have hread : parse? [' ', 'ſ', 'i', '0', '0', '7', '\t'] = .ok (some ⟨502, 6⟩) := by decide
  have hread' : parse? ['S', 'I', '7'] = .ok (some ⟨502, 6⟩) := by decide
  obtain ⟨⟨label, hlabel, hform, -⟩, -, hsame⟩ := labels_name_one_way hread hread'
  exact ⟨hsame (by decide) (by decide) rfl, label, hlabel, hform.2 (by decide)⟩

/-- The capital I with a dot has a column of its own letters, and its label is another. -/
theorem label_of_dottedCapital :
    parse? ['İ', '1'] = .ok (some ⟨239, 0⟩) ∧ canonical ['İ', '1'] = ['İ', '1']
      ∧ (⟨239, 0⟩ : Reference).label = .ok "IF1" ∧ parse? ['I', 'F', '1'] = .ok (some ⟨239, 0⟩) := by
  refine ⟨by decide, by decide, ?_, by decide⟩
  decide +kernel

end Labels

end Reference
end Spreadsheet
