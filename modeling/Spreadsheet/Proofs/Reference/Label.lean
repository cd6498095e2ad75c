import Spreadsheet.Proofs.Except
import Spreadsheet.Proofs.Json.Number
import Spreadsheet.Proofs.Text.Capitals
import Spreadsheet.Proofs.Text.Trimming
import Spreadsheet.Reference.Range

/-!
# Reading and writing labels

A label is read by cutting it into its letters and its digits, of which there is at least
one each.  What is read has few enough digits to be written again, and what is written is
the letters of the column in front of the digits of the row.

Results: letters and digits are cut apart as they were put together
(`splitLabel?_eq_some_iff`), a cell that was read has a label (`exists_label_of_row_lt`,
`row_lt_of_parse?`), and a label is read as its cell (`parse?_label`), two of them with a
colon between them as the range between their cells (`Range.parse?_corners`).
-/

namespace Spreadsheet
namespace Reference

/-- Letters and digits that make up a label. -/
structure IsSplit (letters digits : List Char) : Prop where
  letters_ne_nil : letters ≠ []
  digits_ne_nil : digits ≠ []
  isLabelLetter : ∀ c ∈ letters, isLabelLetter c = true
  isDigit : ∀ c ∈ digits, c.isDigit = true

section Characters

variable {c : Char}

theorem not_isLabelLetter_of_isDigit
    (h : c.isDigit = true) :
    ¬ isLabelLetter c = true := by
  obtain ⟨-, hle⟩ := Char.isDigit_iff_toNat.1 h
  have hle : c.toNat ≤ 57 := hle
  have hne : ∀ d : Char, 57 < d.toNat → c ≠ d := by
    rintro d hd rfl
    omega
  have halpha : c.isAlpha = false := by
    rw [Bool.eq_false_iff, ne_eq, Text.isAlpha_iff_toNat]
    omega
  simp [isLabelLetter, halpha, hne 'ı' (by decide), hne 'İ' (by decide), hne 'ſ' (by decide),
    hne '\u212a' (by decide)]

theorem not_isBlank_of_isLabelLetter
    (h : isLabelLetter c = true) :
    Text.isBlank c = false := by
  simp only [isLabelLetter, Bool.or_eq_true, beq_iff_eq, Text.isAlpha_iff_toNat] at h
  rcases h with (((hletter | rfl) | rfl) | rfl) | rfl
  · exact Text.isBlank_of_visible (by omega)
  all_goals decide

end Characters

section Cutting

variable {s letters digits : List Char} {c : Char}

/-- Letters and digits are cut apart as they were put together. -/
theorem splitLabel?_eq_some_iff :
    splitLabel? s = some (letters, digits) ↔ s = letters ++ digits ∧ IsSplit letters digits := by
  constructor
  · intro h
    unfold splitLabel? at h
    simp only at h
    split at h
    · next hparts =>
        obtain ⟨rfl, rfl⟩ := Prod.mk.inj (Option.some.inj h)
        simp only [Bool.and_eq_true, Bool.not_eq_true', List.isEmpty_eq_false_iff,
          List.all_eq_true] at hparts
        obtain ⟨⟨hletters, hdigits⟩, hall⟩ := hparts
        exact ⟨List.takeWhile_append_dropWhile.symm, hletters, hdigits,
          fun c hc => List.mem_takeWhile_imp hc, hall⟩
    · cases h
  · rintro ⟨rfl, h⟩
    have hfirst : digits.takeWhile isLabelLetter = [] := by
      obtain ⟨c, rest, rfl⟩ := List.exists_cons_of_ne_nil h.digits_ne_nil
      exact List.takeWhile_cons_of_neg (not_isLabelLetter_of_isDigit (h.isDigit c (by simp)))
    have htake : (letters ++ digits).takeWhile isLabelLetter = letters := by
      rw [List.takeWhile_append_of_pos h.isLabelLetter, hfirst, List.append_nil]
    have hdrop : (letters ++ digits).dropWhile isLabelLetter = digits := by
      have happend := List.takeWhile_append_dropWhile (p := isLabelLetter) (l := letters ++ digits)
      rw [htake] at happend
      exact List.append_cancel_left happend
    have hall : digits.all Char.isDigit = true := List.all_eq_true.2 h.isDigit
    simp [splitLabel?, htake, hdrop, h.letters_ne_nil, h.digits_ne_nil, hall]

theorem append_of_splitLabel?
    (h : splitLabel? s = some (letters, digits)) :
    letters ++ digits = s :=
  (splitLabel?_eq_some_iff.1 h).1.symm

theorem splitLabel?_append
    (hletters : letters ≠ [])
    (hdigits : digits ≠ [])
    (hl : ∀ c ∈ letters, isLabelLetter c = true)
    (hd : ∀ c ∈ digits, c.isDigit = true) :
    splitLabel? (letters ++ digits) = some (letters, digits) :=
  splitLabel?_eq_some_iff.2 ⟨rfl, hletters, hdigits, hl, hd⟩

theorem head_of_splitLabel?
    (h : splitLabel? s = some (letters, digits))
    (hc : c ∈ s.head?) :
    isLabelLetter c = true := by
  obtain ⟨rfl, hsplit⟩ := splitLabel?_eq_some_iff.1 h
  rw [List.head?_append_of_ne_nil _ hsplit.letters_ne_nil] at hc
  exact hsplit.isLabelLetter c (List.mem_of_head? hc)

theorem last_of_splitLabel?
    (h : splitLabel? s = some (letters, digits))
    (hc : c ∈ s.getLast?) :
    c.isDigit = true := by
  obtain ⟨rfl, hsplit⟩ := splitLabel?_eq_some_iff.1 h
  rw [List.getLast?_append_of_ne_nil _ hsplit.digits_ne_nil] at hc
  exact hsplit.isDigit c (List.mem_of_getLast? hc)

/-- Letters and the digits behind them are read as the label that they are. -/
theorem parse?_of_splitLabel?
    (h : splitLabel? s = some (letters, digits)) :
    parse? s = ofParts? letters digits := by
  have htrim : Text.trim s = s := by
    apply Text.trim_of_ends
    · intro c hc
      exact not_isBlank_of_isLabelLetter (head_of_splitLabel? h hc)
    · intro c hc
      exact Text.not_isBlank_of_isDigit (last_of_splitLabel? h hc)
  rw [parse?, htrim, h]

/-- A text with a character that labels do not have is not cut. -/
theorem splitLabel?_eq_none_of_mem
    (hc : c ∈ s)
    (hblank : Text.isBlank c = false)
    (hletter : isLabelLetter c = false)
    (hdigit : c.isDigit = false) :
    splitLabel? (Text.trim s) = none := by
  have hmem := (Text.mem_trim_iff hblank).2 hc
  rw [← List.takeWhile_append_dropWhile (p := isLabelLetter) (l := Text.trim s)] at hmem
  have htail : c ∈ (Text.trim s).dropWhile isLabelLetter := by
    rcases List.mem_append.1 hmem with hmem | hmem
    · have := List.mem_takeWhile_imp hmem
      simp [hletter] at this
    · exact hmem
  have hall : ((Text.trim s).dropWhile isLabelLetter).all Char.isDigit = false := by
    rw [List.all_eq_false]
    exact ⟨c, htail, by simp [hdigit]⟩
  simp [splitLabel?, hall]

end Cutting

section Labels

variable {s letters digits : List Char} {r : Reference} {label : String}

theorem exists_splitLabel?_of_parse?
    (h : parse? s = .ok (some r)) :
    ∃ letters digits, splitLabel? (Text.trim s) = some (letters, digits)
      ∧ ofParts? letters digits = .ok (some r) := by
  unfold parse? at h
  split at h
  · next letters digits hsplit => exact ⟨letters, digits, hsplit, h⟩
  · cases h

/-- What is read as a cell holds nothing but blanks, letters and digits. -/
theorem not_mem_of_parse?
    (h : parse? s = .ok (some r))
    {c : Char}
    (hblank : Text.isBlank c = false)
    (hletter : isLabelLetter c = false)
    (hdigit : c.isDigit = false) :
    c ∉ s := by
  intro hc
  obtain ⟨letters, digits, hsplit, -⟩ := exists_splitLabel?_of_parse? h
  rw [splitLabel?_eq_none_of_mem hc hblank hletter hdigit] at hsplit
  cases hsplit

/-- The row that digits name is the number before theirs. -/
theorem ofParts?_eq_some_iff :
    ofParts? letters digits = .ok (some r)
      ↔ digits.length ≤ digitLimit ∧ Text.decimalNat digits = r.row + 1
        ∧ (columnIndex letters).toNat = r.col := by
  unfold ofParts?
  split
  · next hlength =>
      simp only [reduceCtorEq, false_iff, not_and]
      exact fun hle => absurd hlength (Nat.not_lt.2 hle)
  · next hlength =>
      have hle := Nat.not_lt.1 hlength
      split
      · next hzero =>
          simp only [Except.ok.injEq, reduceCtorEq, false_iff, not_and]
          intro _ hrow
          rw [hzero] at hrow
          cases hrow
      · next row hrow =>
          have hrow : Text.decimalNat digits = row + 1 := hrow
          simp only [Except.ok.injEq, Option.some.injEq, hrow, hle, true_and,
            Nat.add_right_cancel_iff]
          constructor
          · rintro rfl
            exact ⟨rfl, rfl⟩
          · rintro ⟨rfl, hcol⟩
            rw [hcol]

theorem row_lt_of_ofParts?
    (h : ofParts? letters digits = .ok (some r)) :
    r.row + 1 < 10 ^ digitLimit := by
  obtain ⟨hlength, hrow, -⟩ := ofParts?_eq_some_iff.1 h
  calc r.row + 1 = Text.decimalNat digits := hrow.symm
    _ < 10 ^ digits.length := Text.decimalNat_lt digits
    _ ≤ 10 ^ digitLimit := Nat.pow_le_pow_right (by decide) hlength

theorem row_lt_of_parse?
    (h : parse? s = .ok (some r)) :
    r.row + 1 < 10 ^ digitLimit := by
  obtain ⟨letters, digits, -, hparts⟩ := exists_splitLabel?_of_parse? h
  exact row_lt_of_ofParts? hparts

theorem isWritable_of_row_lt
    (h : r.row + 1 < 10 ^ digitLimit) :
    IsWritable ((r.row : Int) + 1) := by
  have habs : ((r.row : Int) + 1).natAbs = r.row + 1 := by omega
  refine isWritable_of_lt_pow digitLimit (Nat.le_refl _) ?_
  rw [habs]
  exact h

/-- A cell whose row can be written has a label. -/
theorem exists_label_of_isWritable
    (h : IsWritable ((r.row : Int) + 1)) :
    ∃ label, r.label = .ok label := by
  have hcol : ¬ (r.col : Int) < 0 := by omega
  refine ⟨String.ofList (columnLetters r.col) ++ ((r.row : Int) + 1).repr, ?_⟩
  simp [Reference.label, labelOf, columnLabel, integerText, h, hcol, bind, Except.bind, pure,
    Except.pure]

theorem exists_label_of_row_lt
    (h : r.row + 1 < 10 ^ digitLimit) :
    ∃ label, r.label = .ok label :=
  exists_label_of_isWritable (isWritable_of_row_lt h)

/-- A label is the letters of the column and the digits of the row. -/
theorem toList_label
    (h : r.label = .ok label) :
    label.toList = columnLetters r.col ++ Nat.toDigits 10 (r.row + 1)
      ∧ IsWritable ((r.row : Int) + 1) := by
  obtain ⟨letters, hletters, h⟩ := bind_eq_ok_iff.1 h
  obtain ⟨number, hnumber, h⟩ := bind_eq_ok_iff.1 h
  obtain rfl := Except.ok.inj h
  have hcol : ¬ (r.col : Int) < 0 := by omega
  rw [columnLabel, if_neg hcol] at hletters
  obtain rfl := Except.ok.inj hletters
  obtain ⟨hwritable, rfl⟩ := Json.integerText_eq_ok hnumber
  have hrepr : ((r.row : Int) + 1).repr.toList = Nat.toDigits 10 (r.row + 1) := by
    have hnat : ((r.row : Int) + 1).natAbs = r.row + 1 := by omega
    have hsign : ¬ (r.row : Int) + 1 < 0 := by omega
    rw [Json.toList_repr, hnat]
    simp [Binary64.signText, Numeral.text, hsign]
  exact ⟨by simp [hrepr], hwritable⟩

theorem isSplit_label
    (col row : Nat) :
    IsSplit (columnLetters col) (Nat.toDigits 10 row) where
  letters_ne_nil := by simp [columnLetters, lettersOf_succ]
  digits_ne_nil := Nat.toDigits_ne_nil
  isLabelLetter := by
    intro c hc
    have hletter : c.isAlpha = true :=
      Text.isAlpha_iff_toNat.2 (.inl (isCapital_of_mem_columnLetters hc))
    simp [isLabelLetter, hletter]
  isDigit := fun c hc => Text.isDigit_of_mem_toDigits hc

/-- A label is read as its cell. -/
theorem parse?_label
    (h : r.label = .ok label) :
    parse? label.toList = .ok (some r) := by
  obtain ⟨htext, hwritable⟩ := toList_label h
  have hlength : (Nat.toDigits 10 (r.row + 1)).length ≤ digitLimit := by
    have hnat : ((r.row : Int) + 1).natAbs = r.row + 1 := by omega
    rw [← hnat]
    exact Json.length_toDigits_le hwritable
  rw [htext, parse?_of_splitLabel? (splitLabel?_eq_some_iff.2 ⟨rfl, isSplit_label _ _⟩),
    ofParts?_eq_some_iff, Text.decimalNat_toDigits, columnIndex_columnLetters]
  exact ⟨hlength, rfl, rfl⟩

end Labels

end Reference

/-- Two labels with a colon between them are read as the range between their cells. -/
theorem Range.parse?_corners
    {first second : List Char} {p q : Reference}
    (hfirst : Reference.parse? first = .ok (some p))
    (hsecond : Reference.parse? second = .ok (some q)) :
    Range.parse? (first ++ ':' :: second) = .ok (some ⟨p, q⟩) := by
  have hno : ∀ {s : List Char} {r : Reference}, Reference.parse? s = .ok (some r) → ':' ∉ s :=
    fun h => Reference.not_mem_of_parse? h (by decide) (by decide) (by decide)
  rw [Range.parse?, List.splitOn_append_cons_self_of_not_mem (hno hfirst),
    List.splitOn_eq_singleton (hno hsecond)]
  simp only [hfirst, hsecond]
  rfl

end Spreadsheet
