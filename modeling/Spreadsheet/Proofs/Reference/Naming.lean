import Spreadsheet.Proofs.Reference.Label
import Spreadsheet.Session.Request

/-!
# Names of columns and cells

The numeration of the columns has no zero: a column takes its last letter from what is
left of the number before it, and gives the others the quotient.  Counting the letters
from the left undoes this, whichever of the two comes first.

Results: capitals are the letters of the column that they count to
(`columnLabel_columnIndex`), and names and positions determine each other: columns have
their letters, any capitals are the letters of one column, and a label names the cell that
it was made for (`names_determine_positions`).
-/

namespace Spreadsheet
namespace Reference

section Columns

variable {letters : List Char} {c : Char}

theorem IsCapital.ofNat_eq
    (h : IsCapital c) :
    Char.ofNat (65 + (c.toNat - 65)) = c := by
  have hvalue : 65 + (c.toNat - 65) = c.toNat := by
    have := h.1
    omega
  rw [hvalue, Char.ofNat_toNat]

/-- One letter more is the next place of the numeration without zero. -/
theorem lettersOf_place
    {k : Nat}
    (n : Nat)
    (hk : k < 26) :
    lettersOf (n * 26 + k + 1) = lettersOf n ++ [Char.ofNat (65 + k)] := by
  have hquotient : (n * 26 + k) / 26 = n := by omega
  have hrest : (n * 26 + k) % 26 = k := by omega
  rw [lettersOf_succ, hquotient, hrest]

/-- Capitals are the letters of the number that they count to. -/
theorem exists_lettersOf
    (h : ∀ c ∈ letters, IsCapital c) :
    ∃ n : Nat, columnNumber letters = n ∧ lettersOf n = letters := by
  induction letters using List.reverseRecOn with
  | nil => exact ⟨0, rfl, lettersOf_zero⟩
  | append_singleton letters c ih =>
      obtain ⟨n, hnumber, hletters⟩ := ih fun d hd => h d (List.mem_append_left _ hd)
      have hc : IsCapital c := h c (by simp)
      have hfrom : 65 ≤ c.toNat := hc.1
      have hto : c.toNat ≤ 90 := hc.2
      refine ⟨n * 26 + (c.toNat - 65) + 1, ?_, ?_⟩
      · rw [columnNumber_append_singleton, hnumber]
        omega
      · rw [lettersOf_place n (by omega), hletters, hc.ofNat_eq]

/-- Capitals, at least one, are the letters of a column. -/
theorem exists_columnLetters
    (hne : letters ≠ [])
    (h : ∀ c ∈ letters, IsCapital c) :
    ∃ col : Nat, columnIndex letters = col ∧ columnLetters col = letters := by
  obtain ⟨n, hnumber, hletters⟩ := exists_lettersOf h
  cases n with
  | zero => exact absurd (hletters.symm.trans lettersOf_zero) hne
  | succ col =>
      refine ⟨col, ?_, hletters⟩
      rw [columnIndex, upper_of_isCapital h, hnumber]
      omega

theorem columnLabel_natCast
    (col : Nat) :
    columnLabel col = .ok (String.ofList (columnLetters col)) := by
  have hcol : ¬ (col : Int) < 0 := by omega
  rw [columnLabel, if_neg hcol, Int.toNat_natCast]

/-- Capitals are the letters of the column that they count to. -/
theorem columnLabel_columnIndex
    (hne : letters ≠ [])
    (h : ∀ c ∈ letters, IsCapital c) :
    columnLabel (columnIndex letters) = .ok (String.ofList letters) := by
  obtain ⟨col, hindex, hletters⟩ := exists_columnLetters hne h
  rw [hindex, columnLabel_natCast, hletters]

end Columns

section Names

variable {c : Char}

theorem IsCapital.not_isBlank
    (h : IsCapital c) :
    Text.isBlank c = false := by
  obtain ⟨hfrom, hto⟩ := h
  exact Text.isBlank_of_visible ⟨by omega, by omega⟩

theorem IsCapital.not_isDigitMark
    (h : IsCapital c) :
    Text.isDigitMark c = false := by
  have hall : ∀ k < 26, Text.isDigitMark (Char.ofNat (65 + k)) = false := by decide
  have hto : c.toNat ≤ 90 := h.2
  have hk := hall (c.toNat - 65) (by omega)
  rwa [h.ofNat_eq] at hk

/-- A column goes by its letters wherever a column is to be named. -/
theorem column_columnLetters
    (col : Nat) :
    (ColumnName.label (String.ofList (columnLetters col))).column = .ok (col : Int) := by
  have hcapital : ∀ c ∈ columnLetters col, IsCapital c :=
    fun c hc => isCapital_of_mem_columnLetters hc
  have hne : columnLetters col ≠ [] := (isSplit_label col 0).letters_ne_nil
  have htrim : Text.trim (columnLetters col) = columnLetters col :=
    Text.trim_of_ends (fun c hc => (hcapital c (List.mem_of_head? hc)).not_isBlank)
      fun c hc => (hcapital c (List.mem_of_getLast? hc)).not_isBlank
  have hmarks : (columnLetters col).all Text.isDigitMark = false := by
    obtain ⟨c, hc⟩ := List.exists_mem_of_ne_nil _ hne
    exact List.all_eq_false.2 ⟨c, hc, by simp [(hcapital c hc).not_isDigitMark]⟩
  have hletters : (columnLetters col).all Char.isAlpha = true :=
    List.all_eq_true.2 fun c hc => Text.isAlpha_iff_toNat.2 (.inl (hcapital c hc))
  rw [ColumnName.column, ColumnName.ofLabel, String.toList_ofList, htrim, hmarks, hletters]
  simp [hne, columnIndex_columnLetters]

/-- Names and positions determine each other.  The letters of a column count back to it,
also where the column is named by them; capitals, at least one, are the letters of the
column that they count to; and the label of a cell is read as that cell. -/
theorem names_determine_positions :
    (∀ col : Nat, ∃ letters, columnLabel col = .ok letters
        ∧ columnIndex letters.toList = col ∧ (ColumnName.label letters).column = .ok (col : Int))
      ∧ (∀ letters : List Char, letters ≠ [] → (∀ c ∈ letters, IsCapital c) →
        columnLabel (columnIndex letters) = .ok (String.ofList letters))
      ∧ ∀ col row : Nat, IsWritable ((row : Int) + 1) →
        ∃ label, labelOf col row = .ok label ∧ parse? label.toList = .ok (some ⟨col, row⟩) := by
  refine ⟨fun col => ?_, fun letters hne h => columnLabel_columnIndex hne h,
    fun col row hrow => ?_⟩
  · refine ⟨String.ofList (columnLetters col), columnLabel_natCast col, ?_,
      column_columnLetters col⟩
    rw [String.toList_ofList, columnIndex_columnLetters]
  · obtain ⟨label, hlabel⟩ := exists_label_of_isWritable (r := ⟨col, row⟩) hrow
    exact ⟨label, hlabel, parse?_label hlabel⟩

/-- The last column of three letters that common sheets have, and their last row. -/
theorem names_determine_positions_lastCell :
    columnLabel (columnIndex ['X', 'F', 'D']) = .ok "XFD"
      ∧ ∃ label, labelOf 16383 1048575 = .ok label
        ∧ parse? label.toList = .ok (some ⟨16383, 1048575⟩) := by
  refine ⟨names_determine_positions.2.1 ['X', 'F', 'D'] (by decide) (by simp [IsCapital]), ?_⟩
  exact names_determine_positions.2.2 16383 1048575 (isWritable_of_lt_pow 7 (by decide) (by decide))

end Names

end Reference
end Spreadsheet
