import Spreadsheet.Fault
import Spreadsheet.Number.Printer
import Spreadsheet.Reference.Basic
import Spreadsheet.Text.Blank
import Spreadsheet.Text.Digit
import Spreadsheet.Text.Upper

/-!
# Cell labels

A column is named by letters, counted A to Z, AA, AB, and so on; a row by its
number, counted from one.  A label is the letters followed by the number.

Column letters are the digits of a numeration without zero: A to Z stand for 1
to 26.

Results: the letters of a column count back to it (`columnIndex_columnLetters`),
and every letter of them is a capital (`isCapital_of_mem_columnLetters`).
-/

namespace Spreadsheet
namespace Reference

/-- The value of a column text in the numeration without zero: each character
counts from the capital A. -/
def columnNumber (letters : List Char) : Int :=
  letters.foldl (fun n c => n * 26 + ((c.toNat : Int) - 64)) 0

/-- The column, counted from zero, that letters in either case name. -/
def columnIndex (letters : List Char) : Int :=
  columnNumber (Text.upper letters) - 1

/-- The letters of a column counted from one; zero has none. -/
def lettersOf (n : Nat) : List Char :=
  if n = 0 then
    []
  else
    lettersOf ((n - 1) / 26) ++ [Char.ofNat (65 + (n - 1) % 26)]
termination_by n
decreasing_by
  have := Nat.div_le_self (n - 1) 26
  omega

/-- The letters of a column counted from zero. -/
def columnLetters (col : Nat) : List Char :=
  lettersOf (col + 1)

/-- The letters of a column given as an integer. -/
def columnLabel (col : Int) : Except Fault String :=
  if col < 0 then
    .error (.reject (.negativeColumn col))
  else
    .ok (String.ofList (columnLetters col.toNat))

/-- The label of the cell at two integer coordinates. -/
def labelOf (col row : Int) : Except Fault String := do
  let letters ← columnLabel col
  let number ← integerText (row + 1)
  return letters ++ number

/-- The label of a cell. -/
def label (r : Reference) : Except Fault String :=
  labelOf r.col r.row

/-- A character that labels take for a letter: an ASCII letter, or one of the
four other characters that equal one when case is ignored. -/
def isLabelLetter (c : Char) : Bool :=
  c.isAlpha || c == 'ı' || c == 'İ' || c == 'ſ' || c == '\u212a'

/-- The reference made of column letters and row digits; row zero is none. -/
def ofParts? (letters digits : List Char) : Except Fault (Option Reference) :=
  if digitLimit < digits.length then
    .error .tooManyDigits
  else
    match Text.decimalNat digits with
    | 0 => .ok none
    | row + 1 => .ok (some ⟨(columnIndex letters).toNat, row⟩)

/-- The letters and the digits of a text that is letters and then ASCII digits. -/
def splitLabel? (s : List Char) : Option (List Char × List Char) :=
  let letters := s.takeWhile isLabelLetter
  let digits := s.dropWhile isLabelLetter
  if !letters.isEmpty && !digits.isEmpty && digits.all Char.isDigit then
    some (letters, digits)
  else
    none

/-- The cell that a label names, blanks around it apart. -/
def parse? (s : List Char) : Except Fault (Option Reference) :=
  match splitLabel? (Text.trim s) with
  | some (letters, digits) => ofParts? letters digits
  | none => .ok none

section Lemmas

@[simp] theorem lettersOf_zero :
    lettersOf 0 = [] := by
  rw [lettersOf]
  simp

theorem lettersOf_succ
    (n : Nat) :
    lettersOf (n + 1) = lettersOf (n / 26) ++ [Char.ofNat (65 + n % 26)] := by
  rw [lettersOf]
  simp

theorem columnNumber_append_singleton
    (s : List Char) (c : Char) :
    columnNumber (s ++ [c]) = columnNumber s * 26 + ((c.toNat : Int) - 64) := by
  simp [columnNumber]

/-- A capital ASCII letter. -/
def IsCapital (c : Char) : Prop := 65 ≤ c.toNat ∧ c.toNat ≤ 90

theorem toNat_letter
    {k : Nat}
    (hk : k < 26) :
    (Char.ofNat (65 + k)).toNat = 65 + k := by
  have hv : (65 + k).isValidChar := Or.inl (by omega)
  exact congrArg Char.toNat (dif_pos hv)

theorem isCapital_of_mem_lettersOf
    {n : Nat} {c : Char}
    (hc : c ∈ lettersOf n) :
    IsCapital c := by
  induction n using Nat.strongRecOn with
  | ind n ih =>
      cases n with
      | zero => simp at hc
      | succ n =>
          rw [lettersOf_succ, List.mem_append, List.mem_singleton] at hc
          rcases hc with hc | rfl
          · exact ih _ (by have := Nat.div_le_self n 26; omega) hc
          · have hk := Nat.mod_lt n (show 0 < 26 by decide)
            unfold IsCapital
            rw [toNat_letter hk]
            omega

theorem isCapital_of_mem_columnLetters
    {col : Nat} {c : Char}
    (hc : c ∈ columnLetters col) :
    IsCapital c :=
  isCapital_of_mem_lettersOf hc

theorem columnNumber_lettersOf
    (n : Nat) :
    columnNumber (lettersOf n) = n := by
  induction n using Nat.strongRecOn with
  | ind n ih =>
      cases n with
      | zero => simp [columnNumber]
      | succ n =>
          have hk := Nat.mod_lt n (show 0 < 26 by decide)
          rw [lettersOf_succ, columnNumber_append_singleton,
            ih _ (by have := Nat.div_le_self n 26; omega), toNat_letter hk]
          omega

theorem upper_of_isCapital
    {s : List Char}
    (h : ∀ c ∈ s, IsCapital c) :
    Text.upper s = s := by
  induction s with
  | nil => rfl
  | cons c s ih =>
      have hc := h c (by simp)
      have hu : c.toUpper = c := by
        unfold IsCapital at hc
        refine dif_neg fun hl => ?_
        have h1 : 97 ≤ c.toNat := hl.1
        omega
      rw [Text.upper_cons, Text.upperChar_ascii (by unfold IsCapital at hc; omega), hu,
        ih (fun d hd => h d (by simp [hd]))]
      rfl

/-- The letters of a column name that column. -/
theorem columnIndex_columnLetters
    (col : Nat) :
    columnIndex (columnLetters col) = col := by
  rw [columnIndex, upper_of_isCapital (fun c hc => isCapital_of_mem_columnLetters hc),
    columnLetters, columnNumber_lettersOf]
  omega

end Lemmas

end Reference
end Spreadsheet
