/-!
# Blanks

The white space of Unicode text, together with the four separator controls
`U+001C` to `U+001F`.  Zero-width space and byte-order mark are not blank.

Results: the white space of the core library is blank
(`isBlank_of_isWhitespace`), what is left of a left trim starts with no blank
(`head_trimLeft_not_blank`), and text without outer blanks is left alone
(`trim_of_ends`).
-/

namespace Spreadsheet
namespace Text

/-- White space of any script. -/
def isSpace (c : Char) : Bool :=
  let n := c.toNat
  (0x09 ≤ n && n ≤ 0x0d) || n == 0x20 || n == 0x85 || n == 0xa0
    || n == 0x1680 || (0x2000 ≤ n && n ≤ 0x200a) || n == 0x2028 || n == 0x2029
    || n == 0x202f || n == 0x205f || n == 0x3000

/-- White space of any script, and the separator controls. -/
def isBlank (c : Char) : Bool :=
  isSpace c || (0x1c ≤ c.toNat && c.toNat ≤ 0x1f)

/-- The text less the blanks at its front. -/
def trimLeft (s : List Char) : List Char :=
  s.dropWhile isBlank

/-- The text less the blanks at its end. -/
def trimRight (s : List Char) : List Char :=
  (s.reverse.dropWhile isBlank).reverse

/-- The text less the blanks at both ends. -/
def trim (s : List Char) : List Char :=
  trimRight (trimLeft s)

/-- The text less the white space at both ends; separator controls stay. -/
def trimSpace (s : List Char) : List Char :=
  ((s.dropWhile isSpace).reverse.dropWhile isSpace).reverse

/-- The string less the blanks at both ends. -/
def trimmed (s : String) : String :=
  String.ofList (trim s.toList)

section Lemmas

/-- Every blank of the core library is blank here. -/
theorem isBlank_of_isWhitespace
    {c : Char}
    (h : c.isWhitespace = true) :
    isBlank c = true := by
  simp only [Char.isWhitespace, Bool.or_eq_true, decide_eq_true_eq] at h
  rcases h with ((rfl | rfl) | rfl) | rfl <;> decide

/-- A visible ASCII character is not blank. -/
theorem isBlank_of_visible
    {c : Char}
    (h : 0x21 ≤ c.toNat ∧ c.toNat < 0x7f) :
    isBlank c = false := by
  simp only [isBlank, isSpace, Bool.or_eq_false_iff, Bool.and_eq_false_iff, beq_eq_false_iff_ne,
    decide_eq_false_iff_not]
  omega

@[simp] theorem trimLeft_nil :
    trimLeft [] = [] := rfl

@[simp] theorem trimRight_nil :
    trimRight [] = [] := rfl

@[simp] theorem trim_nil :
    trim [] = [] := rfl

theorem trimLeft_cons
    (c : Char) (s : List Char) :
    trimLeft (c :: s) = if isBlank c then trimLeft s else c :: s := by
  cases h : isBlank c <;> simp [trimLeft, List.dropWhile, h]

theorem head_trimLeft_not_blank
    {s r : List Char} {c : Char}
    (h : trimLeft s = c :: r) :
    isBlank c = false := by
  induction s with
  | nil => simp at h
  | cons d s ih =>
      rw [trimLeft_cons] at h
      split at h
      · exact ih h
      · next hd =>
          obtain ⟨rfl, -⟩ := List.cons.inj h
          simpa using hd

/-- Text whose first and last characters are not blank is its own trim. -/
theorem trim_of_ends
    {s : List Char}
    (hhead : ∀ c ∈ s.head?, isBlank c = false)
    (hlast : ∀ c ∈ s.getLast?, isBlank c = false) :
    trim s = s := by
  have hl : trimLeft s = s := by
    cases s with
    | nil => rfl
    | cons c s =>
        rw [trimLeft_cons, hhead c (by simp)]
        simp
  have hr : s.reverse.dropWhile isBlank = s.reverse := by
    cases hs : s.reverse with
    | nil => rfl
    | cons c r =>
        have hc : isBlank c = false := hlast c (by
          rw [← List.head?_reverse, hs]
          simp)
        simp [List.dropWhile, hc]
  simp [trim, trimRight, hl, hr]

end Lemmas

end Text
end Spreadsheet
