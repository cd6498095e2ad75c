import Mathlib.Data.List.TakeWhile
import Spreadsheet.Text.Blank

/-!
# Trimmed texts

Blanks at either end of a text make no difference to what is left of it, so nothing is
left to trim where the ends were trimmed.

Results: trimming twice is trimming once (`trim_trim`), and the blanks at one end make no
difference (`trim_trimLeft`, `trim_trimRight`).
-/

namespace Spreadsheet
namespace Text

section Lemmas

variable {s : List Char} {c : Char}

theorem not_isBlank_of_isDigit
    (h : c.isDigit = true) :
    isBlank c = false := by
  obtain ⟨hfrom, hto⟩ := Char.isDigit_iff_toNat.1 h
  have hfrom : 48 ≤ c.toNat := hfrom
  have hto : c.toNat ≤ 57 := hto
  exact isBlank_of_visible (by omega)

theorem trimLeft_trimLeft
    (s : List Char) :
    trimLeft (trimLeft s) = trimLeft s := by
  cases h : trimLeft s with
  | nil => rfl
  | cons c rest =>
      rw [trimLeft_cons, head_trimLeft_not_blank h]
      rfl

theorem trimRight_append_of_isBlank
    {blanks : List Char}
    (h : ∀ c ∈ blanks, isBlank c = true)
    (s : List Char) :
    trimRight (s ++ blanks) = trimRight s := by
  unfold trimRight
  rw [List.reverse_append, List.dropWhile_append_of_pos fun c hc => h c (List.mem_reverse.1 hc)]

theorem exists_append_trimRight
    (s : List Char) :
    ∃ blanks, (∀ c ∈ blanks, isBlank c = true) ∧ s = trimRight s ++ blanks := by
  refine ⟨(s.reverse.takeWhile isBlank).reverse, fun c hc => ?_, ?_⟩
  · exact List.mem_takeWhile_imp (List.mem_reverse.1 hc)
  · rw [trimRight, ← List.reverse_append, List.takeWhile_append_dropWhile, List.reverse_reverse]

/-- A text is what is left of it between the blanks that are trimmed. -/
theorem exists_append_trim
    (s : List Char) :
    ∃ before after, (∀ c ∈ before, isBlank c = true) ∧ (∀ c ∈ after, isBlank c = true)
      ∧ s = before ++ trim s ++ after := by
  obtain ⟨after, hafter, hright⟩ := exists_append_trimRight (trimLeft s)
  refine ⟨s.takeWhile isBlank, after, fun c hc => List.mem_takeWhile_imp hc, hafter, ?_⟩
  calc
    s = s.takeWhile isBlank ++ trimLeft s := List.takeWhile_append_dropWhile.symm
    _ = s.takeWhile isBlank ++ (trim s ++ after) := by rw [trim, ← hright]
    _ = s.takeWhile isBlank ++ trim s ++ after := (List.append_assoc ..).symm

/-- Nothing is left of a text only if it is blank. -/
theorem trim_eq_nil_iff :
    trim s = [] ↔ ∀ c ∈ s, isBlank c = true := by
  constructor
  · intro h
    obtain ⟨before, after, hbefore, hafter, hs⟩ := exists_append_trim s
    rw [h, List.append_nil] at hs
    rw [hs]
    exact fun c hc => (List.mem_append.1 hc).elim (hbefore c) (hafter c)
  · intro h
    rw [trim, trimLeft, List.dropWhile_eq_nil_iff.2 h, trimRight_nil]

/-- What is trimmed away is blank. -/
theorem mem_trim_iff
    (hc : isBlank c = false) :
    c ∈ trim s ↔ c ∈ s := by
  obtain ⟨before, after, hbefore, hafter, hs⟩ := exists_append_trim s
  have hnot : ∀ {blanks : List Char}, (∀ d ∈ blanks, isBlank d = true) → c ∉ blanks := by
    intro blanks hblanks hmem
    rw [hblanks c hmem] at hc
    cases hc
  have hparts : c ∈ before ++ trim s ++ after ↔ c ∈ trim s := by
    simp only [List.mem_append, hnot hbefore, hnot hafter, false_or, or_false]
  rw [← hs] at hparts
  exact hparts.symm

/-- What is left of a text does not end in a blank. -/
theorem not_isBlank_of_getLast?_trim
    (h : c ∈ (trim s).getLast?) :
    isBlank c = false := by
  have hnot := List.head?_dropWhile_not isBlank (trimLeft s).reverse
  rw [trim, trimRight, List.getLast?_reverse, Option.mem_def] at h
  rw [h] at hnot
  exact hnot

theorem trim_cons_append_singleton
    {d : Char}
    (hc : isBlank c = false)
    (hd : isBlank d = false)
    (s : List Char) :
    trim (c :: (s ++ [d])) = c :: (s ++ [d]) := by
  refine trim_of_ends (fun a ha => ?_) (fun a ha => ?_)
  · obtain rfl := Option.some.inj ha
    exact hc
  · rw [← List.cons_append, List.getLast?_concat] at ha
    obtain rfl := Option.some.inj ha
    exact hd

/-- Blanks behind a text make no difference to it. -/
theorem trim_append_of_isBlank
    {blanks : List Char}
    (h : ∀ c ∈ blanks, isBlank c = true)
    (s : List Char) :
    trim (s ++ blanks) = trim s := by
  have hnone : trimLeft blanks = [] := List.dropWhile_eq_nil_iff.2 h
  have hleft : trimLeft (s ++ blanks) = if trimLeft s = [] then [] else trimLeft s ++ blanks := by
    unfold trimLeft at hnone ⊢
    rw [List.dropWhile_append, hnone]
    simp
  rw [trim, trim, hleft]
  split
  · next hs => rw [hs]
  · exact trimRight_append_of_isBlank h _

/-- Blanks in front of a text make no difference to it. -/
theorem trim_isBlank_append
    {blanks : List Char}
    (h : ∀ c ∈ blanks, isBlank c = true)
    (s : List Char) :
    trim (blanks ++ s) = trim s := by
  have hleft : trimLeft (blanks ++ s) = trimLeft s := List.dropWhile_append_of_pos h
  rw [trim, hleft, trim]

theorem trim_trimLeft
    (s : List Char) :
    trim (trimLeft s) = trim s := by
  rw [trim, trim, trimLeft_trimLeft]

theorem trim_trimRight
    (s : List Char) :
    trim (trimRight s) = trim s := by
  obtain ⟨blanks, hblanks, hs⟩ := exists_append_trimRight s
  calc
    trim (trimRight s) = trim (trimRight s ++ blanks) :=
      (trim_append_of_isBlank hblanks (trimRight s)).symm
    _ = trim s := by rw [← hs]

/-- What is trimmed has no blanks at its ends. -/
theorem trim_trim
    (s : List Char) :
    trim (trim s) = trim s := by
  calc
    trim (trim s) = trim (trimRight (trimLeft s)) := rfl
    _ = trim (trimLeft s) := trim_trimRight _
    _ = trim s := trim_trimLeft s

end Lemmas

end Text
end Spreadsheet
