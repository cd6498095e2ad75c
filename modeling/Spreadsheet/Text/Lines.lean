/-!
# Lines

A text cut at its line ends: line feed, carriage return (with a line feed
after it, one line end), vertical tab, form feed, the file, group and record
separators, next line, and the line and paragraph separators.  The last line
end starts no new line.

Results: a text without line ends is its own single line
(`lines_of_no_break`), and no line holds a line end (`not_isBreak_of_mem`).
-/

namespace Spreadsheet
namespace Text

/-- A character that ends a line. -/
def isBreak (c : Char) : Bool :=
  let n := c.toNat
  (0x0a ≤ n && n ≤ 0x0d) || (0x1c ≤ n && n ≤ 0x1e) || n == 0x85 || n == 0x2028 || n == 0x2029

/-- The lines of a text whose first line already began with `line` (reversed). -/
def linesFrom (line : List Char) : List Char → List (List Char)
  | [] => if line.isEmpty then [] else [line.reverse]
  | '\r' :: '\n' :: s => line.reverse :: linesFrom [] s
  | c :: s => if isBreak c then line.reverse :: linesFrom [] s else linesFrom (c :: line) s

/-- The lines of a text. -/
def lines (s : List Char) : List (List Char) :=
  linesFrom [] s

section Lemmas

@[simp] theorem lines_nil :
    lines [] = [] := rfl

theorem linesFrom_of_no_break
    {line s : List Char}
    (hne : line ≠ [] ∨ s ≠ [])
    (h : ∀ c ∈ s, isBreak c = false) :
    linesFrom line s = [line.reverse ++ s] := by
  fun_induction linesFrom line s with
  | case1 line hl => simp_all
  | case2 line hl => simp
  | case3 line s ih =>
      have : isBreak '\r' = false := h '\r' (by simp)
      exact absurd this (by decide)
  | case4 line c s _ hc ih =>
      rw [h c (by simp)] at hc
      simp at hc
  | case5 line c s _ hc ih =>
      rw [ih (by simp) (fun d hd => h d (by simp [hd]))]
      simp

/-- A text without line ends is one line. -/
theorem lines_of_no_break
    {s : List Char}
    (hne : s ≠ [])
    (h : ∀ c ∈ s, isBreak c = false) :
    lines s = [s] := by
  have h' : linesFrom [] s = [[].reverse ++ s] := linesFrom_of_no_break (Or.inr hne) h
  simpa [lines] using h'

theorem not_isBreak_of_mem_linesFrom
    {line s l : List Char} {c : Char}
    (hline : ∀ c ∈ line, isBreak c = false)
    (hl : l ∈ linesFrom line s)
    (hc : c ∈ l) :
    isBreak c = false := by
  fun_induction linesFrom line s with
  | case1 line he => simp at hl
  | case2 line he =>
      simp only [List.mem_singleton] at hl
      subst hl
      exact hline c (by simpa using hc)
  | case3 line s ih =>
      rcases List.mem_cons.1 hl with rfl | hl
      · exact hline c (by simpa using hc)
      · exact ih (by simp) hl
  | case4 line d s _ hd ih =>
      rcases List.mem_cons.1 hl with rfl | hl
      · exact hline c (by simpa using hc)
      · exact ih (by simp) hl
  | case5 line d s _ hd ih =>
      refine ih ?_ hl
      intro e he
      rcases List.mem_cons.1 he with rfl | he
      · simpa using hd
      · exact hline e he

/-- No line holds a line end. -/
theorem not_isBreak_of_mem
    {s l : List Char} {c : Char}
    (hl : l ∈ lines s)
    (hc : c ∈ l) :
    isBreak c = false :=
  not_isBreak_of_mem_linesFrom (by simp) hl hc

end Lemmas

end Text
end Spreadsheet
