import Spreadsheet.EventLog
import Spreadsheet.Proofs.Except
import Spreadsheet.Proofs.Json.Graphic

/-!
# The end of a log

The text of a log is a row of lines, each with a line feed after it.  Where the lines are
graphic, the reader finds them again, and the end of the log that it looks at is the text of
the last ones: it gives up the line in which the end begins, and all before it.  A line that
the end begins with is given up as well, although nothing of it is cut off.

Results: the records of a log are those on its lines (`records_ofLines`), the end of a log is
that of its lines without those given up (`tail_ofLines`), and a line is kept exactly if it
begins after the end does, or if the end is the whole log (`lost_le_iff`).
-/

namespace Spreadsheet

section Lemmas

namespace Text

theorem linesFrom_append
    {l : List Char}
    (h : ∀ c ∈ l, isBreak c = false)
    (line rest : List Char) :
    linesFrom line (l ++ '\n' :: rest) = (line.reverse ++ l) :: linesFrom [] rest := by
  induction l generalizing line with
  | nil =>
      have hbreak : isBreak '\n' = true := by decide
      simp [linesFrom, hbreak]
  | cons c l ih =>
      have hc : isBreak c = false := h c List.mem_cons_self
      have hreturn : c ≠ '\r' := by
        rintro rfl
        exact absurd hc (by decide)
      have hl := ih fun d hd => h d (List.mem_cons_of_mem _ hd)
      simp [linesFrom, hc, hreturn, hl]

/-- A line feed ends a line. -/
theorem lines_append
    {l : List Char}
    (h : ∀ c ∈ l, isBreak c = false)
    (rest : List Char) :
    lines (l ++ '\n' :: rest) = l :: lines rest :=
  linesFrom_append h [] rest

end Text

end Lemmas

namespace EventLog

/-- The text of a log with these lines. -/
def ofLines (lines : List (List Char)) : List Char :=
  lines.flatMap fun line => line ++ ['\n']

/-- The number of bytes of a log with these lines. -/
def size (lines : List (List Char)) : Nat :=
  byteSize (ofLines lines)

/-- The text after the first line end. -/
def afterLine (s : List Char) : List Char :=
  (s.dropWhile (· != '\n')).drop 1

/-- How many lines begin before the last bytes of a log, or with them. -/
def before (bytes : Int) : List (List Char) → Nat
  | [] => 0
  | line :: rest => if (size (line :: rest) : Int) < bytes then 0 else before bytes rest + 1

/-- How many lines are given up when no more than the last bytes of a log are read. -/
def lost (bytes : Int) (lines : List (List Char)) : Nat :=
  if (size lines : Int) ≤ bytes then 0 else before bytes lines

/-- All characters of the lines are graphic. -/
def AreGraphic (lines : List (List Char)) : Prop :=
  ∀ line ∈ lines, ∀ c ∈ line, Text.IsGraphic c

section Lemmas

theorem ofLines_cons
    (line : List Char) (lines : List (List Char)) :
    ofLines (line :: lines) = line ++ '\n' :: ofLines lines := by
  simp [ofLines]

/-! Bytes. -/

theorem byteSize_eq_length
    {s : List Char}
    (h : ∀ c ∈ s, c.utf8Size = 1) :
    byteSize s = s.length := by
  induction s with
  | nil => rfl
  | cons c s ih =>
      rw [byteSize, h c List.mem_cons_self, ih fun d hd => h d (List.mem_cons_of_mem _ hd),
        List.length_cons, Nat.add_comm]

theorem dropBytes_eq_drop
    {s : List Char}
    (h : ∀ c ∈ s, c.utf8Size = 1)
    (n : Nat) :
    dropBytes n s = s.drop n := by
  induction s generalizing n with
  | nil => cases n <;> rfl
  | cons c s ih =>
      cases n with
      | zero => rfl
      | succ n =>
          rw [dropBytes, h c List.mem_cons_self, List.drop_succ_cons]
          exact ih (fun d hd => h d (List.mem_cons_of_mem _ hd)) n

variable {line : List Char} {lines : List (List Char)}

theorem AreGraphic.tail
    (h : AreGraphic (line :: lines)) :
    AreGraphic lines :=
  fun other hother => h other (List.mem_cons_of_mem _ hother)

theorem AreGraphic.utf8Size_eq_one
    (h : AreGraphic lines) :
    ∀ c ∈ ofLines lines, c.utf8Size = 1 := by
  intro c hc
  obtain ⟨line, hline, hc⟩ := List.mem_flatMap.1 hc
  rcases List.mem_append.1 hc with hc | hc
  · exact (h line hline c hc).utf8Size_eq_one
  · rw [List.mem_singleton.1 hc]
    decide

theorem AreGraphic.size_eq_length
    (h : AreGraphic lines) :
    size lines = (ofLines lines).length :=
  byteSize_eq_length h.utf8Size_eq_one

theorem AreGraphic.size_cons
    (h : AreGraphic (line :: lines)) :
    size (line :: lines) = line.length + 1 + size lines := by
  rw [h.size_eq_length, h.tail.size_eq_length, ofLines_cons, List.length_append,
    List.length_cons]
  omega

/-- Fewer lines are fewer bytes. -/
theorem AreGraphic.size_drop_add_le
    (h : AreGraphic lines)
    {n : Nat}
    (hn : n ≤ lines.length) :
    size (lines.drop n) + n ≤ size lines := by
  induction lines generalizing n with
  | nil =>
      obtain rfl := Nat.le_zero.1 hn
      exact Nat.le_refl _
  | cons line lines ih =>
      cases n with
      | zero => exact Nat.le_refl _
      | succ n =>
          have hrest := ih h.tail (Nat.le_of_succ_le_succ hn)
          rw [List.drop_succ_cons, h.size_cons]
          omega

/-! The end. -/

/-- Within a line the text after its end is the next line; beyond it the next lines decide. -/
theorem afterLine_drop
    (hline : '\n' ∉ line)
    (rest : List Char) (n : Nat) :
    afterLine ((line ++ '\n' :: rest).drop n)
      = if n ≤ line.length then rest else afterLine (rest.drop (n - (line.length + 1))) := by
  split
  · next hn =>
      have hskip : ∀ c ∈ line.drop n, (c != '\n') = true := by
        intro c hc
        rw [bne_iff_ne]
        rintro rfl
        exact hline (List.mem_of_mem_drop hc)
      rw [afterLine, List.drop_append_of_le_length hn, List.dropWhile_append_of_pos hskip,
        List.dropWhile_cons_of_neg (by decide), List.drop_succ_cons, List.drop_zero]
  · next hn =>
      obtain ⟨k, rfl⟩ := Nat.exists_eq_add_of_lt (Nat.not_le.1 hn)
      have hrest : (line ++ '\n' :: rest).drop (line.length + k + 1) = rest.drop k := by
        rw [Nat.add_assoc, List.drop_length_add_append, List.drop_succ_cons]
      rw [hrest]
      congr 2
      omega

/-- The induction is on the lines; a line that begins where the bytes begin is given up. -/
theorem afterLine_drop_ofLines
    (h : AreGraphic lines)
    {bytes : Int}
    (hbytes : bytes ≤ size lines) :
    afterLine ((ofLines lines).drop ((size lines : Int) - bytes).toNat)
      = ofLines (lines.drop (before bytes lines)) := by
  induction lines with
  | nil => simp [ofLines, afterLine]
  | cons line lines ih =>
      have hfeed : '\n' ∉ line := fun hmem =>
        absurd (h line List.mem_cons_self '\n' hmem) (by decide)
      have hsize := h.size_cons
      have hbefore : before bytes (line :: lines) = before bytes lines + 1 := by
        rw [before, if_neg (by omega)]
      rw [ofLines_cons, afterLine_drop hfeed, hbefore, List.drop_succ_cons]
      by_cases hrest : (size lines : Int) < bytes
      · have hnone : before bytes lines = 0 := by
          cases lines with
          | nil => rfl
          | cons next lines => rw [before, if_pos hrest]
        rw [if_pos (by omega), hnone, List.drop_zero]
      · rw [if_neg (by omega), ← ih h.tail (by omega)]
        congr 2
        omega

/-- The end of a log is that of its lines without those given up. -/
theorem tail_ofLines
    (h : AreGraphic lines)
    (bytes : Int) :
    tail bytes (ofLines lines) = ofLines (lines.drop (lost bytes lines)) := by
  unfold lost
  split
  · next hall => exact tail_of_le hall
  · next hcut =>
      have hstart : ((byteSize (ofLines lines) : Int) - bytes).toNat ≠ 0 := by
        change ¬ ((byteSize (ofLines lines) : Int) ≤ bytes) at hcut
        omega
      rw [← afterLine_drop_ofLines h (by omega), tail]
      simp only [if_neg hstart, dropBytes_eq_drop h.utf8Size_eq_one]
      rfl

/-- A line is among those that begin after the bytes begin exactly if it has fewer bytes from
its first character on. -/
theorem before_le_iff
    (h : AreGraphic lines)
    {bytes : Int} {i : Nat}
    (hi : i < lines.length) :
    before bytes lines ≤ i ↔ (size (lines.drop i) : Int) < bytes := by
  induction lines generalizing i with
  | nil => exact absurd hi (Nat.not_lt_zero i)
  | cons line lines ih =>
      rw [before]
      cases i with
      | zero =>
          rw [List.drop_zero]
          split
          · next hall => exact iff_of_true (Nat.le_refl 0) hall
          · next hcut => exact iff_of_false (by omega) hcut
      | succ i =>
          have hrest := ih h.tail (Nat.lt_of_succ_lt_succ hi)
          have hsmaller := h.size_drop_add_le (Nat.le_of_lt hi)
          rw [List.drop_succ_cons] at hsmaller ⊢
          split
          · next hall => exact iff_of_true (Nat.zero_le _) (by omega)
          · next hcut => rw [Nat.succ_le_succ_iff, hrest]

/-- A line is kept exactly if it lies within the last bytes, other than with its first
character on the first of them, or is the first line of a log read whole. -/
theorem lost_le_iff
    (h : AreGraphic lines)
    {bytes : Int} {i : Nat}
    (hi : i < lines.length) :
    lost bytes lines ≤ i ↔
      (size (lines.drop i) : Int) ≤ bytes ∧ ((size (lines.drop i) : Int) = bytes → i = 0) := by
  have hsmaller := h.size_drop_add_le (Nat.le_of_lt hi)
  unfold lost
  split
  · next hall => exact iff_of_true (Nat.zero_le i) ⟨by omega, by omega⟩
  · next hcut =>
      rw [before_le_iff h hi]
      constructor
      · intro hless
        exact ⟨by omega, by omega⟩
      · rintro ⟨hle, hfirst⟩
        refine lt_of_le_of_ne hle fun heq => hcut ?_
        obtain rfl := hfirst heq
        rw [List.drop_zero] at hle
        exact hle

/-! Records. -/

/-- A line with a value on it comes before the values of the lines after it. -/
theorem records_append
    {rest : List Char} {value : Json} {values : List Json}
    (hbreak : ∀ c ∈ line, Text.isBreak c = false)
    (hline : record? line = .ok (some value))
    (hrest : records rest = .ok values) :
    records (line ++ '\n' :: rest) = .ok (value :: values) := by
  obtain ⟨more, hmore, hvalues⟩ := bind_eq_ok_iff.1 hrest
  obtain rfl := Except.ok.inj hvalues
  rw [records, Text.lines_append hbreak, List.mapM_cons, bind_of_eq_ok hline,
    bind_of_eq_ok hmore]
  rfl

/-- The records of a log are those on its lines. -/
theorem records_ofLines
    {values : List Json}
    (h : AreGraphic lines)
    (hvalues : List.Forall₂ (fun line value => record? line = .ok (some value)) lines values) :
    records (ofLines lines) = .ok values := by
  induction hvalues with
  | nil => rfl
  | cons hline _ ih =>
      have hbreak := fun c hc => (h _ List.mem_cons_self c hc).isBreak_eq_false
      rw [ofLines_cons]
      exact records_append hbreak hline (ih h.tail)

end Lemmas

end EventLog

end Spreadsheet
