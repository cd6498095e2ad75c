import Spreadsheet.Proofs.Reference.Label
import Spreadsheet.Selection

/-!
# What a selection selects

A selection is made by gestures: it is begun at a cell, drawn to another one, moved by a step
on a grid, or given up.  Its label names the cell or the two corners of the rectangle, so the
label is read as exactly the selected cells.  The active cell is where the selection was last
begun or moved to; what came after that only drew it to other cells.

Results: a label denotes the selected cells (`contains_iff_denotes`), the active cell is where
the last gesture put it that did so (`isPlacedBy_run`), and both hold of every run of gestures
(`label_of_run`).
-/

namespace Spreadsheet
namespace Selection

/-- What can be done to a selection. -/
inductive Gesture where
  | start (col row : Int)
  | extend (col row : Int)
  | move (dcol drow columns rows : Int)
  | clear
deriving DecidableEq, Repr

namespace Gesture

/-- The coordinates that a gesture names are not negative. -/
def IsNonnegative : Gesture → Prop
  | .start col row | .extend col row => 0 ≤ col ∧ 0 ≤ row
  | .move .. | .clear => True

instance : DecidablePred IsNonnegative
  | .start _ _ | .extend _ _ => inferInstanceAs (Decidable (_ ∧ _))
  | .move .. | .clear => inferInstanceAs (Decidable True)

/-- The gesture draws a selection on. -/
def IsExtend : Gesture → Prop
  | .extend .. => True
  | _ => False

end Gesture

/-- What is selected after a gesture.  A number of columns or rows below zero counts as zero. -/
def after (s : Option Selection) : Gesture → Option Selection
  | .start col row => some (single col row)
  | .extend col row => some (extend s col row)
  | .move dcol drow columns rows => s.map fun s => s.moved dcol drow columns.toNat rows.toNat
  | .clear => none

/-- What is selected after some gestures, of which the first finds nothing selected. -/
def run (gestures : List Gesture) : Option Selection :=
  gestures.foldl after none

/-- Where a gesture puts the active cell, if it does not leave it where it is. -/
def placed? (s : Option Selection) : Gesture → Option (Int × Int)
  | .start col row => some (col, row)
  | .extend col row => if s.isNone then some (col, row) else none
  | .move dcol drow columns rows => s.map fun s =>
      (clampStep s.anchorCol dcol columns.toNat, clampStep s.anchorRow drow rows.toNat)
  | .clear => none

/-- The active cell is where one of the gestures put it, and all after that one only draw the
selection on. -/
def IsPlacedBy (s : Selection) (gestures : List Gesture) : Prop :=
  ∃ before gesture later, gestures = before ++ gesture :: later
    ∧ placed? (run before) gesture = some s.active
    ∧ ∀ other ∈ later, other.IsExtend

/-- A position lies in the rectangle that a label denotes: that between two labels if there is
a colon, else the cell of the label. -/
def Denotes (label : String) (col row : Int) : Prop :=
  if ':' ∈ label.toList then
    ∃ range, Range.parse? label.toList = .ok (some range) ∧ range.containsAt col row = true
  else
    ∃ r, Reference.parse? label.toList = .ok (some r) ∧ (r.col : Int) = col ∧ (r.row : Int) = row

/-- No coordinate is negative. -/
structure IsNonnegative (s : Selection) : Prop where
  anchorCol : 0 ≤ s.anchorCol
  anchorRow : 0 ≤ s.anchorRow
  cursorCol : 0 ≤ s.cursorCol
  cursorRow : 0 ≤ s.cursorRow

section Labels

variable {s : Selection} {r r₁ r₂ : Reference} {label first last : String} {col row : Int}

theorem contains_eq_true_iff :
    s.contains col row = true
      ↔ s.minCol ≤ col ∧ col ≤ s.maxCol ∧ s.minRow ≤ row ∧ row ≤ s.maxRow := by
  simp only [contains, Bool.and_eq_true, decide_eq_true_eq, and_assoc]

/-- The label of a cell denotes that cell. -/
theorem denotes_label_iff
    (h : r.label = .ok label) :
    Denotes label col row ↔ (r.col : Int) = col ∧ (r.row : Int) = row := by
  have hparse := Reference.parse?_label h
  have hcolon : ':' ∉ label.toList :=
    Reference.not_mem_of_parse? hparse (by decide) (by decide) (by decide)
  simp only [Denotes, if_neg hcolon, hparse, Except.ok.injEq, Option.some.injEq, exists_eq_left']

/-- Two labels with a colon between them denote the range between their cells. -/
theorem denotes_corners_iff
    (hfirst : r₁.label = .ok first)
    (hlast : r₂.label = .ok last) :
    Denotes (first ++ ":" ++ last) col row ↔ (Range.mk r₁ r₂).containsAt col row = true := by
  have htext : (first ++ ":" ++ last).toList = first.toList ++ ':' :: last.toList := by simp
  have hparse := Range.parse?_corners (Reference.parse?_label hfirst) (Reference.parse?_label hlast)
  simp only [Denotes, htext, List.mem_append, List.mem_cons_self, or_true, if_true, hparse,
    Except.ok.injEq, Option.some.injEq, exists_eq_left']

/-- The corners are cells, and their labels make up the label of the selection. -/
theorem exists_corners
    (h : s.IsNonnegative)
    (hrow : IsWritable (s.maxRow + 1)) :
    ∃ r₁ r₂ : Reference, ∃ first last : String,
      r₁.label = .ok first ∧ r₂.label = .ok last
        ∧ s.label = .ok (if first = last then first else first ++ ":" ++ last)
        ∧ s.minCol = r₁.col ∧ s.minRow = r₁.row ∧ s.maxCol = r₂.col ∧ s.maxRow = r₂.row := by
  have hcorner : ∀ col row : Int, 0 ≤ col → 0 ≤ row → row ≤ s.maxRow →
      ∃ r : Reference, ∃ label, r.label = .ok label ∧ Reference.labelOf col row = .ok label
        ∧ col = r.col ∧ row = r.row := by
    intro col row hcol hrow₀ hle
    obtain ⟨col, rfl⟩ := Int.eq_ofNat_of_zero_le hcol
    obtain ⟨row, rfl⟩ := Int.eq_ofNat_of_zero_le hrow₀
    have hwritable : IsWritable ((row : Int) + 1) := isWritable_of_le (by omega) (by omega) hrow
    obtain ⟨label, hlabel⟩ := Reference.exists_label_of_isWritable (r := ⟨col, row⟩) hwritable
    exact ⟨⟨col, row⟩, label, hlabel, hlabel, rfl, rfl⟩
  obtain ⟨r₁, first, hfirst, hfirst', hminCol, hminRow⟩ := hcorner s.minCol s.minRow
    (le_min h.anchorCol h.cursorCol) (le_min h.anchorRow h.cursorRow) min_le_max
  obtain ⟨r₂, last, hlast, hlast', hmaxCol, hmaxRow⟩ := hcorner s.maxCol s.maxRow
    (le_max_of_le_left h.anchorCol) (le_max_of_le_left h.anchorRow) (le_refl _)
  refine ⟨r₁, r₂, first, last, hfirst, hlast, ?_, hminCol, hminRow, hmaxCol, hmaxRow⟩
  rw [label, hfirst', hlast']
  rfl

/-- The label denotes the selected cells. -/
theorem contains_iff_denotes
    (h : s.IsNonnegative)
    (hrow : IsWritable (s.maxRow + 1)) :
    ∃ label, s.label = .ok label
      ∧ ∀ col row : Int, s.contains col row = true ↔ Denotes label col row := by
  obtain ⟨r₁, r₂, first, last, hfirst, hlast, hlabel, hminCol, hminRow, hmaxCol, hmaxRow⟩ :=
    exists_corners h hrow
  refine ⟨_, hlabel, fun col row => ?_⟩
  rw [contains_eq_true_iff, hminCol, hminRow, hmaxCol, hmaxRow]
  by_cases hsame : first = last
  · -- One label names one cell, so the corners are the same.
    subst hsame
    obtain rfl : r₁ = r₂ := by
      have hparse := (Reference.parse?_label hfirst).symm.trans (Reference.parse?_label hlast)
      exact Option.some.inj (Except.ok.inj hparse)
    rw [if_pos rfl, denotes_label_iff hfirst]
    omega
  · have hcols : s.minCol ≤ s.maxCol := min_le_max
    have hrows : s.minRow ≤ s.maxRow := min_le_max
    rw [if_neg hsame, denotes_corners_iff hfirst hlast]
    simp only [Range.containsAt, Bool.and_eq_true, decide_eq_true_eq]
    simp only [Range.minCol, Range.maxCol, Range.minRow, Range.maxRow]
    omega

end Labels

section Runs

variable {s : Selection} {before : Option Selection} {gesture : Gesture}
  {gestures : List Gesture}

theorem run_concat
    (gestures : List Gesture) (gesture : Gesture) :
    run (gestures ++ [gesture]) = after (run gestures) gesture := by
  rw [run, List.foldl_append]
  rfl

/-- A gesture that names no negative coordinate leaves none. -/
theorem isNonnegative_after
    (hbefore : ∀ t ∈ before, t.IsNonnegative)
    (hgesture : gesture.IsNonnegative)
    (h : after before gesture = some s) :
    s.IsNonnegative := by
  cases gesture with
  | start col row =>
      obtain rfl := Option.some.inj h
      exact ⟨hgesture.1, hgesture.2, hgesture.1, hgesture.2⟩
  | extend col row =>
      obtain rfl := Option.some.inj h
      cases before with
      | none => exact ⟨hgesture.1, hgesture.2, hgesture.1, hgesture.2⟩
      | some t => exact ⟨(hbefore t rfl).anchorCol, (hbefore t rfl).anchorRow, hgesture.1, hgesture.2⟩
  | move dcol drow columns rows =>
      obtain ⟨t, -, rfl⟩ := Option.map_eq_some_iff.1 h
      have hclamp : ∀ i step count, 0 ≤ clampStep i step count := fun i step count => by
        unfold clampStep
        omega
      exact ⟨hclamp _ _ _, hclamp _ _ _, hclamp _ _ _, hclamp _ _ _⟩
  | clear => cases h

theorem isNonnegative_run
    (hgestures : ∀ gesture ∈ gestures, gesture.IsNonnegative)
    (h : run gestures = some s) :
    s.IsNonnegative := by
  induction gestures using List.reverseRecOn generalizing s with
  | nil => cases h
  | append_singleton gestures gesture ih =>
      rw [run_concat] at h
      exact isNonnegative_after
        (fun t ht => ih (fun other hother => hgestures other (by simp [hother])) ht)
        (hgestures gesture (by simp)) h

/-- A gesture puts the active cell somewhere, or it draws a selection on and leaves it. -/
theorem placed?_or_isExtend
    (h : after before gesture = some s) :
    placed? before gesture = some s.active
      ∨ gesture.IsExtend ∧ ∃ t, before = some t ∧ t.active = s.active := by
  cases gesture with
  | start col row =>
      obtain rfl := Option.some.inj h
      exact .inl rfl
  | extend col row =>
      obtain rfl := Option.some.inj h
      cases before with
      | none => exact .inl rfl
      | some t => exact .inr ⟨trivial, t, rfl, rfl⟩
  | move dcol drow columns rows =>
      obtain ⟨t, rfl, rfl⟩ := Option.map_eq_some_iff.1 h
      exact .inl rfl
  | clear => cases h

/-- The active cell is where the last gesture put it that did so. -/
theorem isPlacedBy_run
    (h : run gestures = some s) :
    s.IsPlacedBy gestures := by
  induction gestures using List.reverseRecOn generalizing s with
  | nil => cases h
  | append_singleton gestures gesture ih =>
      rw [run_concat] at h
      rcases placed?_or_isExtend h with hplaced | ⟨hextend, t, ht, hactive⟩
      · exact ⟨gestures, gesture, [], rfl, hplaced, by simp⟩
      · obtain ⟨front, placing, later, rfl, hplaced, hlater⟩ := ih ht
        refine ⟨front, placing, later ++ [gesture], by simp, hactive ▸ hplaced, ?_⟩
        intro other hother
        rcases List.mem_append.1 hother with hother | hother
        · exact hlater other hother
        · exact List.mem_singleton.1 hother ▸ hextend

/-- A step on a grid with cells selects the one cell inside it where it ends. -/
theorem of_move
    {dcol drow columns rows : Int}
    (h : after before (.move dcol drow columns rows) = some s)
    (hcolumns : 1 ≤ columns)
    (hrows : 1 ≤ rows) :
    (0 ≤ s.active.1 ∧ s.active.1 < columns) ∧ (0 ≤ s.active.2 ∧ s.active.2 < rows)
      ∧ ∀ col row, s.contains col row = true ↔ (col, row) = s.active := by
  obtain ⟨t, -, rfl⟩ := Option.map_eq_some_iff.1 h
  have hinside := t.inside_moved dcol drow (show 0 < columns.toNat by omega)
    (show 0 < rows.toNat by omega)
  rw [Int.toNat_of_nonneg (by omega), Int.toNat_of_nonneg (by omega)] at hinside
  refine ⟨hinside.1, hinside.2, fun col row => ?_⟩
  rw [contains_eq_true_iff, Prod.mk.injEq]
  simp only [moved, single, minCol, maxCol, minRow, maxRow, active, min_self, max_self]
  omega

end Runs

/-- The label of a selection denotes exactly the selected cells, the active cell among them;
that is where it was last put, and a step on a grid with cells selects nothing else. -/
theorem label_of_run
    {gestures : List Gesture} {s : Selection}
    (hgestures : ∀ gesture ∈ gestures, gesture.IsNonnegative)
    (hrun : run gestures = some s)
    (hrow : IsWritable (s.maxRow + 1)) :
    (∃ label, s.label = .ok label
        ∧ (∀ col row : Int, s.contains col row = true ↔ Denotes label col row)
        ∧ Denotes label s.active.1 s.active.2)
      ∧ s.IsPlacedBy gestures
      ∧ ∀ before dcol drow columns rows, gestures = before ++ [.move dcol drow columns rows] →
          1 ≤ columns → 1 ≤ rows →
            (0 ≤ s.active.1 ∧ s.active.1 < columns) ∧ (0 ≤ s.active.2 ∧ s.active.2 < rows)
              ∧ ∀ col row, s.contains col row = true ↔ (col, row) = s.active := by
  obtain ⟨label, hlabel, hdenotes⟩ :=
    contains_iff_denotes (isNonnegative_run hgestures hrun) hrow
  refine ⟨⟨label, hlabel, hdenotes, (hdenotes _ _).1 s.contains_anchor⟩, isPlacedBy_run hrun, ?_⟩
  rintro before dcol drow columns rows rfl hcolumns hrows
  rw [run_concat] at hrun
  exact of_move hrun hcolumns hrows

/-- A selection that was moved to the edge of a grid, and then drawn up and to the right. -/
theorem label_of_run_drawnFromEdge :
    run [.start 2 1, .move (-5) 0 10 20, .extend 3 0] = some ⟨0, 1, 3, 0⟩
      ∧ Selection.label ⟨0, 1, 3, 0⟩ = .ok "A1:D2"
      ∧ (∀ col row, contains ⟨0, 1, 3, 0⟩ col row = true ↔ Denotes "A1:D2" col row)
      ∧ Denotes "A1:D2" 0 1
      ∧ ∀ col row, contains ⟨0, 1, 0, 1⟩ col row = true ↔ (col, row) = (0, 1) := by
  have hrow : IsWritable (1 + 1) := isWritable_of_lt_pow 1 (by decide) (by decide)
  have hrun : run [.start 2 1, .move (-5) 0 10 20, .extend 3 0] = some ⟨0, 1, 3, 0⟩ := by decide
  have hmoved : run [.start 2 1, .move (-5) 0 10 20] = some ⟨0, 1, 0, 1⟩ := by decide
  have hlabel : Selection.label ⟨0, 1, 3, 0⟩ = .ok "A1:D2" := by decide +kernel
  obtain ⟨⟨label, hlabel', hdenotes, hactive⟩, -, -⟩ := label_of_run (by decide) hrun hrow
  obtain rfl : "A1:D2" = label := Except.ok.inj (hlabel.symm.trans hlabel')
  obtain ⟨-, -, hstep⟩ := label_of_run (by decide) hmoved hrow
  exact ⟨hrun, hlabel, hdenotes, hactive,
    (hstep [.start 2 1] (-5) 0 10 20 rfl (by decide) (by decide)).2.2⟩

end Selection
end Spreadsheet
