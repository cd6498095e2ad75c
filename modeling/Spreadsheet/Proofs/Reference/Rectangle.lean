import Mathlib.Data.List.Nodup
import Spreadsheet.Reference.Range

/-!
# The cells of a rectangle

A range is a rectangle of cells, whichever two opposite corners name it.  What it tells
about itself, one question at a time, is told of one and the same list: its cells row by
row.  Cutting a range to a grid keeps the cells inside the grid in their order.

Results: the cells of a range stand row by row (`pairwise_toList`), do not depend on the
corners (`toList_of_sameCorners`) and are cut by leaving out those outside
(`toList_clipped?`); all questions about a range are answered by the list of its cells
(`isListedBy_toList`).
-/

namespace Spreadsheet

/-- The cell stands before the other one, row by row and from left to right. -/
def Reference.Before (c d : Reference) : Prop :=
  c.row < d.row ∨ c.row = d.row ∧ c.col < d.col

namespace Range

/-- Two opposite corners of one rectangle, in any order. -/
def SameCorners (range range' : Range) : Prop :=
  (range.start.col = range'.start.col ∧ range.stop.col = range'.stop.col
      ∨ range.start.col = range'.stop.col ∧ range.stop.col = range'.start.col)
    ∧ (range.start.row = range'.start.row ∧ range.stop.row = range'.stop.row
      ∨ range.start.row = range'.stop.row ∧ range.stop.row = range'.start.row)

/-- All questions about the range are answered by the list of its cells. -/
structure IsListedBy (range : Range) (cells : List Reference) : Prop where
  /-- A position lies in the range if it is that of a cell in the list. -/
  containsAt_iff : ∀ col row : Int,
    range.containsAt col row = true ↔ ∃ c ∈ cells, (c.col : Int) = col ∧ (c.row : Int) = row
  nodup : cells.Nodup
  rowByRow : cells.Pairwise Reference.Before
  size_eq : range.size = cells.length
  count_eq :
    range.count
      = if (cells.length : Int) < Number.lengthLimit then .ok cells.length else .error .tooLarge
  corners : ∀ range', range.SameCorners range' → range'.toList = cells
  /-- Nothing is left of a range of which no cell lies inside the grid. -/
  clipped?_eq_none_iff : ∀ columns rows : Int,
    range.clipped? columns rows = none
      ↔ ∀ c ∈ cells, ¬ ((c.col : Int) < columns ∧ (c.row : Int) < rows)
  /-- What is left of a range lists the cells inside the grid, in their order. -/
  clipped : ∀ columns rows part, range.clipped? columns rows = some part →
    part.toList = cells.filter fun c => decide ((c.col : Int) < columns ∧ (c.row : Int) < rows)

section Listing

variable {range range' : Range}

/-- The cells of a range stand row by row. -/
theorem pairwise_toList
    (range : Range) :
    range.toList.Pairwise Reference.Before := by
  rw [toList, List.pairwise_flatMap]
  constructor
  · intro row _
    rw [List.pairwise_map]
    exact (List.pairwise_lt_range').imp fun hlt => .inr ⟨rfl, hlt⟩
  · refine (List.pairwise_lt_range').imp fun hlt c hc d hd => ?_
    obtain ⟨col, -, rfl⟩ := List.mem_map.1 hc
    obtain ⟨col', -, rfl⟩ := List.mem_map.1 hd
    exact .inl hlt

/-- A range lists every cell once. -/
theorem nodup_toList
    (range : Range) :
    range.toList.Nodup := by
  refine (pairwise_toList range).imp fun hbefore heq => ?_
  subst heq
  rcases hbefore with hrow | ⟨-, hcol⟩
  · exact Nat.lt_irrefl _ hrow
  · exact Nat.lt_irrefl _ hcol

/-- The cells of a rectangle are the same whichever corners name it. -/
theorem toList_of_sameCorners
    (h : range.SameCorners range') :
    range.toList = range'.toList := by
  have hminCol : range.minCol = range'.minCol := by
    unfold minCol
    rcases h.1 with ⟨h, h'⟩ | ⟨h, h'⟩ <;> omega
  have hmaxCol : range.maxCol = range'.maxCol := by
    unfold maxCol
    rcases h.1 with ⟨h, h'⟩ | ⟨h, h'⟩ <;> omega
  have hminRow : range.minRow = range'.minRow := by
    unfold minRow
    rcases h.2 with ⟨h, h'⟩ | ⟨h, h'⟩ <;> omega
  have hmaxRow : range.maxRow = range'.maxRow := by
    unfold maxRow
    rcases h.2 with ⟨h, h'⟩ | ⟨h, h'⟩ <;> omega
  rw [toList, toList, height, height, width, width, hminCol, hmaxCol, hminRow, hmaxRow]

theorem toList_ne_nil
    (range : Range) :
    range.toList ≠ [] := by
  rw [← List.length_pos_iff, length_toList]
  exact Nat.mul_pos (Nat.succ_pos _) (Nat.succ_pos _)

/-- A position lies in the range if it is that of one of its cells. -/
theorem containsAt_eq_true_iff
    {col row : Int} :
    range.containsAt col row = true
      ↔ ∃ c ∈ range.toList, (c.col : Int) = col ∧ (c.row : Int) = row := by
  simp only [containsAt, Bool.and_eq_true, decide_eq_true_eq, mem_toList, mem_def]
  constructor
  · rintro ⟨⟨⟨hleft, hright⟩, htop⟩, hbottom⟩
    exact ⟨⟨col.toNat, row.toNat⟩, by dsimp only; omega, by dsimp only; omega⟩
  · rintro ⟨c, hc, rfl, rfl⟩
    omega

end Listing

section Clipping

theorem filter_lt_range'
    (start length : Nat) (bound : Int) :
    (List.range' start length).filter (fun i : Nat => decide ((i : Int) < bound))
      = List.range' start (min length (bound - start).toNat) := by
  induction length generalizing start with
  | zero => simp
  | succ length ih =>
      rw [List.range'_succ, List.filter_cons, ih]
      split
      · next h =>
          have h : (start : Int) < bound := by simpa using h
          have hmin : min (length + 1) (bound - start).toNat
              = min length (bound - (start + 1 : Nat)).toNat + 1 := by omega
          rw [hmin, List.range'_succ]
      · next h =>
          have h : ¬ (start : Int) < bound := by simpa using h
          have hmin : min (length + 1) (bound - start).toNat = 0 := by omega
          have hmin' : min length (bound - (start + 1 : Nat)).toNat = 0 := by omega
          rw [hmin, hmin']
          rfl

theorem flatMap_filter
    {α β : Type} (p : α → Bool) (f : α → List β) (xs : List α) :
    (xs.filter p).flatMap f = xs.flatMap fun x => if p x then f x else [] := by
  induction xs with
  | nil => rfl
  | cons x xs ih =>
      rw [List.filter_cons, List.flatMap_cons, ← ih]
      split
      · rw [List.flatMap_cons]
      · rw [List.nil_append]

/-- The cells of a range inside a grid, row by row. -/
theorem filter_toList
    (range : Range) (columns rows : Int) :
    range.toList.filter (fun r => decide ((r.col : Int) < columns ∧ (r.row : Int) < rows))
      = (List.range' range.minRow (min range.height (rows - range.minRow).toNat)).flatMap
          fun row => (List.range' range.minCol
            (min range.width (columns - range.minCol).toNat)).map fun col => ⟨col, row⟩ := by
  rw [toList, List.filter_flatMap, ← filter_lt_range', ← filter_lt_range', flatMap_filter]
  refine List.flatMap_congr fun row _ => ?_
  rw [List.filter_map]
  by_cases hrow : (row : Int) < rows
  · simp only [hrow, decide_true, if_true, and_true, Function.comp_def]
  · simp [hrow]

/-- One side of a range, cut to a bound that leaves some of it. -/
theorem clipped_side
    {first last : Nat} {bound : Int}
    (hle : first ≤ last)
    (hinside : ¬ min (last : Int) (bound - 1) < first) :
    min first (min (last : Int) (bound - 1)).toNat = first
      ∧ max first (min (last : Int) (bound - 1)).toNat - first + 1
        = min (last - first + 1) (bound - first).toNat := by
  obtain ⟨n, rfl⟩ : ∃ n : Nat, bound = n := ⟨bound.toNat, by omega⟩
  have hcut : (min (last : Int) (n - 1)).toNat = min last (n - 1) := by omega
  have hleft : ((n : Int) - first).toNat = n - first := by omega
  rw [hcut, hleft]
  omega

/-- The part of a range inside a grid has its cells inside the grid. -/
theorem toList_clipped?
    (range : Range) (columns rows : Int) :
    (range.clipped? columns rows).elim [] toList
      = range.toList.filter fun r => decide ((r.col : Int) < columns ∧ (r.row : Int) < rows) := by
  have hcol := range.minCol_le_maxCol
  have hrow := range.minRow_le_maxRow
  rw [filter_toList]
  unfold clipped?
  simp only
  split
  · next houtside =>
      rcases houtside with houtside | houtside
      · have hwidth : min range.width (columns - range.minCol).toNat = 0 := by
          unfold width
          omega
        rw [hwidth]
        simp
      · have hheight : min range.height (rows - range.minRow).toNat = 0 := by
          unfold height
          omega
        rw [hheight]
        rfl
  · next hinside =>
      rw [Option.elim_some, toList]
      obtain ⟨hminCol, hwidth⟩ := clipped_side hcol (by omega : ¬ min _ (columns - 1) < _)
      obtain ⟨hminRow, hheight⟩ := clipped_side hrow (by omega : ¬ min _ (rows - 1) < _)
      simp only [minRow, minCol, maxRow, maxCol, height, width] at *
      rw [hminRow, hminCol, hheight, hwidth]

/-- Nothing is left of a range if and only if none of its cells lies inside the grid. -/
theorem clipped?_eq_none_iff
    (range : Range) (columns rows : Int) :
    range.clipped? columns rows = none
      ↔ ∀ c ∈ range.toList, ¬ ((c.col : Int) < columns ∧ (c.row : Int) < rows) := by
  have hcells := range.toList_clipped? columns rows
  have hempty : range.clipped? columns rows = none
      ↔ (range.clipped? columns rows).elim [] toList = [] := by
    cases range.clipped? columns rows with
    | none => simp
    | some part => simp [part.toList_ne_nil]
  rw [hempty, hcells, List.filter_eq_nil_iff]
  simp only [decide_eq_true_eq]

end Clipping

/-- Whichever two cells name the range, all questions about it are answered by the list of
its cells. -/
theorem isListedBy_toList
    (p q : Reference) :
    (Range.mk p q).IsListedBy (Range.mk p q).toList where
  containsAt_iff _ _ := containsAt_eq_true_iff
  nodup := nodup_toList _
  rowByRow := pairwise_toList _
  size_eq := (length_toList _).symm
  count_eq := by rw [count, length_toList]
  corners _ h := (toList_of_sameCorners h).symm
  clipped?_eq_none_iff := clipped?_eq_none_iff _
  clipped columns rows part hpart := by
    rw [← toList_clipped?, hpart, Option.elim_some]

/-- A range may hold too many cells to be counted. -/
theorem count_wholeColumns :
    (Range.mk ⟨0, 0⟩ ⟨16383, 9999999999999998⟩).toList.length = 163839999999999983616
      ∧ ∀ n, (Range.mk ⟨0, 0⟩ ⟨16383, 9999999999999998⟩).count ≠ .ok n := by
  refine ⟨by rw [length_toList]; decide, fun n h => ?_⟩
  have hcount : (Range.mk ⟨0, 0⟩ ⟨16383, 9999999999999998⟩).count = .error .tooLarge := by decide
  cases hcount.symm.trans h

end Range
end Spreadsheet
