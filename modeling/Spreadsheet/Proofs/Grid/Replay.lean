import Spreadsheet.Proofs.Grid.Width

/-!
# Taking back and making again stays inside the grid

An edit is recorded when a cell was put or taken away, so the row that it names
reaches the position, and no commit takes positions away again.  What does take
positions away, a change of structure or a sort, forgets the history.  Hence
every recorded edit names a stored position.

Writing such a position leaves the rows as long as they were.  An edit taken back
leaves one place in the past, so making it again forgets none that is older.

Results: every change of a grid keeps this (`IsReplayable.change`), and neither
taking back nor making again moves an edge (`rowLengths_undo`,
`rowLengths_redo`).
-/

namespace Spreadsheet
namespace Grid

/-- How long the rows are. -/
def rowLengths (g : Grid) : List Nat := g.rows.map List.length

/-- The history keeps no more edits than the limit, those to be made again
included, and each names a stored position. -/
structure IsReplayable (limit : Nat) (g : Grid) : Prop where
  limit_eq : g.history.limit = limit
  depth : g.history.past.length + g.history.future.length ≤ limit
  stored : ∀ e ∈ g.history.past ++ g.history.future, g.Stores e.position

section Lemmas

theorem rowCount_eq_length_rowLengths
    (g : Grid) :
    g.rowCount = g.rowLengths.length := by
  rw [rowLengths, List.length_map, rowCount]

/-- The widest row is known from the lengths. -/
theorem widestRow_eq
    (rows : List Row) :
    widestRow rows = (rows.map List.length).foldl max 0 := by
  rw [widestRow, List.foldl_map]

theorem columnCount_of_rowLengths
    {g g' : Grid}
    (hmin : g'.minColumns = g.minColumns)
    (h : g'.rowLengths = g.rowLengths) :
    g'.columnCount = g.columnCount := by
  unfold rowLengths at h
  rw [columnCount, columnCount, hmin, widestRow_eq, widestRow_eq, h]

/-- Writing a stored position leaves every row as long as it was. -/
theorem rowLengths_write
    {g : Grid} {r : Reference}
    (h : g.Stores r)
    (cell : Option Cell) :
    (g.write r cell).rowLengths = g.rowLengths := by
  obtain ⟨row, hrow, hcol⟩ := h
  have hlt : r.row < g.rows.length := (List.getElem?_eq_some_iff.1 hrow).1
  unfold Grid.write
  split
  · rfl
  · unfold rowLengths growRows
    rw [if_pos hlt]
    refine List.ext_getElem? fun i => ?_
    rw [List.getElem?_map, List.getElem?_map, List.getElem?_modify]
    by_cases heq : r.row = i
    · subst heq
      have hlength : (writeRow row r.col cell).length = row.length := by
        rw [length_writeRow]
        omega
      simp [hrow, hlength]
    · simp [heq]

namespace IsReplayable

variable {limit : Nat} {g g' : Grid} {e : Edit}

/-- The edit taken back last names a stored position. -/
theorem stores_undo
    (h : g.IsReplayable limit)
    (hundo : g.undo? = some (e, g')) :
    g.Stores e.position := by
  obtain ⟨past, hpast, -⟩ := undo?_eq_some hundo
  exact h.stored e (by simp [hpast])

theorem stores_redo
    (h : g.IsReplayable limit)
    (hredo : g.redo? = some (e, g')) :
    g.Stores e.position := by
  obtain ⟨future, hfuture, -⟩ := redo?_eq_some hredo
  exact h.stored e (by simp [hfuture])

/-- Taking back leaves every row as long as it was. -/
theorem rowLengths_undo
    (h : g.IsReplayable limit)
    (hundo : g.undo? = some (e, g')) :
    g'.rowLengths = g.rowLengths := by
  have hstored := h.stores_undo hundo
  obtain ⟨past, -, rfl⟩ := undo?_eq_some hundo
  exact rowLengths_write hstored e.before

/-- Making again leaves every row as long as it was. -/
theorem rowLengths_redo
    (h : g.IsReplayable limit)
    (hredo : g.redo? = some (e, g')) :
    g'.rowLengths = g.rowLengths := by
  have hstored := h.stores_redo hredo
  obtain ⟨future, -, rfl⟩ := redo?_eq_some hredo
  exact rowLengths_write hstored e.after

/-- Making an edit again forgets no older one. -/
theorem past_redo
    (h : g.IsReplayable limit)
    (hredo : g.redo? = some (e, g')) :
    g'.history.past = e :: g.history.past := by
  obtain ⟨future, hfuture, rfl⟩ := redo?_eq_some hredo
  have hdepth := h.depth
  rw [hfuture, List.length_cons] at hdepth
  refine List.take_of_length_le ?_
  rw [h.limit_eq, List.length_cons]
  omega

theorem put
    {r : Reference} {cell : Option Cell}
    (h : g.IsReplayable limit)
    (hcell : cell ≠ some .blank) :
    (g.put r cell true).IsReplayable limit := by
  rcases g.put_cases r hcell with ⟨-, hput⟩ | ⟨hne, hput⟩
  · rw [hput]
    exact h
  · rw [hput]
    refine ⟨h.limit_eq, ?_, ?_⟩
    · have hpush := History.depth_push_le g.history ⟨r, g.get? r, cell⟩
      rw [h.limit_eq] at hpush
      simpa [History.push] using hpush
    · intro e he
      simp only [History.push, List.append_nil] at he
      rcases List.mem_cons.1 (List.mem_of_mem_take he) with rfl | he
      · refine stores_write_self ?_
        -- Two empty contents would have been equal.
        by_contra hempty
        rw [not_or, not_not, not_not] at hempty
        simp [hempty.1, hempty.2, Cell.equalContents] at hne
      · exact (h.stored e (List.mem_append_left _ he)).write r cell

theorem undo
    (h : g.IsReplayable limit)
    (hundo : g.undo? = some (e, g')) :
    g'.IsReplayable limit := by
  obtain ⟨past, hpast, rfl⟩ := undo?_eq_some hundo
  have hdepth := h.depth
  rw [hpast, List.length_cons] at hdepth
  refine ⟨h.limit_eq, ?_, ?_⟩
  · simp only [List.length_cons]
    omega
  · intro d hd
    refine (h.stored d ?_).write e.position e.before
    rw [hpast]
    simp only [List.mem_append, List.mem_cons] at hd ⊢
    tauto

theorem redo
    (h : g.IsReplayable limit)
    (hredo : g.redo? = some (e, g')) :
    g'.IsReplayable limit := by
  have hpast := h.past_redo hredo
  obtain ⟨future, hfuture, rfl⟩ := redo?_eq_some hredo
  have hdepth := h.depth
  rw [hfuture, List.length_cons] at hdepth
  refine ⟨h.limit_eq, ?_, ?_⟩
  · simp only at hpast
    simp only [hpast, List.length_cons]
    omega
  · intro d hd
    refine (h.stored d ?_).write e.position e.after
    simp only at hpast
    simp only [hpast, List.mem_append, List.mem_cons] at hd
    rw [hfuture]
    simp only [List.mem_append, List.mem_cons]
    tauto

/-- With an empty history there is nothing to take back. -/
theorem of_clear
    (h : g.IsReplayable limit)
    (hhistory : g'.history = g.history.clear) :
    g'.IsReplayable limit := by
  refine ⟨?_, ?_, ?_⟩
  · rw [hhistory]
    exact h.limit_eq
  · rw [hhistory]
    exact Nat.zero_le limit
  · rw [hhistory]
    simp [History.clear, History.empty]

/-- Every change of a grid keeps its edits inside it. -/
theorem change
    (h : g.IsReplayable limit)
    (hchange : g.Change g') :
    g'.IsReplayable limit := by
  cases hchange with
  | same => exact h
  | put hcell => exact h.put (ofInput?_ne_blank hcell)
  | undo hundo => exact h.undo hundo
  | redo hredo => exact h.redo hredo
  | restructure hop =>
      obtain ⟨-, rfl⟩ := Restructuring.grid_eq_ok hop
      exact h.of_clear rfl
  | @sort today col ascending frozen _ hsort =>
      have hcases := sortByColumn?_eq_ok hsort
      split at hcases
      · obtain ⟨sorted, -, rfl⟩ := hcases
        exact h.of_clear rfl
      · rw [hcases]
        exact h

end IsReplayable

end Lemmas

end Grid
end Spreadsheet
