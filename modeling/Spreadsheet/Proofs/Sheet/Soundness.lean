import Spreadsheet.Proofs.Grid.Replay
import Spreadsheet.Proofs.Number.Order
import Spreadsheet.Proofs.Sheet.Storage

/-!
# What holds of every sheet

Three properties of a grid that nothing done to a sheet breaks make up what a
user may rely on: the normal form with the least width, and that every recorded
edit can be replayed.  A grid made of rows has them all.

Result: a sheet that was opened and then changed in any way is sound
(`isSound_run`).
-/

namespace Spreadsheet

/-- The two grids have as many rows and columns, and rows of the same lengths. -/
structure Grid.SameEdges (g' g : Grid) : Prop where
  rowCount : g'.rowCount = g.rowCount
  columnCount : g'.columnCount = g.columnCount
  rowLengths : g'.rowLengths = g.rowLengths

/-- The grid is as large as it has to be and stores no empty value, and its
history is no longer than the limit and concerns stored positions only. -/
structure Grid.IsSound (minColumns : Number) (undoLimit : Int) (g : Grid) : Prop where
  rowCount : 1 ≤ g.rowCount
  columnCount : g.columnCount.AtLeast (Number.greatest (.int 1) [minColumns])
  cells : ∀ row ∈ g.rows, ∀ cell, some cell ∈ row → cell.value? ≠ none
  depth : (g.history.past.length : Int) + g.history.future.length ≤ undoLimit
  stored : ∀ e ∈ g.history.past ++ g.history.future, g.Stores e.position
  undo : ∀ e g', g.undo? = some (e, g') → g'.SameEdges g
  redo : ∀ e g', g.redo? = some (e, g') →
    g'.SameEdges g ∧ g'.history.past = e :: g.history.past

section Lemmas

namespace Grid

variable {g g' : Grid} {e : Edit} {limit : Nat}

theorem sameEdges_of_rowLengths
    (hmin : g'.minColumns = g.minColumns)
    (h : g'.rowLengths = g.rowLengths) :
    g'.SameEdges g where
  rowCount := by rw [rowCount_eq_length_rowLengths, rowCount_eq_length_rowLengths, h]
  columnCount := columnCount_of_rowLengths hmin h
  rowLengths := h

theorem isReplayable_ofRows
    {rows : List Row} {minColumns : Number} {undoLimit : Int}
    (h : ofRows rows minColumns undoLimit = .ok g) :
    g.IsReplayable undoLimit.toNat := by
  have hhistory := history_ofRows h
  constructor
  case limit_eq => rw [hhistory]; rfl
  case depth => rw [hhistory]; exact Nat.zero_le _
  case stored => simp [hhistory, History.empty]

/-- The width of the grid has a place on the line, whatever was asked for. -/
theorem atLeast_columnCount
    {minColumns : Number}
    (h : g.minColumns = leastWidth minColumns) :
    g.columnCount.AtLeast (Number.greatest (.int 1) [minColumns]) := by
  rw [columnCount, h]
  exact Number.atLeast_greatest (Number.isSome_place?_greatest rfl minColumns) _

/-- A storable grid whose edits can be replayed is sound. -/
theorem IsReplayable.isSound
    {minColumns : Number} {undoLimit : Int}
    (h : g.IsReplayable undoLimit.toNat)
    (hlimit : 1 ≤ undoLimit)
    (hgrid : g.IsStorable (leastWidth minColumns)) :
    g.IsSound minColumns undoLimit where
  rowCount := List.length_pos_iff.2 hgrid.normal.rows
  columnCount := atLeast_columnCount hgrid.minColumns
  cells := by
    intro row hrow cell hcell hnull
    rw [Cell.value?_eq_none_iff] at hnull
    exact hgrid.normal.cells row hrow (some cell) hcell (congrArg some hnull)
  depth := by
    have := h.depth
    omega
  stored := h.stored
  undo := by
    intro e g' hundo
    exact sameEdges_of_rowLengths (minColumns_of_change (.undo hundo)) (h.rowLengths_undo hundo)
  redo := by
    intro e g' hredo
    exact ⟨sameEdges_of_rowLengths (minColumns_of_change (.redo hredo))
      (h.rowLengths_redo hredo), h.past_redo hredo⟩

end Grid

namespace Sheet

/-- Whatever was done to a sheet, it has its least size and stores no empty
value, and its edits can be taken back and made again in place. -/
theorem isSound_run
    {settings : Settings} {start : Sheet}
    (hstart : start.IsOpened settings)
    (ops : List Operation) :
    ∃ minColumns undoLimit,
      settings.minColumns = .ok minColumns ∧ settings.undoLimit = .ok undoLimit
        ∧ (Operation.run start ops).grid.IsSound minColumns undoLimit := by
  obtain ⟨d, -, hopen⟩ := hstart.exists_document
  obtain ⟨minColumns, undoLimit, _, _, hcolumns, hlimit, -, -, hgrid, -⟩ := ofDocument_eq_ok hopen
  obtain ⟨_, -, hhistory, -⟩ := Grid.ofRows_eq_ok hgrid
  have hstorable : start.grid.IsStorable (Grid.leastWidth minColumns) :=
    ⟨Grid.isNormal_ofRows hgrid, Grid.minColumns_ofRows hgrid⟩
  have hstorableEnd : (Operation.run start ops).grid.IsStorable (Grid.leastWidth minColumns) :=
    Operation.grid_induction (fun _ _ h hchange => h.change hchange) ops start hstorable
  have hreplayableEnd : (Operation.run start ops).grid.IsReplayable undoLimit.toNat :=
    Operation.grid_induction (fun _ _ h hchange => h.change hchange) ops start
      (Grid.isReplayable_ofRows hgrid)
  exact ⟨minColumns, undoLimit, hcolumns, hlimit,
    hreplayableEnd.isSound (History.ofLimit_eq_ok hhistory).1 hstorableEnd⟩

theorem isSound_run_edited :
    ∃ start, create .initial = .ok start
      ∧ ∃ minColumns undoLimit,
        Settings.initial.minColumns = .ok minColumns ∧ Settings.initial.undoLimit = .ok undoLimit
          ∧ (Operation.run start
              [.enter 12 7 "4.5", .enter 0 0 "=A1", .undo, .undo, .redo]).grid.IsSound
            minColumns undoLimit := by
  have hcreated : (create .initial).isOk = true := by
    decide +kernel
  obtain ⟨start, hstart⟩ := exists_eq_ok hcreated
  exact ⟨start, hstart, isSound_run (.fresh hstart)
    [.enter 12 7 "4.5", .enter 0 0 "=A1", .undo, .undo, .redo]⟩

end Sheet

end Lemmas

end Spreadsheet
