import Spreadsheet.Proofs.Grid.Shift
import Spreadsheet.Proofs.Sheet.Storage

/-!
# Rows and columns of a sheet that come in or go out

A change of structure moves the cells and the styles of the columns in separate
places, by the same rule.  It is made wherever the sheet has the index, and
refused everywhere else.  A line that comes in and goes out again leaves no trace.

Lines that come in have to be filled up, which takes columns that can be counted
out; a least width that is no integer has none.  Nothing else stands in the way
but the number of digits of an index, since the change is logged.

Result: what a change of structure does at every index (`restructure_run`).
-/

namespace Spreadsheet

namespace Restructuring

/-- The change that takes the inserted line away, or puts a line where one was
deleted. -/
def inverse : Restructuring → Restructuring
  | insertRow => deleteRow
  | insertColumn => deleteColumn
  | deleteRow => insertRow
  | deleteColumn => insertColumn

/-- The lines that come in can be filled up, and the index of a column that goes
out can be written. -/
def IsFeasible (op : Restructuring) (s : Sheet) (index : Int) : Prop :=
  match op with
  | insertRow | insertColumn => ∃ n, s.columnCount.count = .ok n
  | deleteRow => True
  | deleteColumn => IsWritable index

end Restructuring

namespace Sheet

/-- In the second sheet every cell, and every column with its width, stands where
a change at an index moves it; a line that came in is empty and as usual. -/
structure Follows (op : Restructuring) (index : Int) (s s' : Sheet) : Prop where
  cells : ∀ col row, s'.cellAt? col row = op.moved index s.cellAt? col row
  width : ∀ col, s'.view.width col
    = ((op.columnBefore? index col).map s.view.width).getD s.view.defaultWidth
  isHidden : ∀ col, s'.view.isHidden col
    = ((op.columnBefore? index col).map s.view.isHidden).getD false
  rowCount : (s'.rowCount : Int) = s.rowCount + op.addedRows
  insertColumn : op = .insertColumn → s.columnCount.add (.int 1) = .ok s'.columnCount
  deleteColumn : op = .deleteColumn → ∃ n, s.columnCount.sub (.int 1) = .ok n
    ∧ s'.columnCount = Number.greatest s.grid.minColumns [n]
  frozenRows : s'.view.frozenRows = s.view.frozenRows
  frozenColumns : s'.view.frozenColumns = s.view.frozenColumns

/-- The second sheet has the rows, the size and the view of the first. -/
structure Restores (s s' : Sheet) : Prop where
  rows : s'.grid.paddedRows = s.grid.paddedRows
  rowCount : s'.rowCount = s.rowCount
  columnCount : s'.columnCount = s.columnCount
  view : s'.view = s.view

/-- A change at an index is made, and one that brings a line in can be taken
back. -/
def Makes (s : Sheet) (op : Restructuring) (index : Int) : Prop :=
  ∃ s' events, s.restructure op index = .ok ⟨true, s', events⟩ ∧ s.Follows op index s'
    ∧ (op.isDeletion = false →
        ∃ s'' events', s'.restructure op.inverse index = .ok ⟨true, s'', events'⟩
          ∧ s.Restores s'')

/-- A change at an index is refused and leaves the sheet as it is, or the index
is too long to be told. -/
def Refuses (s : Sheet) (op : Restructuring) (index : Int) : Prop :=
  (∃ events, s.restructure op index = .ok ⟨false, s, events⟩)
    ∨ ¬ IsWritable index ∧ s.restructure op index = .error .tooManyDigits

end Sheet

section Lemmas

/-! The view. -/

theorem shifted?_one_iff
    {index c d : Int} :
    ColumnStyles.shifted? index 1 c = some d ↔ beforeInsertion? index d = some c := by
  unfold ColumnStyles.shifted? beforeInsertion?
  by_cases hc : c < index <;> by_cases hd : d < index <;> by_cases heq : d = index <;>
    simp [hc, hd, heq] <;> omega

theorem shifted?_neg_one_iff
    {index c d : Int} :
    ColumnStyles.shifted? index (-1) c = some d ↔ some (beforeDeletion index d) = some c := by
  unfold ColumnStyles.shifted? beforeDeletion
  by_cases hc : c < index <;> by_cases hd : d < index <;> simp [hc, hd] <;> omega

namespace Restructuring

variable {op : Restructuring} {index : Int}

/-- The view moves its columns as the grid does. -/
theorem style_view
    (op : Restructuring) (v : View) (index col : Int) :
    (op.view v index).style col
      = ((op.columnBefore? index col).map v.style).getD .usual := by
  cases op with
  | insertRow => rfl
  | insertColumn => exact v.style_shiftColumns fun c => shifted?_one_iff
  | deleteRow => rfl
  | deleteColumn => exact v.style_shiftColumns fun c => shifted?_neg_one_iff

theorem width_view
    (op : Restructuring) (v : View) (index col : Int) :
    (op.view v index).width col
      = ((op.columnBefore? index col).map v.width).getD v.defaultWidth := by
  have hdefault : (op.view v index).defaultWidth = v.defaultWidth := by
    cases op <;> rfl
  rw [View.width, style_view, hdefault]
  cases op.columnBefore? index col <;> rfl

theorem isHidden_view
    (op : Restructuring) (v : View) (index col : Int) :
    (op.view v index).isHidden col
      = ((op.columnBefore? index col).map v.isHidden).getD false := by
  rw [View.isHidden, style_view]
  cases op.columnBefore? index col <;> rfl

theorem frozen_view
    (op : Restructuring) (v : View) (index : Int) :
    (op.view v index).frozenRows = v.frozenRows
      ∧ (op.view v index).frozenColumns = v.frozenColumns := by
  cases op <;> exact ⟨rfl, rfl⟩

end Restructuring

/-! Indices that can be written. -/

theorem isWritable_of_lt_memoryLimit
    {i : Int}
    (hzero : 0 ≤ i)
    (hlt : i < Number.memoryLimit) :
    IsWritable i := by
  have hlimit : IsWritable Number.memoryLimit := by
    unfold IsWritable
    decide +kernel
  exact isWritable_of_le hzero hlt.le hlimit

namespace Sheet

variable {s : Sheet} {op : Restructuring} {index : Int}

/-- The index of a change that is made can be written. -/
theorem isWritable_of_admits
    (hadmits : op.Admits s.grid index)
    (hfeasible : op.IsFeasible s index)
    (hrows : IsWritable s.rowCount) :
    IsWritable index := by
  cases op with
  | insertRow => exact isWritable_of_le hadmits.1 hadmits.2 hrows
  | insertColumn =>
      have hle := Grid.index_le_width hadmits hfeasible
      obtain ⟨n, hn⟩ := hfeasible
      have hlimit := hn
      rw [columnCount, Grid.columnCount_of_count hn] at hlimit
      exact isWritable_of_lt_memoryLimit hadmits.1
        (hle.trans_lt (Number.lt_memoryLimit_of_count hlimit))
  | deleteRow => exact isWritable_of_le hadmits.2.1 hadmits.2.2.le hrows
  | deleteColumn => exact hfeasible

/-- The sheet after a change of structure. -/
def restructured (s : Sheet) (op : Restructuring) (index : Int) : Sheet :=
  { s with
    grid := { s.grid with rows := op.rows s.grid index.toNat, history := s.grid.history.clear }
    view := op.view s.view index
    selection := op.selection s.selection index }

/-- A change that is admitted and can be told of is made. -/
theorem restructure_of_admits
    (hadmits : op.Admits s.grid index)
    (hcount : op.isDeletion = false → ∃ n, s.columnCount.count = .ok n)
    (hindex : IsWritable index) :
    ∃ events, s.restructure op index = .ok ⟨true, s.restructured op index, events⟩ := by
  rw [restructure, Restructuring.grid_of_admits hadmits hcount, integerText, if_pos hindex]
  exact ⟨_, rfl⟩

/-- A change that is not admitted is refused. -/
theorem refuses_of_not_admits
    (h : ¬ op.Admits s.grid index) :
    s.Refuses op index := by
  unfold Refuses
  rw [restructure, Restructuring.grid_of_not_admits h]
  by_cases hindex : IsWritable index
  · left
    simp [rejection, integerText, hindex, bind, Except.bind, pure, Except.pure]
  · right
    refine ⟨hindex, ?_⟩
    simp [rejection, integerText, hindex, bind, Except.bind]

/-- After a change that is made, cells and columns stand where it moves them. -/
theorem follows_restructured
    (hnonempty : s.grid.rows ≠ [])
    (hadmits : op.Admits s.grid index)
    (hcount : op = .insertColumn → ∃ n, s.columnCount.count = .ok n) :
    s.Follows op index (s.restructured op index) where
  cells := Grid.getAt?_of_rows hadmits
    (fun hop => by
      subst hop
      exact Grid.index_le_width hadmits (hcount rfl)) rfl
  width := op.width_view s.view index
  isHidden := op.isHidden_view s.view index
  rowCount := Grid.length_rows hadmits
  insertColumn := by
    rintro rfl
    obtain ⟨n, hn⟩ := hcount rfl
    have hwidth := Grid.columnCount_of_count hn
    have hafter : (s.restructured .insertColumn index).grid.columnCount
        = .int (s.grid.width + 1) :=
      Grid.columnCount_insertColumn (g := s.grid) rfl hnonempty hwidth rfl
    rw [columnCount, columnCount, hwidth, hafter]
    rfl
  deleteColumn := by
    rintro rfl
    exact Grid.columnCount_deleteColumn (g := s.grid) rfl hnonempty hadmits rfl
  frozenRows := (op.frozen_view s.view index).1
  frozenColumns := (op.frozen_view s.view index).2

/-! A line that comes in goes out again. -/

section Inverse

/-- A grid whose columns can be counted out has one. -/
theorem one_le_width
    {g : Grid} {minColumns : Number}
    (hmin : g.minColumns = Grid.leastWidth minColumns)
    (hcount : g.columnCount = .int g.width) :
    1 ≤ g.width := by
  have hleast : (Number.int 1).less g.minColumns = true ∨ g.minColumns = .int 1 := by
    rw [hmin, Grid.leastWidth, Number.greatest_eq]
    split
    · next h => exact .inl h
    · exact .inr rfl
  rcases hleast with hless | hone
  · have hwidth : (Number.int 1).less (.int g.width) = true := by
      rw [← hcount, Grid.columnCount, Number.greatest_eq]
      split
      · next h => exact Number.less_trans hless h
      · exact hless
    rw [Number.less_int, decide_eq_true_eq] at hwidth
    omega
  · simp only [Grid.width, hone]
    omega

/-- The line that came in can be taken away. -/
theorem admits_inverse
    {minColumns : Number}
    (hgrid : s.grid.IsStorable (Grid.leastWidth minColumns))
    (hadmits : op.Admits s.grid index)
    (hcount : s.columnCount = .int s.grid.width)
    (hop : op.isDeletion = false) :
    op.inverse.Admits (s.restructured op index).grid index := by
  cases op with
  | insertRow =>
      obtain ⟨hzero, hle⟩ := hadmits
      have hpos : 0 < s.grid.rowCount := List.length_pos_iff.2 hgrid.normal.rows
      have hrows : (s.restructured .insertRow index).grid.rowCount = s.grid.rowCount + 1 :=
        Grid.length_insertBefore ..
      show 1 < (s.restructured .insertRow index).grid.rowCount ∧ 0 ≤ index
        ∧ index < (s.restructured .insertRow index).grid.rowCount
      omega
  | insertColumn =>
      have hle := hadmits.2
      have hpos := one_le_width hgrid.minColumns hcount
      have hcolumns : (s.restructured .insertColumn index).grid.columnCount
          = .int (s.grid.width + 1) :=
        Grid.columnCount_insertColumn (g := s.grid) rfl hgrid.normal.rows hcount rfl
      rw [show s.grid.columnCount = .int s.grid.width from hcount, Number.less_int,
        decide_eq_false_iff_not] at hle
      refine ⟨?_, hadmits.1, ?_⟩
      · rw [hcolumns, Number.less_int, decide_eq_true_eq]
        omega
      · rw [hcolumns, Number.less_int, decide_eq_true_eq]
        omega
  | deleteRow => cases hop
  | deleteColumn => cases hop

/-- What came in and went out again leaves no trace. -/
theorem restores_inverse
    (hnonempty : s.grid.rows ≠ [])
    (hadmits : op.Admits s.grid index)
    (hcount : s.columnCount = .int s.grid.width)
    (hop : op.isDeletion = false) :
    s.Restores ((s.restructured op index).restructured op.inverse index) := by
  cases op with
  | insertRow =>
      obtain ⟨hzero, hle⟩ := hadmits
      have hrows : ((s.restructured .insertRow index).restructured .deleteRow index).grid.rows
          = s.grid.rows :=
        Grid.eraseIdx_insertBefore (by unfold Grid.rowCount at hle; omega) _
      have hwidth : ((s.restructured .insertRow index).restructured .deleteRow index).grid.width
          = s.grid.width :=
        Grid.width_of_widestRow rfl (by rw [hrows])
      constructor
      case rows => rw [Restructuring.inverse, Grid.paddedRows, Grid.paddedRows, hrows, hwidth]
      case rowCount => exact congrArg List.length hrows
      case columnCount => exact Grid.columnCount_of_width rfl hwidth
      case view => rfl
  | insertColumn =>
      have hle := hadmits.2
      rw [show s.grid.columnCount = .int s.grid.width from hcount, Number.less_int,
        decide_eq_false_iff_not] at hle
      have hrows :
          ((s.restructured .insertColumn index).restructured .deleteColumn index).grid.rows
            = s.grid.paddedRows := by
        show (s.grid.paddedRows.map (Grid.insertBefore index.toNat none)).map
          (fun row => row.eraseIdx index.toNat) = _
        rw [List.map_map]
        refine (List.map_congr_left fun row hrow => ?_).trans (List.map_id _)
        refine Grid.eraseIdx_insertBefore ?_ _
        rw [Grid.length_of_mem_paddedRows hrow]
        omega
      constructor
      case rows => exact Grid.paddedRows_of_rows hnonempty hrows rfl
      case rowCount => simp [Restructuring.inverse, rowCount, Grid.rowCount, hrows, Grid.paddedRows]
      case columnCount => exact Grid.columnCount_of_rows hnonempty hrows rfl
      case view => exact s.view.shiftColumns_shiftColumns index (by decide)
  | deleteRow => cases hop
  | deleteColumn => cases hop

end Inverse

/-- A change that is admitted is made, if nothing but the size stands in the
way. -/
theorem makes_of_admits
    {minColumns : Number}
    (hgrid : s.grid.IsStorable (Grid.leastWidth minColumns))
    (hrows : IsWritable s.rowCount)
    (hadmits : op.Admits s.grid index)
    (hfeasible : op.IsFeasible s index) :
    s.Makes op index := by
  have hindex := isWritable_of_admits hadmits hfeasible hrows
  have hcount : op.isDeletion = false → ∃ n, s.columnCount.count = .ok n := by
    intro hop
    cases op with
    | insertRow => exact hfeasible
    | insertColumn => exact hfeasible
    | deleteRow => cases hop
    | deleteColumn => cases hop
  obtain ⟨events, hevents⟩ := restructure_of_admits hadmits hcount hindex
  have hfollows : s.Follows op index (s.restructured op index) :=
    follows_restructured hgrid.normal.rows hadmits fun hop => hcount (by rw [hop]; rfl)
  refine ⟨s.restructured op index, events, hevents, hfollows, fun hop => ?_⟩
  obtain ⟨n, hn⟩ := hcount hop
  have hwidth : s.columnCount = .int s.grid.width := Grid.columnCount_of_count hn
  have hinverse : op.inverse.isDeletion = true := by
    cases op <;> first | rfl | cases hop
  obtain ⟨events', hevents'⟩ :=
    restructure_of_admits (admits_inverse hgrid hadmits hwidth hop)
      (fun h => by rw [hinverse] at h; cases h) hindex
  exact ⟨_, events', hevents', restores_inverse hgrid.normal.rows hadmits hwidth hop⟩

/-- Whatever was done to a sheet, a change of structure is made where the sheet
has the index, and refused everywhere else. -/
theorem restructure_run
    {settings : Settings} {start : Sheet} {ops : List Operation}
    (hstart : start.IsOpened settings)
    (hrows : IsWritable (Operation.run start ops).rowCount)
    (op : Restructuring) (index : Int) :
    (op.Admits (Operation.run start ops).grid index →
        op.IsFeasible (Operation.run start ops) index →
        (Operation.run start ops).Makes op index)
      ∧ (¬ op.Admits (Operation.run start ops).grid index →
        (Operation.run start ops).Refuses op index) := by
  obtain ⟨d, -, hopen⟩ := hstart.exists_document
  obtain ⟨minColumns, _, _, _, -, -, -, -, hgrid, -⟩ := ofDocument_eq_ok hopen
  have hstorable : start.grid.IsStorable (Grid.leastWidth minColumns) :=
    ⟨Grid.isNormal_ofRows hgrid, Grid.minColumns_ofRows hgrid⟩
  have hend : (Operation.run start ops).grid.IsStorable (Grid.leastWidth minColumns) :=
    Operation.grid_induction (fun _ _ h hchange => h.change hchange) ops start hstorable
  exact ⟨makes_of_admits hend hrows, refuses_of_not_admits⟩

theorem restructure_run_edited :
    ∃ start, create .initial = .ok start
      ∧ IsWritable (Operation.run start [.enter 12 7 "4.5", .undo]).rowCount
      ∧ (Operation.run start [.enter 12 7 "4.5", .undo]).Makes .insertColumn 11
      ∧ (Operation.run start [.enter 12 7 "4.5", .undo]).Refuses .deleteRow 8 := by
  have hsteps : (do
      let start ← create .initial
      let s := Operation.run start [.enter 12 7 "4.5", .undo]
      let _ ← s.columnCount.count
      return decide (IsWritable s.rowCount) && !s.grid.columnCount.less (.int 11)
        && decide (s.grid.rowCount = 8)) = Except.ok true := by
    decide +kernel
  obtain ⟨start, hstart, hsteps⟩ := bind_eq_ok_iff.1 hsteps
  obtain ⟨n, hn, hsteps⟩ := bind_eq_ok_iff.1 hsteps
  have hsteps := Except.ok.inj hsteps
  rw [Bool.and_eq_true, Bool.and_eq_true, decide_eq_true_eq, decide_eq_true_eq,
    Bool.not_eq_true'] at hsteps
  obtain ⟨⟨hrows, hcolumns⟩, hcount⟩ := hsteps
  have hrefused : ¬ Restructuring.deleteRow.Admits
      (Operation.run start [.enter 12 7 "4.5", .undo]).grid 8 := by
    simp [Restructuring.Admits, hcount]
  exact ⟨start, hstart, hrows,
    (restructure_run (.fresh hstart) hrows .insertColumn 11).1 ⟨by decide, hcolumns⟩ ⟨n, hn⟩,
    (restructure_run (.fresh hstart) hrows .deleteRow 8).2 hrefused⟩

/-- Settings that ask for ten and a half columns. -/
def fractionalSettings : Settings :=
  Settings.initial.overlay
    [("min_columns", .number (.float (Numeral.toBinary64 ⟨false, ['1', '0'], some ['5'], none⟩)))]

/-- Where the columns cannot be counted out, no row comes in at an index that the
sheet has. -/
theorem restructure_of_fractional_columns :
    ∃ s : Sheet, s.IsOpened fractionalSettings
      ∧ Restructuring.insertRow.Admits s.grid 0
      ∧ s.restructure .insertRow 0 = .error .wrongType := by
  have hsteps : (do
      let d ← Document.blank 1 1 1 0
      let s ← ofDocument fractionalSettings d
      return decide ((s.restructure .insertRow 0 >>= fun _ => .ok ()) = .error .wrongType))
        = Except.ok true := by
    decide +kernel
  obtain ⟨d, hd, hsteps⟩ := bind_eq_ok_iff.1 hsteps
  obtain ⟨s, hs, hsteps⟩ := bind_eq_ok_iff.1 hsteps
  have hfails := of_decide_eq_true (Except.ok.inj hsteps)
  refine ⟨s, .given (.blank hd) hs, ⟨by decide, Int.natCast_nonneg _⟩, ?_⟩
  cases houtcome : s.restructure .insertRow 0 with
  | ok outcome =>
      rw [houtcome] at hfails
      cases hfails
  | error fault =>
      rw [houtcome] at hfails
      exact congrArg Except.error (Except.error.inj hfails)

end Sheet

end Lemmas

end Spreadsheet
