import Spreadsheet.Proofs.Document.RoundTrip
import Spreadsheet.Proofs.Grid.Alike

/-!
# Stored sheets come back

A sheet that was opened with some settings and then changed in any way is stored
as a text.  Opened with the same settings, the text shows the same sheet.

Nothing that can be done to a sheet changes the least width of its grid or the
usual widths of its view, makes a frozen count negative, or puts the styles of
its columns out of order.

Results: every change of a grid or a view keeps it storable
(`IsStorable.change`), and a stored sheet is opened as it was
(`ofDocument_of_write`).
-/

namespace Spreadsheet

/-- A document that was read, or one of empty positions, as the initial one is. -/
inductive Document.IsGiven : Document → Prop
  | blank
      {rows columns frozenRows frozenColumns : Int} {d : Document}
      (h : Document.blank rows columns frozenRows frozenColumns = .ok d) :
      IsGiven d
  | ofRecord
      {value : Json} {d : Document}
      (h : Document.ofRecord value = .ok d) :
      IsGiven d

/-- The sheet is new or comes from a document. -/
inductive Sheet.IsOpened (settings : Settings) : Sheet → Prop
  | fresh
      {s : Sheet}
      (h : Sheet.create settings = .ok s) :
      IsOpened settings s
  | given
      {d : Document} {s : Sheet}
      (hd : d.IsGiven)
      (h : Sheet.ofDocument settings d = .ok s) :
      IsOpened settings s

/-- The document that the sheet is stored as. -/
def Sheet.document (s : Sheet) : Document where
  rows := s.grid.paddedRows
  frozenRows := s.view.frozenRows.toNat
  frozenColumns := s.view.frozenColumns.toNat
  styles := s.view.styles

/-- The first sheet has the cells of the second, position by position, and
presents them alike. -/
structure Sheet.IsLike (s' s : Sheet) : Prop where
  rows : s'.grid.paddedRows = s.grid.paddedRows
  rowCount : s'.rowCount = s.rowCount
  columnCount : s'.columnCount = s.columnCount
  frozenRows : s'.view.frozenRows = s.view.frozenRows
  frozenColumns : s'.view.frozenColumns = s.view.frozenColumns
  width : ∀ col, s'.view.width col = s.view.width col
  isHidden : ∀ col, s'.view.isHidden col = s.view.isHidden col

/-- A grid above a least width that is stored without loss. -/
structure Grid.IsStorable (least : Number) (g : Grid) : Prop where
  normal : g.IsNormal
  minColumns : g.minColumns = least

/-- A view of some usual widths that is stored without loss. -/
structure View.IsStorable (defaultWidth minWidth : Int) (v : View) : Prop where
  frozenRows : 0 ≤ v.frozenRows
  frozenColumns : 0 ≤ v.frozenColumns
  styles : v.styles.IsSorted
  defaultWidth : v.defaultWidth = defaultWidth
  minWidth : v.minWidth = minWidth

section Lemmas

namespace Grid

variable {g g' : Grid}

theorem minColumns_put
    (g : Grid) (r : Reference) (cell : Option Cell) (record : Bool) :
    (g.put r cell record).minColumns = g.minColumns := by
  unfold put
  dsimp only
  split
  · rfl
  · split <;> exact minColumns_write g r _

theorem minColumns_of_change
    (h : g.Change g') :
    g'.minColumns = g.minColumns := by
  cases h with
  | same => rfl
  | put => exact minColumns_put ..
  | undo hundo =>
      obtain ⟨past, -, rfl⟩ := undo?_eq_some hundo
      exact minColumns_write ..
  | redo hredo =>
      obtain ⟨future, -, rfl⟩ := redo?_eq_some hredo
      exact minColumns_write ..
  | restructure hop => rw [(Restructuring.grid_eq_ok hop).2]
  | sort hsort => exact (perm_rows_of_sort hsort).2.1

/-- Every change of a grid keeps it storable. -/
theorem IsStorable.change
    {least : Number}
    (h : g.IsStorable least)
    (hchange : g.Change g') :
    g'.IsStorable least :=
  ⟨h.normal.change hchange, (minColumns_of_change hchange).trans h.minColumns⟩

/-- What once made a grid of some rows makes one of any stored rows. -/
theorem exists_ofRows
    {rows : List Row} {minColumns : Number} {undoLimit : Int} {first : Grid}
    (hfirst : ofRows rows minColumns undoLimit = .ok first)
    (h : g.IsNormal) :
    ∃ g', ofRows g.paddedRows minColumns undoLimit = .ok g' ∧ g'.rows = g.paddedRows := by
  obtain ⟨_, -, hhistory, -⟩ := ofRows_eq_ok hfirst
  have hnonempty : g.paddedRows.isEmpty = false := by
    rw [List.isEmpty_eq_false_iff]
    simpa [paddedRows] using h.rows
  have hcells : (g.paddedRows.map fun row => row.map Cell.unlessBlank) = g.paddedRows := by
    refine (List.map_congr_left fun row hrow => ?_).trans (List.map_id _)
    refine (List.map_congr_left fun cell hcell => ?_).trans (List.map_id _)
    obtain ⟨short, hshort, rfl⟩ := List.mem_map.1 hrow
    exact unlessBlank_of_ne ((h.cells short hshort).padded g.width cell hcell)
  have hsome : someRows (leastWidth minColumns) g.paddedRows = .ok g.paddedRows := by
    rw [someRows, hnonempty, hcells]
    rfl
  refine ⟨⟨leastWidth minColumns, g.paddedRows, first.history⟩, ?_, rfl⟩
  simp only [ofRows, hsome, hhistory]
  rfl

theorem minColumns_ofRows
    {rows : List Row} {minColumns : Number} {undoLimit : Int}
    (h : ofRows rows minColumns undoLimit = .ok g) :
    g.minColumns = leastWidth minColumns := by
  obtain ⟨filled, -, -, rfl⟩ := ofRows_eq_ok h
  rfl

end Grid

namespace View

variable {v v' : View} {defaultWidth minWidth : Int}

theorem resizeColumn_eq_ok
    {col given : Int} {width : Number}
    (h : v.resizeColumn col width = .ok (given, v')) :
    ∃ asked, width.truncate = .ok asked ∧ given = max v.minWidth asked
      ∧ v' = v.setStyle col { v.style col with width := some given } := by
  obtain ⟨asked, hasked, h⟩ := bind_eq_ok_iff.1 h
  dsimp only at h
  split at h
  · simp [bind, Except.bind, throw, throwThe, MonadExceptOf.throw] at h
  · obtain ⟨rfl, rfl⟩ := Prod.mk.inj (Except.ok.inj h)
    exact ⟨asked, hasked, rfl, rfl⟩

theorem setHidden_eq_ok
    {col : Int} {hidden : Bool}
    (h : v.setHidden col hidden = .ok v') :
    v' = (v.setStyle col { v.style col with hidden := hidden }).prune col := by
  unfold View.setHidden at h
  split at h
  · cases h
  · exact (Except.ok.inj h).symm

theorem frozenCount_nonneg
    {count : Number} {i : Int}
    (h : frozenCount count = .ok i) :
    0 ≤ i := by
  obtain ⟨truncated, -, h⟩ := bind_eq_ok_iff.1 h
  obtain rfl := Except.ok.inj h
  omega

namespace IsStorable

/-- Only the styles have changed. -/
theorem withStyles
    {styles : ColumnStyles}
    (h : v.IsStorable defaultWidth minWidth)
    (hstyles : styles.IsSorted) :
    IsStorable defaultWidth minWidth { v with styles := styles } :=
  ⟨h.frozenRows, h.frozenColumns, hstyles, h.defaultWidth, h.minWidth⟩

theorem setStyle
    (h : v.IsStorable defaultWidth minWidth)
    (col : Int) (style : ColumnStyle) :
    (v.setStyle col style).IsStorable defaultWidth minWidth :=
  h.withStyles (ColumnStyles.isSorted_insertStyle h.styles col style)

theorem prune
    (h : v.IsStorable defaultWidth minWidth)
    (col : Int) :
    (v.prune col).IsStorable defaultWidth minWidth := by
  unfold View.prune
  split
  · exact h.withStyles (ColumnStyles.isSorted_erase h.styles col)
  · exact h

/-- Every change of a view keeps it storable. -/
theorem change
    (h : v.IsStorable defaultWidth minWidth)
    (hchange : v.Change v') :
    v'.IsStorable defaultWidth minWidth := by
  cases hchange with
  | same => exact h
  | resize hresize =>
      obtain ⟨asked, -, -, rfl⟩ := resizeColumn_eq_ok hresize
      exact h.setStyle _ _
  | hide hhide =>
      rw [setHidden_eq_ok hhide]
      exact (h.setStyle _ _).prune _
  | freezeRows hfreeze =>
      obtain ⟨count, hcount, hfreeze⟩ := bind_eq_ok_iff.1 hfreeze
      obtain rfl := Except.ok.inj hfreeze
      exact { h with frozenRows := frozenCount_nonneg hcount }
  | freezeColumns hfreeze =>
      obtain ⟨count, hcount, hfreeze⟩ := bind_eq_ok_iff.1 hfreeze
      obtain rfl := Except.ok.inj hfreeze
      exact { h with frozenColumns := frozenCount_nonneg hcount }
  | shift index count => exact h.withStyles (ColumnStyles.isSorted_shift h.styles index count)

end IsStorable

end View

namespace Document

theorem isStorable_view
    {d : Document}
    (h : d.styles.IsSorted)
    (defaultWidth minWidth : Int) :
    (d.view defaultWidth minWidth).IsStorable defaultWidth minWidth :=
  ⟨Int.natCast_nonneg _, Int.natCast_nonneg _, h, rfl, rfl⟩

theorem isSorted_ofFields?
    {fields : Json.Fields} {d : Document}
    (h : ofFields? fields = some d) :
    d.styles.IsSorted := by
  obtain ⟨-, -, -, hstyles⟩ := ofFields?_eq_some h
  unfold stylesField? at hstyles
  split at hstyles
  · rw [← Option.some.inj hstyles]
    exact List.Pairwise.nil
  · obtain ⟨entries, -, hentries⟩ := Option.map_eq_some_iff.1 hstyles
    rw [← hentries]
    exact ColumnStyles.isSorted_ofEntries entries
  · simp at hstyles

theorem isSorted_ofRecord
    {value : Json} {d : Document}
    (h : ofRecord value = .ok d) :
    d.styles.IsSorted := by
  obtain ⟨fields, -, hfields⟩ := ofRecord_eq_ok h
  exact isSorted_ofFields? hfields

theorem IsGiven.isSorted
    {d : Document}
    (h : d.IsGiven) :
    d.styles.IsSorted := by
  cases h with
  | blank hd =>
      unfold Document.blank at hd
      split at hd
      · simp at hd
      · obtain rfl := Except.ok.inj hd
        exact List.Pairwise.nil
  | ofRecord hd => exact isSorted_ofRecord hd

end Document

namespace Sheet

variable {settings : Settings}

theorem ofDocument_eq_ok
    {d : Document} {s : Sheet}
    (h : ofDocument settings d = .ok s) :
    ∃ minColumns undoLimit columnWidth minColumnWidth,
      settings.minColumns = .ok minColumns ∧ settings.undoLimit = .ok undoLimit
        ∧ settings.columnWidth = .ok columnWidth ∧ settings.minColumnWidth = .ok minColumnWidth
        ∧ d.grid minColumns undoLimit = .ok s.grid
        ∧ s.view = d.view columnWidth minColumnWidth := by
  obtain ⟨minColumns, hcolumns, h⟩ := bind_eq_ok_iff.1 h
  obtain ⟨undoLimit, hlimit, h⟩ := bind_eq_ok_iff.1 h
  obtain ⟨grid, hgrid, h⟩ := bind_eq_ok_iff.1 h
  obtain ⟨columnWidth, hwidth, h⟩ := bind_eq_ok_iff.1 h
  obtain ⟨minColumnWidth, hminWidth, h⟩ := bind_eq_ok_iff.1 h
  obtain rfl := Except.ok.inj h
  exact ⟨_, _, _, _, hcolumns, hlimit, hwidth, hminWidth, hgrid, rfl⟩

theorem settings_ofDocument
    {d : Document} {s : Sheet}
    (h : ofDocument settings d = .ok s) :
    s.settings = settings := by
  obtain ⟨_, -, h⟩ := bind_eq_ok_iff.1 h
  obtain ⟨_, -, h⟩ := bind_eq_ok_iff.1 h
  obtain ⟨_, -, h⟩ := bind_eq_ok_iff.1 h
  obtain ⟨_, -, h⟩ := bind_eq_ok_iff.1 h
  obtain ⟨_, -, h⟩ := bind_eq_ok_iff.1 h
  obtain rfl := Except.ok.inj h
  rfl

/-- A new sheet comes from a document of empty positions. -/
theorem IsOpened.exists_document
    {s : Sheet}
    (h : s.IsOpened settings) :
    ∃ d : Document, d.IsGiven ∧ ofDocument settings d = .ok s := by
  cases h with
  | given hd h => exact ⟨_, hd, h⟩
  | fresh h =>
      obtain ⟨_, -, h⟩ := bind_eq_ok_iff.1 h
      obtain ⟨_, -, h⟩ := bind_eq_ok_iff.1 h
      obtain ⟨_, -, h⟩ := bind_eq_ok_iff.1 h
      obtain ⟨_, -, h⟩ := bind_eq_ok_iff.1 h
      obtain ⟨_, -, h⟩ := bind_eq_ok_iff.1 h
      obtain ⟨d, hd, h⟩ := bind_eq_ok_iff.1 h
      exact ⟨d, .blank hd, h⟩

/-- Whatever is done to a sheet keeps its grid and its view storable. -/
theorem isStorable_run
    {start : Sheet} {least : Number} {defaultWidth minWidth : Int}
    (hgrid : start.grid.IsStorable least)
    (hview : start.view.IsStorable defaultWidth minWidth)
    (ops : List Operation) :
    (Operation.run start ops).grid.IsStorable least
      ∧ (Operation.run start ops).view.IsStorable defaultWidth minWidth :=
  Operation.run_induction
    (fun _ _ hg hchange => hg.change hchange)
    (fun _ _ hv hchange => hv.change hchange)
    ops start hgrid hview

theorem isNormal_run
    {start : Sheet}
    (hstart : start.IsOpened settings)
    (ops : List Operation) :
    (Operation.run start ops).grid.IsNormal := by
  obtain ⟨d, -, hopen⟩ := hstart.exists_document
  obtain ⟨_, _, _, _, -, -, -, -, hgrid, -⟩ := ofDocument_eq_ok hopen
  exact Operation.grid_induction (fun _ _ h hchange => h.change hchange) ops start
    (Grid.isNormal_ofRows hgrid)

/-- The stored text of a sheet is read as the document that it stores. -/
theorem parse_of_write
    {start : Sheet} {ops : List Operation} {text : String}
    (hstart : start.IsOpened settings)
    (h : (Operation.run start ops).write = .ok text) :
    Document.parse text = .ok (Operation.run start ops).document := by
  obtain ⟨d, hgiven, hopen⟩ := hstart.exists_document
  obtain ⟨_, _, columnWidth, minColumnWidth, -, -, -, -, hgrid, hview⟩ := ofDocument_eq_ok hopen
  have hviewStart : start.view.IsStorable columnWidth minColumnWidth := by
    rw [hview]
    exact Document.isStorable_view hgiven.isSorted columnWidth minColumnWidth
  obtain ⟨-, hviewEnd⟩ :=
    isStorable_run ⟨Grid.isNormal_ofRows hgrid, Grid.minColumns_ofRows hgrid⟩ hviewStart ops
  exact Document.parse_of_write hviewEnd.frozenRows hviewEnd.frozenColumns hviewEnd.styles h

/-- What is opened from a stored text has the settings and the view of the sheet,
and its rows filled up. -/
theorem exists_opened_of_write
    {start : Sheet} {ops : List Operation} {text : String}
    (hstart : start.IsOpened settings)
    (h : (Operation.run start ops).write = .ok text) :
    ∃ d s, Document.parse text = .ok d ∧ ofDocument settings d = .ok s
      ∧ s.settings = (Operation.run start ops).settings
      ∧ s.grid.rows = (Operation.run start ops).grid.paddedRows
      ∧ s.grid.minColumns = (Operation.run start ops).grid.minColumns
      ∧ s.view = (Operation.run start ops).view := by
  obtain ⟨d, hgiven, hopen⟩ := hstart.exists_document
  have hsettings : (Operation.run start ops).settings = settings := by
    rw [Operation.settings_run, settings_ofDocument hopen]
  obtain ⟨minColumns, undoLimit, columnWidth, minColumnWidth,
    hcolumns, hlimit, hwidth, hminWidth, hgrid, hview⟩ := ofDocument_eq_ok hopen
  have hgridStart : start.grid.IsStorable (Grid.leastWidth minColumns) :=
    ⟨Grid.isNormal_ofRows hgrid, Grid.minColumns_ofRows hgrid⟩
  have hviewStart : start.view.IsStorable columnWidth minColumnWidth := by
    rw [hview]
    exact Document.isStorable_view hgiven.isSorted columnWidth minColumnWidth
  obtain ⟨hgridEnd, hviewEnd⟩ := isStorable_run hgridStart hviewStart ops
  generalize Operation.run start ops = s at h hsettings hgridEnd hviewEnd ⊢
  have hread := Document.parse_of_write hviewEnd.frozenRows hviewEnd.frozenColumns
    hviewEnd.styles h
  -- What made a grid of the first document makes one of the stored rows too.
  obtain ⟨g, hg, hrows⟩ := Grid.exists_ofRows hgrid hgridEnd.normal
  have hmin : g.minColumns = s.grid.minColumns :=
    (Grid.minColumns_ofRows hg).trans hgridEnd.minColumns.symm
  refine ⟨_, ⟨settings, g, View.mk s.view.styles s.view.frozenRows.toNat
    s.view.frozenColumns.toNat columnWidth minColumnWidth, none⟩, hread, ?_, hsettings.symm, hrows,
    hmin, ?_⟩
  · simp only [ofDocument, Document.grid, hcolumns, hlimit, hwidth, hminWidth]
    rw [bind_of_eq_ok rfl, bind_of_eq_ok rfl, hg]
    rfl
  · simp only [Int.toNat_of_nonneg hviewEnd.frozenRows, Int.toNat_of_nonneg hviewEnd.frozenColumns,
      ← hviewEnd.defaultWidth, ← hviewEnd.minWidth]

/-- Whatever was done to a sheet, its stored text opens as a sheet like it. -/
theorem ofDocument_of_write
    {start : Sheet} {ops : List Operation} {text : String}
    (hstart : start.IsOpened settings)
    (h : (Operation.run start ops).write = .ok text) :
    ∃ d s, Document.parse text = .ok d ∧ ofDocument settings d = .ok s
      ∧ s.IsLike (Operation.run start ops) := by
  have hnonempty := (isNormal_run hstart ops).rows
  obtain ⟨d, s, hread, hopen, -, hrows, hmin, hview⟩ := exists_opened_of_write hstart h
  refine ⟨d, s, hread, hopen, ?_⟩
  constructor
  case rows => exact Grid.paddedRows_of_rows hnonempty hrows hmin
  case rowCount => simp [rowCount, Grid.rowCount, hrows, Grid.paddedRows]
  case columnCount => exact Grid.columnCount_of_rows hnonempty hrows hmin
  case frozenRows => rw [hview]
  case frozenColumns => rw [hview]
  case width => exact fun col => by rw [hview]
  case isHidden => exact fun col => by rw [hview]

theorem ofDocument_of_write_edited :
    ∃ start text, create .initial = .ok start
      ∧ (Operation.run start
          [.enter 0 0 "4.5", .enter 1 0 "=A1", .enter 1 1 "x", .undo,
            .resizeColumn 1 (.int 60)]).write = .ok text
      ∧ ∃ d s, Document.parse text = .ok d ∧ ofDocument .initial d = .ok s
        ∧ s.IsLike (Operation.run start
            [.enter 0 0 "4.5", .enter 1 0 "=A1", .enter 1 1 "x", .undo,
              .resizeColumn 1 (.int 60)]) := by
  have hstored : (create .initial >>= fun start =>
      (Operation.run start [.enter 0 0 "4.5", .enter 1 0 "=A1", .enter 1 1 "x", .undo,
        .resizeColumn 1 (.int 60)]).write).isOk = true := by
    decide +kernel
  obtain ⟨text, htext⟩ := exists_eq_ok hstored
  obtain ⟨start, hstart, hwrite⟩ := bind_eq_ok_iff.1 htext
  exact ⟨start, text, hstart, hwrite, ofDocument_of_write (.fresh hstart) hwrite⟩

end Sheet

end Lemmas

end Spreadsheet
