import Spreadsheet.Proofs.Sheet.Restructuring

/-!
# Why a deletion was refused

A deletion is refused if the index names the only row or column, or if the sheet has
none with it.  The reason that is logged is not found by asking that again: it is put
down to the last row or column wherever the sheet has only one of either, in the
direction of the deletion or across it.

So the reason is right for the only row or column, and for an index outside it is right
exactly if the sheet has several rows and several columns.

Results: what a refusal logs (`eq_of_refused`), which reason it gives for an index
(`reason_run`), and a row outside a single column that is put down to the last row
(`reason_of_single_column`).
-/

namespace Spreadsheet

namespace Restructuring

/-- The index names the row or column that is the only one of the sheet. -/
def NamesOnly (op : Restructuring) (s : Sheet) (index : Int) : Prop :=
  match op with
  | insertRow | deleteRow => s.rowCount = 1 ∧ index = 0
  | insertColumn | deleteColumn => s.columnCount = .int 1 ∧ index = 0

/-- The sheet has no row or column with the index. -/
def LiesOutside (op : Restructuring) (s : Sheet) (index : Int) : Prop :=
  match op with
  | insertRow | deleteRow => index < 0 ∨ (s.rowCount : Int) ≤ index
  | insertColumn | deleteColumn => index < 0 ∨ (Number.int index).less s.columnCount = false

end Restructuring

/-- The sheet has more than one row and more than one column. -/
def Sheet.HasSeveral (s : Sheet) : Prop :=
  1 < s.rowCount ∧ (Number.int 1).less s.columnCount = true

instance (s : Sheet) : Decidable s.HasSeveral :=
  inferInstanceAs (Decidable (_ ∧ _))

section Lemmas

namespace Grid

/-- A grid without a second column has the first. -/
theorem columnCount_of_not_less
    {g : Grid} {minColumns : Number}
    (hmin : g.minColumns = leastWidth minColumns)
    (h : (Number.int 1).less g.columnCount = false) :
    g.columnCount = .int 1 := by
  rw [columnCount, hmin, leastWidth, Number.greatest_eq, Number.greatest_eq] at h ⊢
  cases hleast : (Number.int 1).less minColumns with
  | false =>
      simp only [hleast, Bool.false_eq_true, if_false] at h ⊢
      split
      · next hwide => simp [hwide] at h
      · rfl
  | true =>
      simp only [hleast, if_true] at h
      split at h
      · next hwide => simp [Number.less_trans hleast hwide] at h
      · simp [hleast] at h

end Grid

namespace Sheet

variable {s : Sheet} {op : Restructuring} {index : Int}

/-- A deletion that is refused was not admitted, leaves the sheet and logs its reason. -/
theorem eq_of_refused
    {o : Outcome Bool}
    (hop : op.isDeletion = true)
    (h : s.restructure op index = .ok o)
    (hrefused : o.result = false) :
    ¬ op.Admits s.grid index ∧ o.sheet = s
      ∧ ∃ e, o.events = [e] ∧ e.level = .warning ∧ e.kind = .structuralEditRejected
        ∧ e.code = some (s.refusalCode op) := by
  obtain ⟨grid, hgrid, h⟩ := bind_eq_ok_iff.1 h
  cases grid with
  | some grid =>
      obtain ⟨text, -, h⟩ := bind_eq_ok_iff.1 h
      obtain rfl := Except.ok.inj h
      cases hrefused
  | none =>
      obtain ⟨e, he, h⟩ := bind_eq_ok_iff.1 h
      obtain ⟨text, -, he⟩ := bind_eq_ok_iff.1 he
      obtain rfl := Except.ok.inj he
      obtain rfl := Except.ok.inj h
      refine ⟨fun hadmits => ?_, rfl, _, rfl, rfl, rfl, rfl⟩
      rw [Restructuring.grid_of_admits hadmits fun hinsertion => by simp [hop] at hinsertion]
        at hgrid
      cases hgrid

/-- The reason looks at the size of the sheet only. -/
theorem refusalCode_of_isDeletion
    (hop : op.isDeletion = true) :
    s.refusalCode op = if s.HasSeveral then indexOutOfRange else lastRowOrColumn := by
  unfold refusalCode
  by_cases hseveral : s.HasSeveral
  · obtain ⟨hrows, hcolumns⟩ := hseveral
    simp [HasSeveral, hop, hrows, hcolumns, Nat.not_le.2 hrows]
  · have hsingle : s.rowCount ≤ 1 ∨ (Number.int 1).less s.columnCount = false := by
      rwa [HasSeveral, not_and_or, Nat.not_lt, Bool.not_eq_true] at hseveral
    rw [if_neg hseveral, if_pos]
    simpa [hop] using hsingle

/-- An index that is refused names the only row or column, or none at all. -/
theorem namesOnly_or_liesOutside
    {minColumns : Number}
    (hgrid : s.grid.IsStorable (Grid.leastWidth minColumns))
    (hop : op.isDeletion = true)
    (h : ¬ op.Admits s.grid index) :
    op.NamesOnly s index ∨ op.LiesOutside s index := by
  cases op with
  | insertRow => cases hop
  | insertColumn => cases hop
  | deleteRow =>
      have hpos : 0 < s.grid.rowCount := List.length_pos_iff.2 hgrid.normal.rows
      simp only [Restructuring.Admits] at h
      show s.grid.rowCount = 1 ∧ index = 0 ∨ index < 0 ∨ (s.grid.rowCount : Int) ≤ index
      omega
  | deleteColumn =>
      show s.grid.columnCount = .int 1 ∧ index = 0
        ∨ index < 0 ∨ (Number.int index).less s.grid.columnCount = false
      cases hseveral : (Number.int 1).less s.grid.columnCount with
      | true =>
          right
          by_contra hinside
          rw [not_or, Int.not_lt, Bool.not_eq_false] at hinside
          exact h ⟨hseveral, hinside⟩
      | false =>
          have hone := Grid.columnCount_of_not_less hgrid.minColumns hseveral
          rw [hone, Number.less_int, decide_eq_false_iff_not]
          by_cases hzero : index = 0
          · exact .inl ⟨rfl, hzero⟩
          · right
            omega

/-- The only row or column leaves no others in its direction. -/
theorem not_hasSeveral_of_namesOnly
    (h : op.NamesOnly s index) :
    ¬ s.HasSeveral := by
  rintro ⟨hrows, hcolumns⟩
  cases op with
  | insertRow | deleteRow =>
      obtain ⟨hone, -⟩ := h
      omega
  | insertColumn | deleteColumn =>
      obtain ⟨hone, -⟩ := h
      simp [hone] at hcolumns

/-- Whatever was done to a sheet, a deletion that it refuses names its only row or column, and
then that is the reason that is logged, or lies outside; then this is the reason that is
logged exactly if the sheet has several rows and several columns. -/
theorem reason_run
    {settings : Settings} {start : Sheet} {ops : List Operation} {o : Outcome Bool}
    (hstart : start.IsOpened settings)
    (hop : op.isDeletion = true)
    (h : (Operation.run start ops).restructure op index = .ok o)
    (hrefused : o.result = false) :
    ∃ e, o.events = [e] ∧ e.level = .warning ∧ e.kind = .structuralEditRejected
      ∧ (op.NamesOnly (Operation.run start ops) index
          ∨ op.LiesOutside (Operation.run start ops) index)
      ∧ (op.NamesOnly (Operation.run start ops) index → e.code = some lastRowOrColumn)
      ∧ (op.LiesOutside (Operation.run start ops) index →
          (e.code = some indexOutOfRange ↔ (Operation.run start ops).HasSeveral)) := by
  obtain ⟨d, -, hopen⟩ := hstart.exists_document
  obtain ⟨minColumns, _, _, _, -, -, -, -, hgrid, -⟩ := ofDocument_eq_ok hopen
  have hstorable : start.grid.IsStorable (Grid.leastWidth minColumns) :=
    ⟨Grid.isNormal_ofRows hgrid, Grid.minColumns_ofRows hgrid⟩
  have hend : (Operation.run start ops).grid.IsStorable (Grid.leastWidth minColumns) :=
    Operation.grid_induction (fun _ _ h hchange => h.change hchange) ops start hstorable
  obtain ⟨hadmits, -, e, hevents, hlevel, hkind, hcode⟩ := eq_of_refused hop h hrefused
  rw [refusalCode_of_isDeletion hop] at hcode
  refine ⟨e, hevents, hlevel, hkind, namesOnly_or_liesOutside hend hop hadmits,
    fun honly => ?_, fun _ => ?_⟩
  · rw [hcode, if_neg (not_hasSeveral_of_namesOnly honly)]
  · rw [hcode]
    split
    · next hseveral => exact iff_of_true rfl hseveral
    · next hsingle => exact iff_of_false (by decide) hsingle

/-- The index of the only row is put down to the last row, and one outside several rows and
columns to the range. -/
theorem reason_run_fewRows :
    ∃ start o o', create .initial = .ok start
      ∧ (Operation.run start [.restructure .deleteRow 4, .restructure .deleteRow 0]).restructure
          .deleteRow 3 = .ok o
      ∧ o.result = false
      ∧ (∃ e, o.events = [e] ∧ e.code = some indexOutOfRange)
      ∧ (Operation.run start (List.replicate 4 (.restructure .deleteRow 0))).restructure
          .deleteRow 0 = .ok o'
      ∧ o'.result = false
      ∧ ∃ e, o'.events = [e] ∧ e.code = some lastRowOrColumn := by
  have hsteps : (do
      let start ← create .initial
      let three := Operation.run start [.restructure .deleteRow 4, .restructure .deleteRow 0]
      let one := Operation.run start (List.replicate 4 (.restructure .deleteRow 0))
      let o ← three.restructure .deleteRow 3
      let o' ← one.restructure .deleteRow 0
      return !o.result && !o'.result && decide three.HasSeveral && decide (three.rowCount = 3)
        && decide (one.rowCount = 1)) = Except.ok true := by
    decide +kernel
  obtain ⟨start, hstart, hsteps⟩ := bind_eq_ok_iff.1 hsteps
  obtain ⟨o, ho, hsteps⟩ := bind_eq_ok_iff.1 hsteps
  obtain ⟨o', ho', hsteps⟩ := bind_eq_ok_iff.1 hsteps
  have hsteps := Except.ok.inj hsteps
  simp only [Bool.and_eq_true, Bool.not_eq_true', decide_eq_true_eq] at hsteps
  obtain ⟨⟨⟨⟨hrefused, hrefused'⟩, hseveral⟩, hthree⟩, hone⟩ := hsteps
  obtain ⟨e, he, -, -, -, -, hcode⟩ := reason_run (.fresh hstart) rfl ho hrefused
  obtain ⟨e', he', -, -, -, hcode', -⟩ := reason_run (.fresh hstart) rfl ho' hrefused'
  exact ⟨start, o, o', hstart, ho, hrefused,
    ⟨e, he, (hcode (.inr (by rw [hthree]; decide))).2 hseveral⟩, ho', hrefused',
    e', he', hcode' ⟨hone, rfl⟩⟩

/-- Settings that ask for a single column. -/
def singleColumnSettings : Settings :=
  Settings.initial.overlay [("min_columns", Json.ofInt 1)]

/-- Two rows of one column have no tenth one, but it is put down to the last row. -/
theorem reason_of_single_column :
    ∃ (s : Sheet) (o : Outcome Bool) (e : Event), s.IsOpened singleColumnSettings
      ∧ s.rowCount = 2 ∧ Restructuring.deleteRow.LiesOutside s 9
      ∧ s.restructure .deleteRow 9 = .ok o ∧ o.result = false ∧ o.events = [e]
      ∧ e.code = some lastRowOrColumn ∧ e.code ≠ some indexOutOfRange := by
  have hsteps : (do
      let d ← Document.blank 2 1 1 0
      let s ← ofDocument singleColumnSettings d
      let o ← s.restructure .deleteRow 9
      return !o.result && decide (s.rowCount = 2) && !decide s.HasSeveral) = Except.ok true := by
    decide +kernel
  obtain ⟨d, hd, hsteps⟩ := bind_eq_ok_iff.1 hsteps
  obtain ⟨s, hs, hsteps⟩ := bind_eq_ok_iff.1 hsteps
  obtain ⟨o, ho, hsteps⟩ := bind_eq_ok_iff.1 hsteps
  have hsteps := Except.ok.inj hsteps
  simp only [Bool.and_eq_true, Bool.not_eq_true', decide_eq_true_eq, decide_eq_false_iff_not]
    at hsteps
  obtain ⟨⟨hrefused, hrows⟩, hsingle⟩ := hsteps
  obtain ⟨-, -, e, he, -, -, hcode⟩ := eq_of_refused rfl ho hrefused
  rw [refusalCode_of_isDeletion rfl, if_neg hsingle] at hcode
  refine ⟨s, o, e, .given (.blank hd) hs, hrows, .inr ?_, ho, hrefused, he, hcode, ?_⟩
  · rw [hrows]
    decide
  · rw [hcode]
    decide

end Sheet

end Lemmas

end Spreadsheet
