import Spreadsheet.Proofs.Sheet.Operation

/-!
# What an operation can change

Whatever is done to a sheet, its grid and its view each change in one of a few
ways, or stay.  A property that each of these keeps is kept by every run.

Results: an operation makes one change to the grid and one to the view
(`Operation.change`), one on the view or the selection none to the grid
(`Operation.answers_of_isPresentation`), so what every change keeps is kept by
every run (`Operation.run_induction`); no run changes the settings
(`Operation.settings_run`), and no edit selects anything
(`Operation.selection_run`).
-/

namespace Spreadsheet

/-- One change of a grid. -/
inductive Grid.Change (g : Grid) : Grid → Prop
  | same :
      Change g g
  | put
      {r : Reference} {raw : String} {cell : Option Cell}
      (hcell : Cell.ofInput? raw = .ok cell) :
      Change g (g.put r cell true)
  | undo
      {e : Edit} {g' : Grid}
      (h : g.undo? = some (e, g')) :
      Change g g'
  | redo
      {e : Edit} {g' : Grid}
      (h : g.redo? = some (e, g')) :
      Change g g'
  | restructure
      {op : Restructuring} {index : Int} {g' : Grid}
      (h : op.grid g index = .ok (some g')) :
      Change g g'
  | sort
      {today : Date} {col : Int} {ascending : Bool} {frozen : Int} {g' : Grid}
      (h : g.sortByColumn? today col ascending frozen = .ok (some g')) :
      Change g g'

/-- One change of a view. -/
inductive View.Change (v : View) : View → Prop
  | same :
      Change v v
  | resize
      {col given : Int} {width : Number} {v' : View}
      (h : v.resizeColumn col width = .ok (given, v')) :
      Change v v'
  | hide
      {col : Int} {hidden : Bool} {v' : View}
      (h : v.setHidden col hidden = .ok v') :
      Change v v'
  | freezeRows
      {count : Number} {v' : View}
      (h : v.setFrozenRows count = .ok v') :
      Change v v'
  | freezeColumns
      {count : Number} {v' : View}
      (h : v.setFrozenColumns count = .ok v') :
      Change v v'
  | shift
      (index count : Int) :
      Change v (v.shiftColumns index count)

/-- What an operation on the view makes of it; one on the selection leaves it. -/
inductive View.Answers (v : View) : Operation → View → Prop
  | resize
      {col given : Int} {width : Number} {v' : View}
      (h : v.resizeColumn col width = .ok (given, v')) :
      Answers v (.resizeColumn col width) v'
  | hide
      {col : Int} {hidden : Bool} {v' : View}
      (h : v.setHidden col hidden = .ok v') :
      Answers v (.setHidden col hidden) v'
  | freezeRows
      {count : Number} {v' : View}
      (h : v.setFrozenRows count = .ok v') :
      Answers v (.setFrozenRows count) v'
  | freezeColumns
      {count : Number} {v' : View}
      (h : v.setFrozenColumns count = .ok v') :
      Answers v (.setFrozenColumns count) v'
  | startSelection
      (col row : Int) :
      Answers v (.startSelection col row) v
  | extendSelection
      (col row : Int) :
      Answers v (.extendSelection col row) v
  | moveSelection
      (dcol drow : Int) :
      Answers v (.moveSelection dcol drow) v

section Lemmas

variable {s : Sheet} {outcome : Outcome Bool}

theorem Restructuring.view_change
    (op : Restructuring) (v : View) (index : Int) :
    v.Change (op.view v index) := by
  cases op with
  | insertRow => exact .same
  | insertColumn => exact .shift index 1
  | deleteRow => exact .same
  | deleteColumn => exact .shift index (-1)

theorem Sheet.restructure_change
    {op : Restructuring} {index : Int}
    (h : s.restructure op index = .ok outcome) :
    s.grid.Change outcome.sheet.grid ∧ s.view.Change outcome.sheet.view := by
  obtain ⟨changed, hgrid, h⟩ := bind_eq_ok_iff.1 h
  cases changed with
  | none =>
      obtain ⟨event, -, h⟩ := bind_eq_ok_iff.1 h
      obtain rfl := Except.ok.inj h
      exact ⟨.same, .same⟩
  | some grid =>
      obtain ⟨text, -, h⟩ := bind_eq_ok_iff.1 h
      obtain rfl := Except.ok.inj h
      exact ⟨.restructure hgrid, op.view_change s.view index⟩

theorem Sheet.undo_change
    (h : s.undo = .ok outcome) :
    s.grid.Change outcome.sheet.grid ∧ s.view.Change outcome.sheet.view := by
  unfold Sheet.undo at h
  split at h
  · obtain rfl := Except.ok.inj h
    exact ⟨.same, .same⟩
  · next e grid hundo =>
      obtain ⟨event, -, h⟩ := bind_eq_ok_iff.1 h
      obtain rfl := Except.ok.inj h
      exact ⟨.undo hundo, .same⟩

theorem Sheet.redo_change
    (h : s.redo = .ok outcome) :
    s.grid.Change outcome.sheet.grid ∧ s.view.Change outcome.sheet.view := by
  unfold Sheet.redo at h
  split at h
  · obtain rfl := Except.ok.inj h
    exact ⟨.same, .same⟩
  · next e grid hredo =>
      obtain ⟨event, -, h⟩ := bind_eq_ok_iff.1 h
      obtain rfl := Except.ok.inj h
      exact ⟨.redo hredo, .same⟩

theorem Sheet.sort_change
    {today : Date} {col : Int} {ascending : Bool}
    (h : s.sort today col ascending = .ok outcome) :
    s.grid.Change outcome.sheet.grid ∧ s.view.Change outcome.sheet.view := by
  obtain ⟨changed, hgrid, h⟩ := bind_eq_ok_iff.1 h
  cases changed with
  | none =>
      obtain ⟨event, -, h⟩ := bind_eq_ok_iff.1 h
      obtain rfl := Except.ok.inj h
      exact ⟨.same, .same⟩
  | some grid =>
      obtain ⟨text, -, h⟩ := bind_eq_ok_iff.1 h
      obtain rfl := Except.ok.inj h
      exact ⟨.sort hgrid, .same⟩

/-- An operation on the view or the selection changes nothing else. -/
theorem Operation.answers_of_isPresentation
    {op : Operation}
    (hop : op.IsPresentation)
    (h : op.perform s = .ok outcome) :
    ∃ view selection, outcome.sheet = { s with view := view, selection := selection }
      ∧ outcome.result = true ∧ s.view.Answers op view := by
  cases op with
  | resizeColumn col width =>
      obtain ⟨resized, hresize, h⟩ := bind_eq_ok_iff.1 h
      obtain ⟨widened, hwiden, hresize⟩ := bind_eq_ok_iff.1 hresize
      obtain rfl := Except.ok.inj h
      obtain rfl := Except.ok.inj hresize
      exact ⟨_, _, rfl, rfl, .resize hwiden⟩
  | setHidden col hidden =>
      obtain ⟨changed, hchange, h⟩ := bind_eq_ok_iff.1 h
      obtain ⟨view, hview, hchange⟩ := bind_eq_ok_iff.1 hchange
      obtain rfl := Except.ok.inj h
      obtain rfl := Except.ok.inj hchange
      exact ⟨_, _, rfl, rfl, .hide hview⟩
  | setFrozenRows count =>
      obtain ⟨changed, hchange, h⟩ := bind_eq_ok_iff.1 h
      obtain ⟨view, hview, hchange⟩ := bind_eq_ok_iff.1 hchange
      obtain rfl := Except.ok.inj h
      obtain rfl := Except.ok.inj hchange
      exact ⟨_, _, rfl, rfl, .freezeRows hview⟩
  | setFrozenColumns count =>
      obtain ⟨changed, hchange, h⟩ := bind_eq_ok_iff.1 h
      obtain ⟨view, hview, hchange⟩ := bind_eq_ok_iff.1 hchange
      obtain rfl := Except.ok.inj h
      obtain rfl := Except.ok.inj hchange
      exact ⟨_, _, rfl, rfl, .freezeColumns hview⟩
  | startSelection col row =>
      obtain rfl := Except.ok.inj h
      exact ⟨_, _, rfl, rfl, .startSelection col row⟩
  | extendSelection col row =>
      obtain rfl := Except.ok.inj h
      exact ⟨_, _, rfl, rfl, .extendSelection col row⟩
  | moveSelection dcol drow =>
      obtain ⟨moved, hmove, h⟩ := bind_eq_ok_iff.1 h
      obtain rfl := Except.ok.inj h
      unfold Sheet.moveSelection at hmove
      split at hmove
      · obtain rfl := Except.ok.inj hmove
        exact ⟨_, _, rfl, rfl, .moveSelection dcol drow⟩
      · obtain ⟨columns, -, hmove⟩ := bind_eq_ok_iff.1 hmove
        obtain rfl := Except.ok.inj hmove
        exact ⟨_, _, rfl, rfl, .moveSelection dcol drow⟩
  | _ => exact hop.elim

theorem View.Answers.change
    {v v' : View} {op : Operation}
    (h : v.Answers op v') :
    v.Change v' := by
  cases h with
  | resize h => exact .resize h
  | hide h => exact .hide h
  | freezeRows h => exact .freezeRows h
  | freezeColumns h => exact .freezeColumns h
  | _ => exact .same

/-- An operation on the view or the selection leaves the grid. -/
theorem Operation.change_of_isPresentation
    {op : Operation}
    (hop : op.IsPresentation)
    (h : op.perform s = .ok outcome) :
    outcome.result = true ∧ outcome.sheet.grid = s.grid ∧ s.view.Change outcome.sheet.view := by
  obtain ⟨view, selection, hsheet, hresult, hview⟩ := answers_of_isPresentation hop h
  rw [hsheet]
  exact ⟨hresult, rfl, hview.change⟩

/-- An operation makes one change to the grid and one to the view. -/
theorem Operation.change
    {op : Operation}
    (h : op.perform s = .ok outcome) :
    s.grid.Change outcome.sheet.grid ∧ s.view.Change outcome.sheet.view := by
  by_cases hop : op.IsPresentation
  · obtain ⟨-, hgrid, hview⟩ := change_of_isPresentation hop h
    rw [hgrid]
    exact ⟨.same, hview⟩
  · cases op with
    | enter col row raw =>
        obtain ⟨entered, henter, h⟩ := bind_eq_ok_iff.1 h
        obtain rfl := Except.ok.inj h
        obtain ⟨r, -, hcell, -, hsheet⟩ := Sheet.enter_eq_ok henter
        simp only [hsheet]
        exact ⟨.put hcell, .same⟩
    | undo => exact Sheet.undo_change h
    | redo => exact Sheet.redo_change h
    | sort today col ascending => exact Sheet.sort_change h
    | restructure op index => exact Sheet.restructure_change h
    | addRow => exact Sheet.restructure_change h
    | addColumn =>
        obtain ⟨index, -, h⟩ := bind_eq_ok_iff.1 h
        exact Sheet.restructure_change h
    | _ => exact absurd trivial hop

/-! Nothing changes the settings, and little else but the grid is changed. -/

theorem Sheet.settings_of_restructure
    {op : Restructuring} {index : Int}
    (h : s.restructure op index = .ok outcome) :
    outcome.sheet.settings = s.settings := by
  obtain ⟨changed, -, h⟩ := bind_eq_ok_iff.1 h
  cases changed with
  | none =>
      obtain ⟨event, -, h⟩ := bind_eq_ok_iff.1 h
      obtain rfl := Except.ok.inj h
      rfl
  | some grid =>
      obtain ⟨text, -, h⟩ := bind_eq_ok_iff.1 h
      obtain rfl := Except.ok.inj h
      rfl

theorem Sheet.sheet_of_sort
    {today : Date} {col : Int} {ascending : Bool}
    (h : s.sort today col ascending = .ok outcome) :
    outcome.sheet = { s with grid := outcome.sheet.grid } := by
  obtain ⟨changed, -, h⟩ := bind_eq_ok_iff.1 h
  cases changed with
  | none =>
      obtain ⟨event, -, h⟩ := bind_eq_ok_iff.1 h
      obtain rfl := Except.ok.inj h
      rfl
  | some grid =>
      obtain ⟨label, -, h⟩ := bind_eq_ok_iff.1 h
      obtain rfl := Except.ok.inj h
      rfl

theorem Sheet.sheet_of_edit
    {step : Option (Edit × Grid)} {event : Edit → Except Fault Event}
    (h : (match step with
      | none => return ⟨false, s, []⟩
      | some (e, grid) => do return ⟨true, { s with grid := grid }, [← event e]⟩)
        = Except.ok outcome) :
    outcome.sheet = { s with grid := outcome.sheet.grid } := by
  cases step with
  | none =>
      obtain rfl := Except.ok.inj h
      rfl
  | some edit =>
      obtain ⟨event, -, h⟩ := bind_eq_ok_iff.1 h
      obtain rfl := Except.ok.inj h
      rfl

/-- Lines that come in or go out are a change of structure. -/
theorem Operation.IsStructural.exists_restructure
    {op : Operation}
    (hop : op.IsStructural)
    (h : op.perform s = .ok outcome) :
    ∃ change index, s.restructure change index = .ok outcome := by
  cases op with
  | restructure change index => exact ⟨change, index, h⟩
  | addRow => exact ⟨_, _, h⟩
  | addColumn =>
      obtain ⟨index, -, h⟩ := bind_eq_ok_iff.1 h
      exact ⟨_, index, h⟩
  | _ => exact hop.elim

/-- Typing, taking back, making again and sorting change nothing but the grid. -/
theorem Operation.sheet_of_perform
    {op : Operation}
    (hpresentation : ¬ op.IsPresentation)
    (hstructural : ¬ op.IsStructural)
    (h : op.perform s = .ok outcome) :
    outcome.sheet = { s with grid := outcome.sheet.grid } := by
  cases op with
  | enter col row raw =>
      obtain ⟨entered, henter, h⟩ := bind_eq_ok_iff.1 h
      obtain rfl := Except.ok.inj h
      obtain ⟨_, -, -, -, hsheet⟩ := Sheet.enter_eq_ok henter
      simp only [hsheet]
  | undo => exact Sheet.sheet_of_edit h
  | redo => exact Sheet.sheet_of_edit h
  | sort today col ascending => exact Sheet.sheet_of_sort h
  | restructure | addRow | addColumn => exact absurd trivial hstructural
  | _ => exact absurd trivial hpresentation

theorem Operation.settings_of_perform
    {op : Operation}
    (h : op.perform s = .ok outcome) :
    outcome.sheet.settings = s.settings := by
  by_cases hpresentation : op.IsPresentation
  · obtain ⟨_, _, hsheet, -, -⟩ := answers_of_isPresentation hpresentation h
    rw [hsheet]
  · by_cases hstructural : op.IsStructural
    · obtain ⟨_, _, h⟩ := hstructural.exists_restructure h
      exact Sheet.settings_of_restructure h
    · rw [sheet_of_perform hpresentation hstructural h]

theorem Operation.settings_run
    (ops : List Operation) (s : Sheet) :
    (run s ops).settings = s.settings := by
  induction ops generalizing s with
  | nil => rfl
  | cons op ops ih =>
      rw [run, List.foldl_cons]
      refine (ih (op.after s)).trans ?_
      cases hrun : op.perform s with
      | error fault => rw [after_of_error hrun]
      | ok outcome => rw [after_of_ok hrun, settings_of_perform hrun]

/-- A change of structure keeps the selection or drops it. -/
theorem Sheet.selection_of_restructure
    {op : Restructuring} {index : Int}
    (h : s.restructure op index = .ok outcome) :
    ∀ t ∈ outcome.sheet.selection, t ∈ s.selection := by
  obtain ⟨changed, hgrid, h⟩ := bind_eq_ok_iff.1 h
  cases changed with
  | none =>
      obtain ⟨event, -, h⟩ := bind_eq_ok_iff.1 h
      obtain rfl := Except.ok.inj h
      exact fun t ht => ht
  | some grid =>
      obtain ⟨text, -, h⟩ := bind_eq_ok_iff.1 h
      obtain rfl := Except.ok.inj h
      intro t ht
      cases op with
      | insertRow => exact ht
      | insertColumn => exact ht
      | deleteRow => exact (Option.mem_filter_iff.1 ht).1
      | deleteColumn => exact (Option.mem_filter_iff.1 ht).1

/-- Only what concerns the selection selects something. -/
theorem Operation.selection_of_perform
    {op : Operation}
    (hop : ¬ op.IsPresentation)
    (h : op.perform s = .ok outcome) :
    ∀ t ∈ outcome.sheet.selection, t ∈ s.selection := by
  by_cases hstructural : op.IsStructural
  · obtain ⟨_, _, h⟩ := hstructural.exists_restructure h
    exact Sheet.selection_of_restructure h
  · rw [sheet_of_perform hop hstructural h]
    exact fun _ ht => ht

theorem Operation.selection_run
    {ops : List Operation}
    (hops : ∀ op ∈ ops, ¬ op.IsPresentation)
    (s : Sheet) :
    ∀ t ∈ (run s ops).selection, t ∈ s.selection := by
  induction ops generalizing s with
  | nil => exact fun _ ht => ht
  | cons op ops ih =>
      obtain ⟨hop, hops⟩ := List.forall_mem_cons.1 hops
      rw [run, List.foldl_cons]
      intro t ht
      have hafter := ih hops (op.after s) t ht
      cases hrun : op.perform s with
      | error fault => rwa [after_of_error hrun] at hafter
      | ok outcome =>
          rw [after_of_ok hrun] at hafter
          exact selection_of_perform hop hrun t hafter

/-- A property of the grid and the view that every change keeps is kept by every
run. -/
theorem Operation.run_induction
    {ofGrid : Grid → Prop} {ofView : View → Prop}
    (hgrid : ∀ g g', ofGrid g → g.Change g' → ofGrid g')
    (hview : ∀ v v', ofView v → v.Change v' → ofView v')
    (ops : List Operation) (s : Sheet)
    (hg : ofGrid s.grid)
    (hv : ofView s.view) :
    ofGrid (run s ops).grid ∧ ofView (run s ops).view := by
  induction ops generalizing s with
  | nil => exact ⟨hg, hv⟩
  | cons op ops ih =>
      rw [run, List.foldl_cons]
      cases hrun : op.perform s with
      | error fault =>
          rw [after_of_error hrun]
          exact ih s hg hv
      | ok outcome =>
          obtain ⟨hgridChange, hviewChange⟩ := change hrun
          rw [after_of_ok hrun]
          exact ih outcome.sheet (hgrid _ _ hg hgridChange) (hview _ _ hv hviewChange)

/-- A property of the grid that every change keeps is kept by every run. -/
theorem Operation.grid_induction
    {p : Grid → Prop}
    (hchange : ∀ g g', p g → g.Change g' → p g')
    (ops : List Operation) (s : Sheet)
    (h : p s.grid) :
    p (run s ops).grid :=
  (run_induction hchange (fun _ _ _ _ => trivial) ops s h trivial).1

end Lemmas

end Spreadsheet
