import Mathlib.Tactic.Tauto
import Spreadsheet.Proofs.Grid.Contents

/-!
# The timeline of a sheet

A history keeps single edits.  Seen from outside it keeps snapshots of all
cells: those that can be gone back to, the present one, and those that can be
returned to.

Every list of edits traces a list of snapshots from the present one: each edit
agrees with the snapshot that it starts from, and replaying it gives the next.
Going back and returning are the same move along two such traces, with the
cells before and after an edit exchanged.

Results: every operation moves the timeline as it should (`Refines.step`), so a
sheet without a history shows the present of its timeline ever after
(`run_of_empty_history`).
-/

namespace Spreadsheet

/-- The cells of a sheet at one time. -/
abbrev Snapshot := Reference → Option Cell

/-- A snapshot with the cell at one position replaced. -/
def Snapshot.put (now : Snapshot) (r : Reference) (cell : Option Cell) : Snapshot :=
  fun s => if s = r then cell else now s

/-- The snapshots around the present one, the nearest first. -/
structure Timeline where
  limit : Nat
  past : List Snapshot
  present : Snapshot
  future : List Snapshot

namespace Timeline

/-- The timeline of a sheet without a history. -/
def start (limit : Nat) (now : Snapshot) : Timeline := ⟨limit, [], now, []⟩

/-- The timeline after a change, the oldest snapshots dropped beyond the limit. -/
def commit (t : Timeline) (next : Snapshot) : Timeline :=
  { t with past := (t.present :: t.past).take t.limit, present := next, future := [] }

/-- The timeline after a change that cannot be taken back. -/
def restart (t : Timeline) (next : Snapshot) : Timeline := start t.limit next

/-- What an operation on a sheet does to its timeline. -/
inductive Step (s : Sheet) (t : Timeline) : Operation → Sheet → Timeline → Prop
  | commit
      {col row : Int} {raw : String} {r : Reference} {cell : Option Cell} {s' : Sheet}
      {events : List Event}
      (h : (Operation.enter col row raw).perform s = .ok ⟨true, s', events⟩)
      (hr : Reference.ofInts? col row = some r)
      (hcell : Cell.ofInput? raw = .ok cell)
      (hnew : Cell.equalContents (s.grid.get? r) cell = false) :
      Step s t (.enter col row raw) s' (t.commit (t.present.put r cell))
  | commitSame
      {col row : Int} {raw : String} {r : Reference} {cell : Option Cell} {events : List Event}
      (h : (Operation.enter col row raw).perform s = .ok ⟨true, s, events⟩)
      (hr : Reference.ofInts? col row = some r)
      (hcell : Cell.ofInput? raw = .ok cell)
      (hsame : Cell.equalContents (s.grid.get? r) cell = true) :
      Step s t (.enter col row raw) s t
  | undo
      {snapshot : Snapshot} {past : List Snapshot} {s' : Sheet} {events : List Event}
      (h : Operation.undo.perform s = .ok ⟨true, s', events⟩)
      (hpast : t.past = snapshot :: past) :
      Step s t .undo s' ⟨t.limit, past, snapshot, t.present :: t.future⟩
  | undoNothing
      (h : Operation.undo.perform s = .ok ⟨false, s, []⟩)
      (hpast : t.past = []) :
      Step s t .undo s t
  | redo
      {snapshot : Snapshot} {future : List Snapshot} {s' : Sheet} {events : List Event}
      (h : Operation.redo.perform s = .ok ⟨true, s', events⟩)
      (hfuture : t.future = snapshot :: future) :
      Step s t .redo s' ⟨t.limit, t.present :: t.past, snapshot, future⟩
  | redoNothing
      (h : Operation.redo.perform s = .ok ⟨false, s, []⟩)
      (hfuture : t.future = []) :
      Step s t .redo s t
  | restructure
      {op : Operation} {s' : Sheet} {events : List Event}
      (hop : op.IsStructural)
      (h : op.perform s = .ok ⟨true, s', events⟩) :
      Step s t op s' (t.restart s'.grid.get?)
  | sort
      {today : Date} {col : Int} {ascending : Bool} {s' : Sheet} {events : List Event}
      (h : (Operation.sort today col ascending).perform s = .ok ⟨true, s', events⟩)
      (hrows : s.view.frozenRows.toNat + 2 ≤ s.rowCount) :
      Step s t (.sort today col ascending) s' (t.restart s'.grid.get?)
  | sortNothing
      {today : Date} {col : Int} {ascending : Bool} {s' : Sheet} {events : List Event}
      (h : (Operation.sort today col ascending).perform s = .ok ⟨true, s', events⟩)
      (hrows : ¬ s.view.frozenRows.toNat + 2 ≤ s.rowCount)
      (hgrid : s'.grid = s.grid) :
      Step s t (.sort today col ascending) s' t
  | refuse
      {op : Operation} {events : List Event}
      (hop : op.IsStructural ∨ ∃ today col ascending, op = .sort today col ascending)
      (h : op.perform s = .ok ⟨false, s, events⟩) :
      Step s t op s t
  | present
      {op : Operation} {s' : Sheet} {events : List Event}
      (hop : op.IsPresentation)
      (h : op.perform s = .ok ⟨true, s', events⟩)
      (hgrid : s'.grid = s.grid) :
      Step s t op s' t
  | fail
      {op : Operation} {fault : Fault}
      (hop : op ≠ .undo ∧ op ≠ .redo)
      (h : op.perform s = .error fault) :
      Step s t op s t

/-- The sheet shows the present of its timeline, which keeps no more of the past
than its limit. -/
structure Shows (s : Sheet) (t : Timeline) : Prop where
  cells : ∀ col row, s.cellAt? col row = (Reference.ofInts? col row).bind t.present
  limit : t.past.length ≤ t.limit

/-- A run of a sheet next to its timeline. -/
inductive Run : Sheet → Timeline → List Operation → Prop
  | nil
      {s : Sheet} {t : Timeline}
      (hs : Shows s t) :
      Run s t []
  | cons
      {s s' : Sheet} {t t' : Timeline} {op : Operation} {ops : List Operation}
      (hs : Shows s t)
      (hstep : Step s t op s' t')
      (hrest : Run s' t' ops) :
      Run s t (op :: ops)

end Timeline

/-- The edits start at a snapshot and lead through others, one after the other. -/
inductive Traces (source target : Edit → Option Cell) :
    Snapshot → List Edit → List Snapshot → Prop
  | nil
      {now : Snapshot} :
      Traces source target now [] []
  | cons
      {now : Snapshot} {e : Edit} {edits : List Edit} {snapshots : List Snapshot}
      (hnow : now e.position = source e)
      (hrest : Traces source target (now.put e.position (target e)) edits snapshots) :
      Traces source target now (e :: edits) (now.put e.position (target e) :: snapshots)

/-- The history of a grid keeps the edits between the snapshots of a timeline. -/
structure Refines (g : Grid) (t : Timeline) : Prop where
  present : g.get? = t.present
  past : Traces Edit.after Edit.before t.present g.history.past t.past
  future : Traces Edit.before Edit.after t.present g.history.future t.future
  limit : g.history.limit = t.limit
  room : t.past.length + t.future.length ≤ t.limit
  hasLabel : ∀ e ∈ g.history.past ++ g.history.future, ∃ label, e.position.label = .ok label

section Lemmas

namespace Traces

variable {source target : Edit → Option Cell} {now : Snapshot} {e : Edit} {edits : List Edit}
  {snapshots : List Snapshot}

theorem take
    (h : Traces source target now edits snapshots)
    (n : Nat) :
    Traces source target now (edits.take n) (snapshots.take n) := by
  induction n generalizing now edits snapshots with
  | zero => exact .nil
  | succ n ih =>
      cases h with
      | nil => exact .nil
      | cons hnow hrest => exact .cons hnow (ih hrest)

theorem put_put_self
    (r : Reference) (cell : Option Cell) :
    (now.put r cell).put r (now r) = now := by
  funext s
  unfold Snapshot.put
  split
  · next h => rw [h]
  · rfl

/-- The first move along a trace makes the opposite trace longer. -/
theorem turn
    {others : List Edit} {otherSnapshots : List Snapshot}
    (hnow : now e.position = source e)
    (h : Traces target source now others otherSnapshots) :
    Traces target source (now.put e.position (target e)) (e :: others)
      (now :: otherSnapshots) := by
  have hback : (now.put e.position (target e)).put e.position (source e) = now := by
    rw [← hnow]
    exact put_put_self _ _
  have hcons : Traces target source (now.put e.position (target e)) (e :: others)
      ((now.put e.position (target e)).put e.position (source e) :: otherSnapshots) := by
    refine .cons ?_ ?_
    · simp [Snapshot.put]
    · rw [hback]
      exact h
  rwa [hback] at hcons

theorem length_eq
    (h : Traces source target now edits snapshots) :
    edits.length = snapshots.length := by
  induction h with
  | nil => rfl
  | cons hnow hrest ih => rw [List.length_cons, List.length_cons, ih]

end Traces

theorem Grid.get?_write
    (g : Grid) (r : Reference) (cell : Option Cell) :
    (g.write r cell).get? = Snapshot.put g.get? r cell := by
  funext s
  unfold Snapshot.put
  split
  · next h =>
      rw [h]
      exact Grid.get?_write_self g r cell
  · next h => exact Grid.get?_write_of_ne g cell h

namespace Refines

variable {g : Grid} {t : Timeline}

theorem shows
    {s : Sheet}
    (h : Refines s.grid t) :
    t.Shows s where
  cells col row := by
    rw [← h.present]
    rfl
  limit := by
    have := h.room
    omega

/-- A grid that forgot its history starts a timeline. -/
theorem restart
    {g' : Grid}
    (h : Refines g t)
    (hg : g'.history = .empty g.history.limit) :
    Refines g' (t.restart g'.get?) where
  present := rfl
  past := by
    rw [hg]
    exact .nil
  future := by
    rw [hg]
    exact .nil
  limit := by
    rw [hg]
    exact h.limit
  room := Nat.zero_le _
  hasLabel := by
    rw [hg]
    simp [History.empty]

/-- A recorded edit commits the snapshot after it. -/
theorem commit
    {r : Reference} {cell : Option Cell}
    (h : Refines g t)
    (hlabel : ∃ label, r.label = .ok label)
    (hblank : cell ≠ some .blank)
    (hnew : Cell.equalContents (g.get? r) cell = false) :
    Refines (g.put r cell true) (t.commit (t.present.put r cell)) := by
  have hput : g.put r cell true
      = { g.write r cell with history := g.history.push ⟨r, g.get? r, cell⟩ } := by
    simp only [Grid.put, unlessBlank_of_ne hblank, hnew, Grid.history_write]
    rfl
  have hpresent : (g.put r cell true).get? = t.present.put r cell := by
    rw [← h.present, ← Grid.get?_write, hput]
    rfl
  have hpast : Traces Edit.after Edit.before (t.present.put r cell)
      (⟨r, g.get? r, cell⟩ :: g.history.past) (t.present :: t.past) :=
    Traces.turn (e := ⟨r, g.get? r, cell⟩) (congrFun h.present.symm r) h.past
  rw [hput] at hpresent ⊢
  constructor
  case present => exact hpresent
  case past =>
    show Traces Edit.after Edit.before _
      ((⟨r, g.get? r, cell⟩ :: g.history.past).take g.history.limit) _
    rw [h.limit]
    exact hpast.take t.limit
  case future => exact .nil
  case limit => exact h.limit
  case room =>
    simp only [Timeline.commit, List.length_take, List.length_nil]
    omega
  case hasLabel =>
    intro e he
    simp only [History.push, List.append_nil] at he
    rcases List.mem_cons.1 (List.mem_of_mem_take he) with rfl | he
    · exact hlabel
    · exact h.hasLabel e (List.mem_append_left _ he)

/-- Taking an edit back goes to the snapshot before it. -/
theorem undo
    {e : Edit} {past : List Edit}
    (h : Refines g t)
    (hpast : g.history.past = e :: past) :
    ∃ snapshot snapshots, t.past = snapshot :: snapshots
      ∧ Refines { g.write e.position e.before with
          history := { g.history with past := past, future := e :: g.history.future } }
        ⟨t.limit, snapshots, snapshot, t.present :: t.future⟩ := by
  have htrace := h.past
  have hlabel := h.hasLabel
  have hroom := h.room
  rw [hpast] at htrace hlabel
  cases ht : t.past with
  | nil =>
      rw [ht] at htrace
      cases htrace
  | cons snapshot snapshots =>
      rw [ht] at htrace hroom
      cases htrace with
      | cons hnow hrest =>
          refine ⟨_, snapshots, rfl, ?_⟩
          constructor
          case present =>
            rw [← h.present, ← Grid.get?_write]
            rfl
          case past => exact hrest
          case future => exact h.future.turn hnow
          case limit => exact h.limit
          case room =>
            simp only [List.length_cons] at hroom ⊢
            omega
          case hasLabel =>
            intro d hd
            refine hlabel d ?_
            simp only [List.mem_append, List.mem_cons] at hd ⊢
            tauto

/-- Making an edit again goes to the snapshot after it. -/
theorem redo
    {e : Edit} {future : List Edit}
    (h : Refines g t)
    (hfuture : g.history.future = e :: future) :
    ∃ snapshot snapshots, t.future = snapshot :: snapshots
      ∧ Refines { g.write e.position e.after with
          history := { g.history with
            past := (e :: g.history.past).take g.history.limit, future := future } }
        ⟨t.limit, t.present :: t.past, snapshot, snapshots⟩ := by
  have htrace := h.future
  have hlabel := h.hasLabel
  have hroom := h.room
  rw [hfuture] at htrace hlabel
  cases ht : t.future with
  | nil =>
      rw [ht] at htrace
      cases htrace
  | cons snapshot snapshots =>
      rw [ht] at htrace hroom
      cases htrace with
      | cons hnow hrest =>
          have hlength := h.past.length_eq
          have htake : (e :: g.history.past).take g.history.limit = e :: g.history.past := by
            apply List.take_of_length_le
            rw [h.limit]
            simp only [List.length_cons] at hroom ⊢
            omega
          rw [htake]
          refine ⟨_, snapshots, rfl, ?_⟩
          constructor
          case present =>
            rw [← h.present, ← Grid.get?_write]
            rfl
          case past => exact h.past.turn hnow
          case future => exact hrest
          case limit => exact h.limit
          case room =>
            simp only [List.length_cons] at hroom ⊢
            omega
          case hasLabel =>
            intro d hd
            refine hlabel d ?_
            simp only [List.mem_append, List.mem_cons] at hd ⊢
            tauto

variable {s : Sheet}

theorem step_fail
    {op : Operation} {fault : Fault}
    (h : Refines s.grid t)
    (hop : op ≠ .undo ∧ op ≠ .redo)
    (hfail : op.perform s = .error fault) :
    ∃ t', t.Step s op (op.after s) t' ∧ Refines (op.after s).grid t' := by
  rw [Operation.after_of_error hfail]
  exact ⟨t, .fail hop hfail, h⟩

theorem step_enter
    (h : Refines s.grid t)
    (col row : Int) (raw : String) :
    ∃ t', t.Step s (.enter col row raw) ((Operation.enter col row raw).after s) t'
      ∧ Refines ((Operation.enter col row raw).after s).grid t' := by
  cases hrun : (Operation.enter col row raw).perform s with
  | error fault => exact h.step_fail (by simp) hrun
  | ok outcome =>
      obtain ⟨entered, henter, hok⟩ := bind_eq_ok_iff.1 hrun
      obtain rfl := Except.ok.inj hok
      obtain ⟨r, hr, hcell, hlabel, hsheet⟩ := Sheet.enter_eq_ok henter
      rw [Operation.after_of_ok hrun]
      cases hnew : Cell.equalContents (s.grid.get? r) entered.result with
      | true =>
          have hsame : entered.sheet = s := by
            rw [hsheet, Grid.put, unlessBlank_of_ne (ofInput?_ne_blank hcell)]
            simp only [hnew, if_true]
          simp only [hsame] at hrun ⊢
          exact ⟨t, .commitSame hrun hr hcell hnew, h⟩
      | false =>
          refine ⟨_, .commit hrun hr hcell hnew, ?_⟩
          rw [hsheet]
          exact h.commit hlabel (ofInput?_ne_blank hcell) hnew

theorem step_undo
    (h : Refines s.grid t) :
    ∃ t', t.Step s .undo (Operation.undo.after s) t' ∧ Refines (Operation.undo.after s).grid t' := by
  cases hpast : s.grid.history.past with
  | nil =>
      have hrun : Operation.undo.perform s = .ok ⟨false, s, []⟩ := by
        simp [Operation.perform, Sheet.undo, Grid.undo?, History.undo?, hpast, pure, Except.pure]
      have hlength := h.past.length_eq
      rw [hpast] at hlength
      rw [Operation.after_of_ok hrun]
      exact ⟨t, .undoNothing hrun (List.length_eq_zero_iff.1 hlength.symm), h⟩
  | cons e past =>
      obtain ⟨snapshot, snapshots, ht, hnext⟩ := h.undo hpast
      obtain ⟨label, hlabel⟩ := h.hasLabel e (by simp [hpast])
      have hrun : ∃ events, Operation.undo.perform s = .ok ⟨true, { s with grid :=
          { s.grid.write e.position e.before with
            history := { s.grid.history with
              past := past, future := e :: s.grid.history.future } } }, events⟩ := by
        simp [Operation.perform, Sheet.undo, Sheet.editEvent, Grid.undo?, History.undo?, hpast,
          hlabel, bind, Except.bind, pure, Except.pure]
      obtain ⟨events, hrun⟩ := hrun
      rw [Operation.after_of_ok hrun]
      exact ⟨_, .undo hrun ht, hnext⟩

theorem step_redo
    (h : Refines s.grid t) :
    ∃ t', t.Step s .redo (Operation.redo.after s) t' ∧ Refines (Operation.redo.after s).grid t' := by
  cases hfuture : s.grid.history.future with
  | nil =>
      have hrun : Operation.redo.perform s = .ok ⟨false, s, []⟩ := by
        simp [Operation.perform, Sheet.redo, Grid.redo?, History.redo?, hfuture, pure, Except.pure]
      have hlength := h.future.length_eq
      rw [hfuture] at hlength
      rw [Operation.after_of_ok hrun]
      exact ⟨t, .redoNothing hrun (List.length_eq_zero_iff.1 hlength.symm), h⟩
  | cons e future =>
      obtain ⟨snapshot, snapshots, ht, hnext⟩ := h.redo hfuture
      obtain ⟨label, hlabel⟩ := h.hasLabel e (by simp [hfuture])
      have hrun : ∃ events, Operation.redo.perform s = .ok ⟨true, { s with grid :=
          { s.grid.write e.position e.after with
            history := { s.grid.history with
              past := (e :: s.grid.history.past).take s.grid.history.limit,
              future := future } } }, events⟩ := by
        simp [Operation.perform, Sheet.redo, Sheet.editEvent, Grid.redo?, History.redo?, hfuture,
          hlabel, bind, Except.bind, pure, Except.pure]
      obtain ⟨events, hrun⟩ := hrun
      rw [Operation.after_of_ok hrun]
      exact ⟨_, .redo hrun ht, hnext⟩

theorem step_sort
    (h : Refines s.grid t)
    (today : Date) (col : Int) (ascending : Bool) :
    ∃ t', t.Step s (.sort today col ascending) ((Operation.sort today col ascending).after s) t'
      ∧ Refines ((Operation.sort today col ascending).after s).grid t' := by
  cases hrun : (Operation.sort today col ascending).perform s with
  | error fault => exact h.step_fail (by simp) hrun
  | ok outcome =>
      obtain ⟨result, s', events⟩ := outcome
      rw [Operation.after_of_ok hrun]
      cases result with
      | false =>
          obtain rfl := Sheet.sheet_of_sort_refused hrun
          exact ⟨t, .refuse (Or.inr ⟨today, col, ascending, rfl⟩) hrun, h⟩
      | true =>
          have hgrid := Sheet.grid_sort hrun
          by_cases hrows : s.view.frozenRows.toNat + 2 ≤ s.rowCount
          · rw [if_pos hrows] at hgrid
            exact ⟨_, .sort hrun hrows, h.restart hgrid⟩
          · rw [if_neg hrows] at hgrid
            refine ⟨t, .sortNothing hrun hrows hgrid, ?_⟩
            rw [hgrid]
            exact h

theorem step_restructure
    {op : Operation} {change : Restructuring} {index : Int}
    (h : Refines s.grid t)
    (hop : op.IsStructural)
    (hperform : op.perform s = s.restructure change index) :
    ∃ t', t.Step s op (op.after s) t' ∧ Refines (op.after s).grid t' := by
  cases hrun : op.perform s with
  | error fault =>
      refine h.step_fail ?_ hrun
      cases op <;> simp_all [Operation.IsStructural]
  | ok outcome =>
      obtain ⟨result, s', events⟩ := outcome
      rw [Operation.after_of_ok hrun]
      have hchange := hperform.symm.trans hrun
      cases result with
      | false =>
          obtain rfl := Sheet.sheet_of_refused hchange
          exact ⟨t, .refuse (Or.inl hop) hrun, h⟩
      | true => exact ⟨_, .restructure hop hrun, h.restart (Sheet.history_restructure hchange)⟩

theorem step_presentation
    {op : Operation}
    (h : Refines s.grid t)
    (hop : op.IsPresentation) :
    ∃ t', t.Step s op (op.after s) t' ∧ Refines (op.after s).grid t' := by
  cases hrun : op.perform s with
  | error fault =>
      refine h.step_fail ?_ hrun
      cases op <;> simp_all [Operation.IsPresentation]
  | ok outcome =>
      obtain ⟨hresult, hgrid, -⟩ := Operation.change_of_isPresentation hop hrun
      obtain ⟨result, s', events⟩ := outcome
      simp only at hresult hgrid
      subst hresult
      rw [Operation.after_of_ok hrun]
      refine ⟨t, .present hop hrun hgrid, ?_⟩
      rw [hgrid]
      exact h

end Refines

/-- Every operation moves the timeline of a sheet as it should. -/
theorem Refines.step
    {s : Sheet} {t : Timeline}
    (h : Refines s.grid t)
    (op : Operation) :
    ∃ t', t.Step s op (op.after s) t' ∧ Refines (op.after s).grid t' := by
  cases op with
  | enter col row raw => exact h.step_enter col row raw
  | undo => exact h.step_undo
  | redo => exact h.step_redo
  | sort today col ascending => exact h.step_sort today col ascending
  | restructure op index => exact h.step_restructure trivial rfl
  | addRow => exact h.step_restructure trivial rfl
  | addColumn =>
      cases hcount : s.columnCount.count with
      | error fault =>
          have hrun : Operation.addColumn.perform s = .error fault := by
            simp [Operation.perform, Sheet.addColumn, hcount, bind, Except.bind]
          exact h.step_fail (by simp) hrun
      | ok index =>
          have hrun : Operation.addColumn.perform s = s.restructure .insertColumn index :=
            bind_of_eq_ok hcount _
          exact h.step_restructure trivial hrun
  | resizeColumn col width => exact h.step_presentation trivial
  | setHidden col hidden => exact h.step_presentation trivial
  | setFrozenRows count => exact h.step_presentation trivial
  | setFrozenColumns count => exact h.step_presentation trivial
  | startSelection col row => exact h.step_presentation trivial
  | extendSelection col row => exact h.step_presentation trivial
  | moveSelection dcol drow => exact h.step_presentation trivial

theorem Refines.run
    {s : Sheet} {t : Timeline}
    (h : Refines s.grid t)
    (ops : List Operation) :
    Timeline.Run s t ops := by
  induction ops generalizing s t with
  | nil => exact .nil h.shows
  | cons op ops ih =>
      obtain ⟨t', hstep, hnext⟩ := h.step op
      exact .cons h.shows hstep (ih hnext)

theorem refines_start
    {g : Grid} {limit : Nat}
    (h : g.history = .empty limit) :
    Refines g (.start limit g.get?) where
  present := rfl
  past := by
    rw [h]
    exact .nil
  future := by
    rw [h]
    exact .nil
  limit := by
    rw [h]
    rfl
  room := Nat.zero_le _
  hasLabel := by
    rw [h]
    simp [History.empty]

/-- The cells of a sheet follow a timeline of snapshots, whatever is done to the
sheet. -/
theorem run_of_empty_history
    (s : Sheet) (limit : Nat)
    (h : s.grid.history = .empty limit)
    (ops : List Operation) :
    Timeline.Run s (.start limit s.grid.get?) ops :=
  (refines_start h).run ops

theorem run_of_two_entries :
    Timeline.Run ⟨.initial, ⟨.int 3, [[none]], .empty 1⟩, .usual, none⟩ (.start 1 fun _ => none)
      [.enter 0 0 "7", .enter 1 0 "x", .undo, .undo, .redo] := by
  have hcells : (⟨.int 3, [[none]], .empty 1⟩ : Grid).get? = fun _ => none := by
    funext r
    rw [Grid.get?_eq]
    obtain ⟨col, row⟩ := r
    cases row <;> cases col <;> rfl
  have hrun := run_of_empty_history ⟨.initial, ⟨.int 3, [[none]], .empty 1⟩, .usual, none⟩ 1 rfl
    [.enter 0 0 "7", .enter 1 0 "x", .undo, .undo, .redo]
  rwa [hcells] at hrun

end Lemmas

end Spreadsheet
