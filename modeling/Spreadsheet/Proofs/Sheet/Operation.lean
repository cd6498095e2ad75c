import Spreadsheet.Proofs.Grid.Sorting
import Spreadsheet.Proofs.Grid.Structure

/-!
# Operations on sheets

All that can be done to a sheet, as one family.  An operation answers whether
it did anything; one that fails leaves the sheet as it is.

Results: what a commit that returns has done to the grid (`enter_eq_ok`), and
what a change of structure or a sort has (`history_restructure`, `grid_sort`).
-/

namespace Spreadsheet

/-- Something done to a sheet. -/
inductive Operation where
  /-- The empty text clears the position. -/
  | enter (col row : Int) (raw : String)
  | undo
  | redo
  | sort (today : Date) (col : Int) (ascending : Bool)
  | restructure (op : Restructuring) (index : Int)
  | addRow
  | addColumn
  | resizeColumn (col : Int) (width : Number)
  | setHidden (col : Int) (hidden : Bool)
  | setFrozenRows (count : Number)
  | setFrozenColumns (count : Number)
  | startSelection (col row : Int)
  | extendSelection (col row : Int)
  | moveSelection (dcol drow : Int)

namespace Operation

/-- What comes of an operation.  One without an answer has done something
unless it fails. -/
def perform (s : Sheet) : Operation → Except Fault (Outcome Bool)
  | enter col row raw => do
      let outcome ← s.enter col row raw
      return ⟨true, outcome.sheet, outcome.events⟩
  | undo => s.undo
  | redo => s.redo
  | sort today col ascending => s.sort today col ascending
  | restructure op index => s.restructure op index
  | addRow => s.addRow
  | addColumn => s.addColumn
  | resizeColumn col width => do return ⟨true, (← s.resizeColumn col width).2, []⟩
  | setHidden col hidden => do return ⟨true, ← s.setHidden col hidden, []⟩
  | setFrozenRows count => do return ⟨true, ← s.setFrozenRows count, []⟩
  | setFrozenColumns count => do return ⟨true, ← s.setFrozenColumns count, []⟩
  | startSelection col row => return ⟨true, s.startSelection col row, []⟩
  | extendSelection col row => return ⟨true, s.extendSelection col row, []⟩
  | moveSelection dcol drow => do return ⟨true, ← s.moveSelection dcol drow, []⟩

/-- The sheet after an operation. -/
def after (s : Sheet) (op : Operation) : Sheet :=
  match op.perform s with
  | .ok outcome => outcome.sheet
  | .error _ => s

/-- The sheet after some operations. -/
def run (s : Sheet) (ops : List Operation) : Sheet := ops.foldl after s

/-- The operation inserts or deletes rows or columns. -/
def IsStructural : Operation → Prop
  | restructure _ _ | addRow | addColumn => True
  | _ => False

/-- The operation concerns the view and the selection only. -/
def IsPresentation : Operation → Prop
  | resizeColumn _ _ | setHidden _ _ | setFrozenRows _ | setFrozenColumns _
  | startSelection _ _ | extendSelection _ _ | moveSelection _ _ => True
  | _ => False

end Operation

section Lemmas

theorem ofInput?_ne_blank
    {raw : String} {cell : Option Cell}
    (h : Cell.ofInput? raw = .ok cell) :
    cell ≠ some .blank := by
  obtain ⟨entry, -, hcell⟩ := bind_eq_ok_iff.1 h
  obtain rfl := Except.ok.inj hcell
  exact Cell.ofTyped?_ne_blank entry

theorem unlessBlank_of_ne
    {cell : Option Cell}
    (h : cell ≠ some .blank) :
    Cell.unlessBlank cell = cell := by
  unfold Cell.unlessBlank
  split
  · exact absurd rfl h
  · rfl

theorem coe_of_ofInts?
    {col row : Int} {r : Reference}
    (h : Reference.ofInts? col row = some r) :
    (r.col : Int) = col ∧ (r.row : Int) = row := by
  unfold Reference.ofInts? at h
  split at h
  · obtain rfl := Option.some.inj h
    simp only
    omega
  · simp at h

end Lemmas

namespace Sheet

section Lemmas

variable {s : Sheet}

/-- A commit that returns has put the typed cell at a position with a label. -/
theorem enter_eq_ok
    {col row : Int} {raw : String} {outcome : Outcome (Option Cell)}
    (h : s.enter col row raw = .ok outcome) :
    ∃ r, Reference.ofInts? col row = some r
      ∧ Cell.ofInput? raw = .ok outcome.result
      ∧ (∃ label, r.label = .ok label)
      ∧ outcome.sheet = { s with grid := s.grid.put r outcome.result true } := by
  obtain ⟨⟨cell, grid⟩, hgrid, h⟩ := bind_eq_ok_iff.1 h
  obtain ⟨label, hlabel, h⟩ := bind_eq_ok_iff.1 h
  obtain rfl := Except.ok.inj h
  obtain ⟨typed, htyped, h⟩ := bind_eq_ok_iff.1 hgrid
  obtain ⟨written, hput, h⟩ := bind_eq_ok_iff.1 h
  obtain ⟨rfl, rfl⟩ := Prod.mk.inj (Except.ok.inj h)
  unfold Grid.putAt at hput
  split at hput
  · next r hr =>
      have hwritten : s.grid.put r typed true = written := by
        simp only at hput
        split at hput
        · obtain ⟨_, -, hput⟩ := bind_eq_ok_iff.1 hput
          exact Except.ok.inj hput
        · exact Except.ok.inj hput
      subst hwritten
      obtain ⟨rfl, rfl⟩ := coe_of_ofInts? hr
      exact ⟨r, hr, htyped, ⟨label, hlabel⟩, rfl⟩
  · simp at hput

/-- A typed cell is put at any position with a label for which there is room. -/
theorem exists_enter_eq_ok
    {r : Reference} {raw label : String} {cell : Option Cell}
    (hcell : Cell.ofInput? raw = .ok cell)
    (hlabel : r.label = .ok label)
    (hroom : s.grid.checkRoom r = .ok ()) :
    ∃ events, s.enter r.col r.row raw
      = .ok ⟨cell, { s with grid := s.grid.put r cell true }, events⟩ := by
  have hput : s.grid.putAt r.col r.row cell true = .ok (s.grid.put r cell true) := by
    unfold Grid.putAt
    simp only [Reference.ofInts?_natCast]
    split
    · rw [bind_of_eq_ok hroom]
      rfl
    · rfl
  have hgrid : s.grid.enterAt r.col r.row raw true = .ok (cell, s.grid.put r cell true) := by
    unfold Grid.enterAt
    rw [bind_of_eq_ok hcell, bind_of_eq_ok hput]
    rfl
  unfold enter
  rw [bind_of_eq_ok hgrid]
  exact ⟨_, bind_of_eq_ok hlabel _⟩

/-- A change of structure that succeeds forgets the history. -/
theorem history_restructure
    {op : Restructuring} {index : Int} {s' : Sheet} {events : List Event}
    (h : s.restructure op index = .ok ⟨true, s', events⟩) :
    s'.grid.history = .empty s.grid.history.limit := by
  obtain ⟨changed, hgrid, h⟩ := bind_eq_ok_iff.1 h
  cases changed with
  | none =>
      obtain ⟨event, -, h⟩ := bind_eq_ok_iff.1 h
      simp [pure, Except.pure] at h
  | some grid =>
      obtain ⟨text, -, h⟩ := bind_eq_ok_iff.1 h
      obtain rfl := congrArg Outcome.sheet (Except.ok.inj h)
      rw [(Restructuring.grid_eq_ok hgrid).2]
      rfl

/-- A change of structure that is refused leaves the sheet. -/
theorem sheet_of_refused
    {op : Restructuring} {index : Int} {s' : Sheet} {events : List Event}
    (h : s.restructure op index = .ok ⟨false, s', events⟩) :
    s' = s := by
  obtain ⟨changed, hgrid, h⟩ := bind_eq_ok_iff.1 h
  cases changed with
  | none =>
      obtain ⟨event, -, h⟩ := bind_eq_ok_iff.1 h
      exact (congrArg Outcome.sheet (Except.ok.inj h)).symm
  | some grid =>
      obtain ⟨text, -, h⟩ := bind_eq_ok_iff.1 h
      simp [pure, Except.pure] at h

/-- A sort that is refused leaves the sheet. -/
theorem sheet_of_sort_refused
    {today : Date} {col : Int} {ascending : Bool} {s' : Sheet} {events : List Event}
    (h : s.sort today col ascending = .ok ⟨false, s', events⟩) :
    s' = s := by
  obtain ⟨changed, hgrid, h⟩ := bind_eq_ok_iff.1 h
  cases changed with
  | none =>
      obtain ⟨event, -, h⟩ := bind_eq_ok_iff.1 h
      exact (congrArg Outcome.sheet (Except.ok.inj h)).symm
  | some grid =>
      obtain ⟨text, -, h⟩ := bind_eq_ok_iff.1 h
      simp [pure, Except.pure] at h

/-- A sort that succeeds forgets the history if it has two rows to sort, and
else leaves the grid. -/
theorem grid_sort
    {today : Date} {col : Int} {ascending : Bool} {s' : Sheet} {events : List Event}
    (h : s.sort today col ascending = .ok ⟨true, s', events⟩) :
    if s.view.frozenRows.toNat + 2 ≤ s.rowCount then
      s'.grid.history = .empty s.grid.history.limit
    else
      s'.grid = s.grid := by
  obtain ⟨changed, hgrid, h⟩ := bind_eq_ok_iff.1 h
  cases changed with
  | none =>
      obtain ⟨event, -, h⟩ := bind_eq_ok_iff.1 h
      simp [pure, Except.pure] at h
  | some grid =>
      obtain ⟨text, -, h⟩ := bind_eq_ok_iff.1 h
      obtain rfl := congrArg Outcome.sheet (Except.ok.inj h)
      have hsort := Grid.sortByColumn?_eq_ok hgrid
      rw [rowCount]
      by_cases hrows : s.view.frozenRows.toNat + 2 ≤ s.grid.rowCount
      · rw [if_pos hrows] at hsort ⊢
        obtain ⟨sorted, -, rfl⟩ := hsort
        rfl
      · rw [if_neg hrows] at hsort ⊢
        exact hsort

end Lemmas

end Sheet
namespace Operation

section Lemmas

variable {s : Sheet} {op : Operation}

theorem after_of_ok
    {outcome : Outcome Bool}
    (h : op.perform s = .ok outcome) :
    op.after s = outcome.sheet := by
  rw [after, h]

theorem after_of_error
    {fault : Fault}
    (h : op.perform s = .error fault) :
    op.after s = s := by
  rw [after, h]

end Lemmas

end Operation
end Spreadsheet
