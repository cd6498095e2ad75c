import Spreadsheet.Proofs.Except
import Spreadsheet.Sheet.Editing

/-!
# What a change of structure does

Each of the four changes asks that the grid has the index, rewrites the rows, and
forgets the history.  What they have in common is said here once.

Results: a change of structure that returns was admitted and gives the rewritten
rows (`grid_eq_ok`), one that is admitted returns where the columns can be
counted out or lines go (`grid_of_admits`), and one that is not is refused
(`grid_of_not_admits`).
-/

namespace Spreadsheet
namespace Restructuring

/-- The grid has the index, and a row or column is left. -/
def Admits (op : Restructuring) (g : Grid) (index : Int) : Prop :=
  match op with
  | insertRow => 0 ≤ index ∧ index ≤ g.rowCount
  | insertColumn => 0 ≤ index ∧ g.columnCount.less (.int index) = false
  | deleteRow => 1 < g.rowCount ∧ 0 ≤ index ∧ index < g.rowCount
  | deleteColumn =>
      (Number.int 1).less g.columnCount = true ∧ 0 ≤ index
        ∧ (Number.int index).less g.columnCount = true

/-- The rows after a change at an index. -/
def rows (op : Restructuring) (g : Grid) (index : Nat) : List Row :=
  match op with
  | insertRow => Grid.insertBefore index (Grid.blankRow g.width) g.rows
  | insertColumn => g.paddedRows.map (Grid.insertBefore index none)
  | deleteRow => g.rows.eraseIdx index
  | deleteColumn => g.rows.map fun row => row.eraseIdx index

section Lemmas

variable {g g' : Grid} {index : Int}

theorem insertRow_eq_ok
    (h : g.insertRow index = .ok (some g')) :
    g.insertRow? index = some g' := by
  unfold Grid.insertRow at h
  split at h
  · simp [pure, Except.pure] at h
  · obtain ⟨_, -, h⟩ := bind_eq_ok_iff.1 h
    exact Except.ok.inj h

theorem insertColumn_eq_ok
    (h : g.insertColumn index = .ok (some g')) :
    g.insertColumn? index = some g' := by
  unfold Grid.insertColumn at h
  split at h
  · simp [pure, Except.pure] at h
  · simp only at h
    split at h
    · obtain ⟨_, -, h⟩ := bind_eq_ok_iff.1 h
      exact Except.ok.inj h
    · exact Except.ok.inj h

/-- A change of structure that returns was admitted, has rewritten the rows and
forgotten the history. -/
theorem grid_eq_ok
    {op : Restructuring}
    (h : op.grid g index = .ok (some g')) :
    op.Admits g index
      ∧ g' = { g with rows := op.rows g index.toNat, history := g.history.clear } := by
  cases op with
  | insertRow =>
      have h := insertRow_eq_ok h
      unfold Grid.insertRow? at h
      split at h
      · simp at h
      · refine ⟨?_, (Option.some.inj h).symm⟩
        show 0 ≤ index ∧ index ≤ g.rowCount
        omega
  | insertColumn =>
      have h := insertColumn_eq_ok h
      unfold Grid.insertColumn? at h
      split at h
      · simp at h
      · next hindex =>
          refine ⟨?_, (Option.some.inj h).symm⟩
          rw [not_or, Int.not_lt, Bool.not_eq_true] at hindex
          exact hindex
  | deleteRow =>
      have h := Except.ok.inj h
      unfold Grid.deleteRow? at h
      split at h
      · simp at h
      · refine ⟨?_, (Option.some.inj h).symm⟩
        show 1 < g.rowCount ∧ 0 ≤ index ∧ index < g.rowCount
        omega
  | deleteColumn =>
      have h := Except.ok.inj h
      unfold Grid.deleteColumn? at h
      split at h
      · simp at h
      · next hindex =>
          refine ⟨?_, (Option.some.inj h).symm⟩
          simp only [Bool.not_eq_true', not_or, Bool.not_eq_false, Int.not_lt] at hindex
          exact hindex

/-- A change that is admitted is made, if the columns can be counted out where
lines come in. -/
theorem grid_of_admits
    {op : Restructuring}
    (hadmits : op.Admits g index)
    (hcount : op.isDeletion = false → ∃ n, g.columnCount.count = .ok n) :
    op.grid g index
      = .ok (some { g with rows := op.rows g index.toNat, history := g.history.clear }) := by
  cases op with
  | insertRow =>
      obtain ⟨n, hn⟩ := hcount rfl
      obtain ⟨hzero, hle⟩ := hadmits
      have hindex : ¬ (index < 0 ∨ (g.rowCount : Int) < index) := by omega
      show g.insertRow index = _
      rw [Grid.insertRow, if_neg hindex, Grid.checkWidth, hn, Grid.insertRow?, if_neg hindex]
      rfl
  | insertColumn =>
      obtain ⟨n, hn⟩ := hcount rfl
      obtain ⟨hzero, hle⟩ := hadmits
      have hindex : ¬ (index < 0 ∨ g.columnCount.less (.int index) = true) := by
        rw [hle]
        simpa using hzero
      show g.insertColumn index = _
      rw [Grid.insertColumn, if_neg hindex, Grid.checkWidth, hn, Grid.insertColumn?,
        if_neg hindex]
      split <;> rfl
  | deleteRow =>
      obtain ⟨hcount, hzero, hlt⟩ := hadmits
      show Except.ok (g.deleteRow? index) = _
      rw [Grid.deleteRow?, if_neg (by omega)]
      rfl
  | deleteColumn =>
      obtain ⟨hcount, hzero, hlt⟩ := hadmits
      show Except.ok (g.deleteColumn? index) = _
      rw [Grid.deleteColumn?, if_neg (by simp [hcount, hlt, hzero])]
      rfl

/-- A change that is not admitted is refused. -/
theorem grid_of_not_admits
    {op : Restructuring}
    (h : ¬ op.Admits g index) :
    op.grid g index = .ok none := by
  cases op with
  | insertRow =>
      have hindex : index < 0 ∨ (g.rowCount : Int) < index := by
        simp only [Admits] at h
        omega
      show g.insertRow index = _
      rw [Grid.insertRow, if_pos hindex]
      rfl
  | insertColumn =>
      have hindex : index < 0 ∨ g.columnCount.less (.int index) = true := by
        simp only [Admits, not_and_or, Int.not_le, Bool.not_eq_false] at h
        exact h
      show g.insertColumn index = _
      rw [Grid.insertColumn, if_pos hindex]
      rfl
  | deleteRow =>
      simp only [Admits] at h
      show Except.ok (g.deleteRow? index) = _
      rw [Grid.deleteRow?, if_pos (by omega)]
  | deleteColumn =>
      have hindex : (!(Number.int 1).less g.columnCount) = true ∨ index < 0
          ∨ (!(Number.int index).less g.columnCount) = true := by
        simpa only [Admits, not_and_or, Int.not_le, Bool.not_eq_true, Bool.not_eq_true'] using h
      show Except.ok (g.deleteColumn? index) = _
      rw [Grid.deleteColumn?, if_pos hindex]

end Lemmas

end Restructuring
end Spreadsheet
