import Spreadsheet.Grid.Basic

/-!
# Rows and columns

Inserting and deleting whole rows and columns.  An index outside the grid is
refused, and so is deleting the only row or column; an index that is not refused
may still fail where the grid cannot be filled up.  Positions move, so the
recorded edits no longer name the same cells: the history is forgotten.

Results: inserting a row adds one (`rowCount_insertRow?`), deleting one takes
one away (`rowCount_deleteRow?`).
-/

namespace Spreadsheet
namespace Grid

/-- The list with an item inserted before an index. -/
def insertBefore {α : Type} (index : Nat) (x : α) (xs : List α) : List α :=
  xs.take index ++ x :: xs.drop index

/-- The grid with an empty row before an index. -/
def insertRow? (g : Grid) (index : Int) : Option Grid :=
  if index < 0 ∨ g.rowCount < index then
    none
  else
    some { g with
      rows := insertBefore index.toNat (blankRow g.width) g.rows
      history := g.history.clear }

/-- The grid with an empty column before an index. -/
def insertColumn? (g : Grid) (index : Int) : Option Grid :=
  if index < 0 ∨ g.columnCount.less (.int index) then
    none
  else
    some { g with
      rows := g.paddedRows.map (insertBefore index.toNat none)
      history := g.history.clear }

/-- The grid without a row, unless it is the only one. -/
def deleteRow? (g : Grid) (index : Int) : Option Grid :=
  if g.rowCount ≤ 1 ∨ index < 0 ∨ g.rowCount ≤ index then
    none
  else
    some { g with
      rows := g.rows.eraseIdx index.toNat
      history := g.history.clear }

/-- The grid without a column, unless it is the only one. -/
def deleteColumn? (g : Grid) (index : Int) : Option Grid :=
  if !(Number.int 1).less g.columnCount ∨ index < 0 ∨ !(Number.int index).less g.columnCount then
    none
  else
    some { g with
      rows := g.rows.map fun row => row.eraseIdx index.toNat
      history := g.history.clear }

/-- The grid with an empty row before an index, if that can be filled up. -/
def insertRow (g : Grid) (index : Int) : Except Fault (Option Grid) :=
  if index < 0 ∨ g.rowCount < index then
    return none
  else do
    g.checkWidth
    return g.insertRow? index

/-- The grid with an empty column before an index, if all rows reach it or can
be filled up. -/
def insertColumn (g : Grid) (index : Int) : Except Fault (Option Grid) :=
  if index < 0 ∨ g.columnCount.less (.int index) then
    return none
  else do
    if g.rows.any fun row => (Number.int row.length).less g.columnCount then
      g.checkWidth
    return g.insertColumn? index

/-- The grid with an empty row at its end. -/
def addRow (g : Grid) : Except Fault (Option Grid) := g.insertRow g.rowCount

/-- The grid with an empty column at its end. -/
def addColumn (g : Grid) : Except Fault (Option Grid) := do
  g.insertColumn (← g.columnCount.count)

section Lemmas

theorem length_insertBefore
    {α : Type} (index : Nat) (x : α) (xs : List α) :
    (insertBefore index x xs).length = xs.length + 1 := by
  simp only [insertBefore, List.length_append, List.length_take, List.length_cons,
    List.length_drop]
  omega

theorem rowCount_insertRow?
    {g g' : Grid} {index : Int}
    (h : g.insertRow? index = some g') :
    g'.rowCount = g.rowCount + 1 := by
  unfold insertRow? at h
  split at h
  · simp at h
  · obtain rfl := Option.some.inj h
    exact length_insertBefore _ _ _

theorem rowCount_deleteRow?
    {g g' : Grid} {index : Int}
    (h : g.deleteRow? index = some g') :
    g'.rowCount + 1 = g.rowCount := by
  unfold deleteRow? at h
  split at h
  · simp at h
  · next hindex =>
      obtain rfl := Option.some.inj h
      simp only [rowCount] at *
      rw [List.length_eraseIdx]
      split <;> omega

end Lemmas

end Grid
end Spreadsheet
