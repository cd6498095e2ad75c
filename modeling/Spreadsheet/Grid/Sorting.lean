import Spreadsheet.Grid.Basic

/-!
# Sorting

The rows below the frozen ones are ordered by one column: by the numbers that
arithmetic sees there, if any of them is not zero, and else by the text offered
for editing.  Rows of equal keys keep their order in both directions.

Result: sorting only permutes (`perm_sortedBy`).
-/

namespace Spreadsheet

namespace Binary64

/-- The order of sort keys: the undefined number is the greatest. -/
def sortsBefore (x y : Binary64) : Bool :=
  match x.place?, y.place? with
  | _, none => true
  | none, some _ => false
  | some p, some q => p.compare q != .gt

end Binary64

/-- Items in the order of their keys, ties in their given order. -/
def sortedBy {κ α : Type} (le : κ → κ → Bool) (ascending : Bool) (items : List (κ × α)) :
    List (κ × α) :=
  items.mergeSort fun a b => if ascending then le a.1 b.1 else le b.1 a.1

namespace Grid

/-- The binary number of a cell for sorting; zero if there is none. -/
def sortKey (src : Formula.Source) (today : Date) (r : Reference) :
    StateM Formula.Memo Binary64 := do
  match ← (src.numeric today r).run with
  | .ok x =>
      match x.toBinary64 with
      | .ok key => return key
      | .error _ => return Binary64.zero
  | .error _ => return Binary64.zero

/-- The numbers of a column, from one row on, for sorting. -/
def sortKeys (g : Grid) (today : Date) (col first count : Nat) : List Binary64 :=
  (((List.range' first count).mapM fun row => sortKey g.source today ⟨col, row⟩).run []).1

/-- The texts of a column for sorting. -/
def sortTexts (col : Nat) (rows : List Row) : Except Fault (List String) :=
  rows.mapM fun row => Cell.inputTextAt row[col]?.join

/-- Rows in the order of their texts. -/
def sortByText (ascending : Bool) (col : Nat) (rows : List Row) : Except Fault (List Row) := do
  let keys ← sortTexts col rows
  return (sortedBy (fun a b => decide (a ≤ b)) ascending (keys.zip rows)).map (·.2)

/-- The grid sorted by a column; none if there is no such column.  Fewer than
two rows to sort leave everything as it is, the history included. -/
def sortByColumn? (g : Grid) (today : Date) (col : Int) (ascending : Bool)
    (frozenRows : Int) : Except Fault (Option Grid) :=
  if col < 0 ∨ !(Number.int col).less g.columnCount then
    .ok none
  else
    let frozen := frozenRows.toNat
    let head := g.rows.take frozen
    let body := g.rows.drop frozen
    if body.length < 2 then
      .ok (some g)
    else do
      let keys := g.sortKeys today col.toNat frozen body.length
      let sorted ←
        if keys.any fun key => !(Number.float key).isZero then
          pure ((sortedBy Binary64.sortsBefore ascending (keys.zip body)).map (·.2))
        else
          sortByText ascending col.toNat body
      return some { g with rows := head ++ sorted, history := g.history.clear }

section Lemmas

/-- Sorting neither loses nor adds an item. -/
theorem perm_sortedBy
    {κ α : Type} (le : κ → κ → Bool) (ascending : Bool) (items : List (κ × α)) :
    (sortedBy le ascending items).Perm items :=
  List.mergeSort_perm _ _

end Lemmas

end Grid
end Spreadsheet
