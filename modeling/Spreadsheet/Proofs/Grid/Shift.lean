import Spreadsheet.Proofs.Grid.Width

/-!
# Where cells go when lines come in or go out

When a row or column is inserted, the lines from its place on move one further;
when one is deleted, those behind it move one back.  What stands at a place
afterwards is what stood where its line and column came from, and an inserted
line is empty.

Rows may be shorter than the grid, so an index of the grid may lie beyond the end
of a row.  A deletion then leaves the row, and an insertion fills it up first.

Results: a change adds or takes away one row or none (`length_rows`), and every
position holds the cell of the position that it came from (`getAt?_of_rows`).
-/

namespace Spreadsheet

/-- Where the line at a place was before one was inserted at an index; the one
that was inserted was nowhere. -/
def beforeInsertion? (index i : Int) : Option Int :=
  if i < index then some i
  else if i = index then none
  else some (i - 1)

/-- Where the line at a place was before the one at an index was deleted. -/
def beforeDeletion (index i : Int) : Int := if i < index then i else i + 1

namespace Restructuring

/-- Where the column at a place was before a change at an index. -/
def columnBefore? (op : Restructuring) (index col : Int) : Option Int :=
  match op with
  | insertColumn => beforeInsertion? index col
  | deleteColumn => some (beforeDeletion index col)
  | insertRow | deleteRow => some col

/-- Where the row at a place was before a change at an index. -/
def rowBefore? (op : Restructuring) (index row : Int) : Option Int :=
  match op with
  | insertRow => beforeInsertion? index row
  | deleteRow => some (beforeDeletion index row)
  | insertColumn | deleteColumn => some row

/-- How many rows a change adds. -/
def addedRows : Restructuring → Int
  | insertRow => 1
  | deleteRow => -1
  | insertColumn | deleteColumn => 0

/-- What stands at a place after a change at an index, by what stood at each
place before. -/
def moved (op : Restructuring) (index : Int) (cellAt? : Int → Int → Option Cell)
    (col row : Int) : Option Cell := do
  let c ← op.columnBefore? index col
  let r ← op.rowBefore? index row
  cellAt? c r

end Restructuring

/-- The item of a list at an integer place. -/
def itemAt? {α : Type} (xs : List α) (i : Int) : Option α :=
  if i < 0 then none else xs[i.toNat]?

namespace Grid

section Lemmas

/-! Lists. -/

section Items

variable {α β : Type} {xs : List α} {index : Int}

theorem insertBefore_eq_insertIdx
    {index : Nat}
    (h : index ≤ xs.length)
    (x : α) :
    insertBefore index x xs = xs.insertIdx index x := by
  unfold insertBefore
  induction xs generalizing index with
  | nil =>
      obtain rfl : index = 0 := by simpa using h
      rfl
  | cons y xs ih =>
      cases index with
      | zero => rfl
      | succ index =>
          rw [List.insertIdx_succ_cons, ← ih (Nat.le_of_succ_le_succ h)]
          rfl

/-- What is inserted and then deleted leaves no trace. -/
theorem eraseIdx_insertBefore
    {index : Nat}
    (h : index ≤ xs.length)
    (x : α) :
    (insertBefore index x xs).eraseIdx index = xs := by
  rw [insertBefore_eq_insertIdx h, List.eraseIdx_insertIdx_self]

theorem itemAt?_map
    (f : α → β) (xs : List α) (i : Int) :
    itemAt? (xs.map f) i = (itemAt? xs i).map f := by
  unfold itemAt?
  split
  · rfl
  · exact List.getElem?_map

theorem itemAt?_insertBefore
    (hindex : 0 ≤ index)
    (h : index ≤ xs.length)
    (x : α) (i : Int) :
    itemAt? (insertBefore index.toNat x xs) i
      = if i = index then some x else (beforeInsertion? index i).bind (itemAt? xs) := by
  rw [insertBefore_eq_insertIdx (by omega)]
  unfold itemAt? beforeInsertion?
  rcases lt_trichotomy i index with hlt | rfl | hgt
  · rw [if_neg hlt.ne, if_pos hlt]
    by_cases hneg : i < 0
    · simp [hneg]
    · simp only [if_neg hneg, Option.bind_some]
      rw [List.getElem?_insertIdx_of_lt (by omega)]
  · rw [if_pos rfl, if_neg (by omega), List.getElem?_insertIdx_self, if_pos (by omega)]
  · rw [if_neg hgt.ne', if_neg (by omega), if_neg hgt.ne', if_neg (by omega), Option.bind_some,
      if_neg (by omega), List.getElem?_insertIdx_of_gt (by omega)]
    congr 1
    omega

theorem itemAt?_eraseIdx
    (hindex : 0 ≤ index)
    (xs : List α) (i : Int) :
    itemAt? (xs.eraseIdx index.toNat) i = itemAt? xs (beforeDeletion index i) := by
  unfold itemAt? beforeDeletion
  by_cases hneg : i < 0
  · simp [hneg, hneg.trans_le hindex]
  · by_cases hlt : i < index
    · rw [if_neg hneg, if_pos hlt, if_neg hneg, List.getElem?_eraseIdx_of_lt (by omega)]
    · rw [if_neg hneg, if_neg hlt, if_neg (by omega), List.getElem?_eraseIdx_of_ge (by omega)]
      congr 1
      omega

end Items

/-! Positions. -/

section Positions

variable {g : Grid} {index : Int}

theorem getAt?_eq
    (g : Grid) (col row : Int) :
    g.getAt? col row = ((itemAt? g.rows row).bind fun cells => itemAt? cells col).join := by
  unfold getAt? Reference.ofInts? itemAt?
  by_cases hrow : row < 0
  · rw [if_neg (by omega), if_pos hrow]
    rfl
  · by_cases hcol : col < 0
    · rw [if_neg (by omega), if_neg hrow]
      simp [hcol]
    · rw [if_pos (by omega), if_neg hrow]
      simp [hcol, get?_eq]

theorem itemAt?_blankRow
    (width : Nat) (i : Int) :
    (itemAt? (blankRow width) i).join = none := by
  unfold itemAt? blankRow
  split
  · rfl
  · rw [List.getElem?_replicate]
    split <;> rfl

theorem itemAt?_padded
    (width : Nat) (row : Row) (i : Int) :
    (itemAt? (padded width row) i).join = (itemAt? row i).join := by
  unfold itemAt?
  split
  · rfl
  · exact getElem?_padded row width _

theorem getAt?_paddedRows
    (g : Grid) (col row : Int) :
    ((itemAt? g.paddedRows row).bind fun cells => itemAt? cells col).join = g.getAt? col row := by
  rw [getAt?_eq, paddedRows, itemAt?_map]
  cases itemAt? g.rows row with
  | none => rfl
  | some cells => exact itemAt?_padded g.width cells col

/-- Columns that can be counted out reach no further than the full rows. -/
theorem index_le_width
    (hadmits : Restructuring.insertColumn.Admits g index)
    (hcount : ∃ n, g.columnCount.count = .ok n) :
    index ≤ g.width := by
  obtain ⟨n, hn⟩ := hcount
  have hindex := hadmits.2
  rw [columnCount_of_count hn, Number.less_int, decide_eq_false_iff_not] at hindex
  omega

/-- A change adds or takes away as many rows as it says. -/
theorem length_rows
    {op : Restructuring}
    (hadmits : op.Admits g index) :
    ((op.rows g index.toNat).length : Int) = g.rowCount + op.addedRows := by
  unfold rowCount
  cases op with
  | insertRow =>
      rw [Restructuring.rows, length_insertBefore]
      rfl
  | insertColumn => simp [Restructuring.rows, paddedRows, Restructuring.addedRows]
  | deleteRow =>
      obtain ⟨hcount, hzero, hlt⟩ := hadmits
      unfold rowCount at hcount hlt
      rw [Restructuring.rows, List.length_eraseIdx, if_pos (by omega), Restructuring.addedRows]
      omega
  | deleteColumn => simp [Restructuring.rows, Restructuring.addedRows]

/-- Afterwards a position holds the cell of the position that it came from. -/
theorem getAt?_of_rows
    {op : Restructuring} {g' : Grid}
    (hadmits : op.Admits g index)
    (hcolumn : op = .insertColumn → index ≤ g.width)
    (hrows : g'.rows = op.rows g index.toNat)
    (col row : Int) :
    g'.getAt? col row = op.moved index g.getAt? col row := by
  rw [getAt?_eq, hrows]
  cases op with
  | insertRow =>
      obtain ⟨hzero, hle⟩ := hadmits
      rw [Restructuring.rows, itemAt?_insertBefore hzero hle]
      show _ = (beforeInsertion? index row).bind fun r => g.getAt? col r
      split
      · next heq =>
          subst heq
          simp [beforeInsertion?, itemAt?_blankRow]
      · cases beforeInsertion? index row with
        | none => rfl
        | some r => rw [Option.bind_some, Option.bind_some, getAt?_eq]
  | insertColumn =>
      have hle := hcolumn rfl
      rw [Restructuring.rows, itemAt?_map]
      show _ = (beforeInsertion? index col).bind fun c => g.getAt? c row
      cases hfilled : itemAt? g.paddedRows row with
      | none =>
          have hnone : ∀ c, g.getAt? c row = none := fun c => by
            rw [← getAt?_paddedRows, hfilled]
            rfl
          cases beforeInsertion? index col with
          | none => rfl
          | some c => exact (hnone c).symm
      | some cells =>
          have hlength : cells.length = g.width := by
            unfold itemAt? at hfilled
            split at hfilled
            · cases hfilled
            · exact length_of_mem_paddedRows (List.mem_of_getElem? hfilled)
          have hcell : ∀ c, g.getAt? c row = (itemAt? cells c).join := fun c => by
            rw [← getAt?_paddedRows, hfilled]
            rfl
          simp only [Option.map_some, Option.bind_some, hcell]
          rw [itemAt?_insertBefore hadmits.1 (by omega)]
          split
          · next heq =>
              subst heq
              simp [beforeInsertion?]
          · cases beforeInsertion? index col <;> rfl
  | deleteRow =>
      rw [Restructuring.rows, itemAt?_eraseIdx hadmits.2.1]
      exact (getAt?_eq g col _).symm
  | deleteColumn =>
      rw [Restructuring.rows, itemAt?_map]
      show _ = g.getAt? (beforeDeletion index col) row
      rw [getAt?_eq]
      cases itemAt? g.rows row with
      | none => rfl
      | some cells => exact congrArg Option.join (itemAt?_eraseIdx hadmits.2.1 cells col)

end Positions

end Lemmas

end Grid
end Spreadsheet
