import Mathlib.Order.MinMax
import Mathlib.Order.Nat
import Spreadsheet.Proofs.Grid.Contents
import Spreadsheet.Proofs.Number.Order

/-!
# How wide a grid is

The columns of a grid are as many as its widest row has positions, and no fewer
than it must have.  What the widest row is, is said through its bounds: it is at
most so wide if every row is.

Results: how wide a grid is after a write (`width_write`) or an insertion
(`width_insertRow`, `width_insertColumn`), and how many columns it has after one
came in or went out (`columnCount_insertColumn`, `columnCount_deleteColumn`).
-/

namespace Spreadsheet
namespace Grid

/-- How many columns a grid has at least, if these can be counted out. -/
def floor (g : Grid) : Nat :=
  match g.minColumns with
  | .int i => i.toNat
  | .float _ => 0

/-- The position lies inside a stored row. -/
def Stores (g : Grid) (r : Reference) : Prop :=
  ∃ row, g.rows[r.row]? = some row ∧ r.col < row.length

section Lemmas

/-! The widest of some rows. -/

section WidestRow

variable {rows : List Row} {n : Nat}

theorem widestRow_le_iff :
    widestRow rows ≤ n ↔ ∀ row ∈ rows, row.length ≤ n := by
  constructor
  · intro h row hrow
    exact (length_le_widestRow hrow).trans h
  · have hfold : ∀ (rows : List Row) (start : Nat), start ≤ n → (∀ row ∈ rows, row.length ≤ n) →
        rows.foldl (fun width row => max width row.length) start ≤ n := by
      intro rows
      induction rows with
      | nil => exact fun start hstart _ => hstart
      | cons row rows ih =>
          intro start hstart h
          refine ih (max start row.length) ?_ fun row hrow => h row (List.mem_cons_of_mem _ hrow)
          exact max_le hstart (h row (by simp))
    exact hfold rows 0 (Nat.zero_le n)

/-- Only the lengths of the rows count, whatever their order. -/
theorem widestRow_congr
    {rows' : List Row}
    (h : ∀ n, (∀ row ∈ rows', row.length ≤ n) ↔ ∀ row ∈ rows, row.length ≤ n) :
    widestRow rows' = widestRow rows :=
  eq_of_forall_ge_iff fun n => by rw [widestRow_le_iff, widestRow_le_iff, h n]

theorem widestRow_of_perm
    {rows' : List Row}
    (h : rows'.Perm rows) :
    widestRow rows' = widestRow rows :=
  widestRow_congr fun n => by simp [h.mem_iff]

/-- The row among the others does not matter where it stands. -/
theorem widestRow_insertBefore
    (index : Nat) (row : Row) (rows : List Row) :
    widestRow (insertBefore index row rows) = max row.length (widestRow rows) := by
  have hmem : ∀ r, r ∈ insertBefore index row rows ↔ r = row ∨ r ∈ rows := by
    intro r
    constructor
    · exact mem_insertBefore
    · rw [insertBefore, List.mem_append, List.mem_cons]
      rintro (rfl | hr)
      · exact .inr (.inl rfl)
      · rw [← List.take_append_drop index rows, List.mem_append] at hr
        rcases hr with hr | hr
        · exact .inl hr
        · exact .inr (.inr hr)
  refine eq_of_forall_ge_iff fun n => ?_
  rw [widestRow_le_iff, max_le_iff, widestRow_le_iff]
  simp [hmem]

theorem exists_length_eq_widestRow
    (h : rows ≠ []) :
    ∃ row ∈ rows, row.length = widestRow rows := by
  by_contra hnone
  push Not at hnone
  have hlt : ∀ row ∈ rows, row.length < widestRow rows := fun row hrow =>
    lt_of_le_of_ne (length_le_widestRow hrow) (hnone row hrow)
  obtain ⟨row, hrow⟩ := List.exists_mem_of_ne_nil rows h
  have hpos := hlt row hrow
  have hle : widestRow rows ≤ widestRow rows - 1 :=
    widestRow_le_iff.2 fun row hrow => by
      have := hlt row hrow
      omega
  omega

theorem widestRow_of_length
    (hrows : rows ≠ [])
    (h : ∀ row ∈ rows, row.length = n) :
    widestRow rows = n := by
  obtain ⟨row, hrow, hlength⟩ := exists_length_eq_widestRow hrows
  rw [← hlength, h row hrow]

/-- What makes all rows shorter or longer alike does so with the widest one. -/
theorem widestRow_map
    {f : Row → Row}
    (length : Nat → Nat)
    (hrows : rows ≠ [])
    (hf : ∀ row, (f row).length = length row.length)
    (hmono : Monotone length) :
    widestRow (rows.map f) = length (widestRow rows) := by
  obtain ⟨row, hrow, hlength⟩ := exists_length_eq_widestRow hrows
  refine le_antisymm (widestRow_le_iff.2 ?_) ?_
  · intro long hlong
    obtain ⟨short, hshort, rfl⟩ := List.mem_map.1 hlong
    rw [hf]
    exact hmono (length_le_widestRow hshort)
  · rw [← hlength, ← hf]
    exact length_le_widestRow (List.mem_map_of_mem hrow)

end WidestRow

/-! The width of a grid. -/

section Width

variable {g g' : Grid}

theorem width_eq
    (g : Grid) :
    g.width = max g.floor (widestRow g.rows) := by
  unfold width floor
  cases g.minColumns with
  | int i => rfl
  | float x => exact (Nat.zero_max _).symm

theorem length_le_width
    {row : Row}
    (h : row ∈ g.rows) :
    row.length ≤ g.width := by
  rw [width_eq]
  exact le_max_of_le_right (length_le_widestRow h)

theorem floor_of_minColumns
    (h : g'.minColumns = g.minColumns) :
    g'.floor = g.floor := by
  rw [floor, floor, h]

theorem width_of_widestRow
    (hmin : g'.minColumns = g.minColumns)
    (h : widestRow g'.rows = widestRow g.rows) :
    g'.width = g.width := by
  rw [width_eq, width_eq, floor_of_minColumns hmin, h]

/-- Grids of one width and one least width have as many columns. -/
theorem columnCount_of_width
    (hmin : g'.minColumns = g.minColumns)
    (h : g'.width = g.width) :
    g'.columnCount = g.columnCount := by
  cases hleast : g.minColumns with
  | int i => rw [columnCount_of_int hleast, columnCount_of_int (hmin.trans hleast), h]
  | float x =>
      simp only [width, hmin, hleast] at h
      rw [columnCount, columnCount, hmin, h]

/-- Columns that can be counted out are as many as a full row has positions. -/
theorem columnCount_of_count
    {n : Nat}
    (h : g.columnCount.count = .ok n) :
    g.columnCount = .int g.width := by
  cases hleast : g.minColumns with
  | int i => exact columnCount_of_int hleast
  | float x =>
      have hcount : g.columnCount = .float x ∨ g.columnCount = .int (widestRow g.rows) := by
        rw [columnCount, hleast]
        unfold Number.greatest
        simp only [List.foldl_cons, List.foldl_nil]
        split
        · exact .inr rfl
        · exact .inl rfl
      rcases hcount with hcount | hcount
      · rw [hcount] at h
        cases h
      · rw [hcount, width, hleast]

end Width

/-! Stored positions. -/

section Write

variable {g : Grid} {r : Reference} {cell : Option Cell}

theorem length_writeRow
    (row : Row) (col : Nat) (cell : Option Cell) :
    (writeRow row col cell).length = max row.length (col + 1) := by
  rw [writeRow, List.length_set, length_padded]

theorem getElem?_growRows_of_lt
    {rows : List Row} {i : Nat}
    (h : i < rows.length)
    (index width : Nat) :
    (growRows rows index width)[i]? = rows[i]? := by
  unfold growRows
  split
  · rfl
  · rw [List.getElem?_append_left h]

theorem stores_of_get?
    {g : Grid} {r : Reference}
    (h : g.get? r ≠ none) :
    g.Stores r := by
  rw [get?_eq] at h
  cases hrow : g.rows[r.row]? with
  | none => simp [hrow] at h
  | some row =>
      refine ⟨row, hrow, ?_⟩
      by_contra hcol
      rw [Nat.not_lt] at hcol
      simp [hrow, List.getElem?_eq_none hcol] at h

theorem Stores.lt
    {g : Grid} {r : Reference}
    (h : g.Stores r) :
    r.row < g.rowCount ∧ r.col < g.width := by
  obtain ⟨row, hrow, hcol⟩ := h
  obtain ⟨hlt, -⟩ := List.getElem?_eq_some_iff.1 hrow
  exact ⟨hlt, Nat.lt_of_lt_of_le hcol (length_le_width (List.mem_of_getElem? hrow))⟩

/-- Writing takes no position away. -/
theorem Stores.write
    {s : Reference}
    (h : g.Stores s)
    (r : Reference) (cell : Option Cell) :
    (g.write r cell).Stores s := by
  obtain ⟨row, hrow, hcol⟩ := h
  have hlt : s.row < g.rows.length := (List.getElem?_eq_some_iff.1 hrow).1
  unfold Grid.write
  split
  · exact ⟨row, hrow, hcol⟩
  · unfold Stores
    rw [List.getElem?_modify, getElem?_growRows_of_lt hlt, hrow]
    by_cases heq : r.row = s.row
    · refine ⟨writeRow row r.col cell, by simp [heq], ?_⟩
      rw [length_writeRow]
      omega
    · exact ⟨row, by simp [heq], hcol⟩

/-- A position that a cell was put at or taken from is stored. -/
theorem stores_write_self
    (h : cell ≠ none ∨ g.get? r ≠ none) :
    (g.write r cell).Stores r := by
  by_cases hget : g.get? r = none
  · refine stores_of_get? ?_
    rw [get?_write_self]
    exact h.resolve_right (not_not_intro hget)
  · exact (stores_of_get? hget).write r cell

theorem lt_widestRow_of_stores
    (h : g.Stores r) :
    r.col < widestRow g.rows := by
  obtain ⟨row, hrow, hcol⟩ := h
  exact hcol.trans_le (length_le_widestRow (List.mem_of_getElem? hrow))

theorem minColumns_write
    (g : Grid) (r : Reference) (cell : Option Cell) :
    (g.write r cell).minColumns = g.minColumns := by
  unfold write
  split <;> rfl

theorem rows_write
    (h : cell ≠ none ∨ g.get? r ≠ none) :
    (g.write r cell).rows
      = (growRows g.rows r.row g.width).modify r.row fun row => writeRow row r.col cell := by
  have hchanges : ¬ (cell.isNone && (g.get? r).isNone) = true := by
    simp only [Bool.and_eq_true, Option.isNone_iff_eq_none, not_and_or]
    exact h
  rw [write, if_neg hchanges]

/-- A write that changes something lengthens no row beyond what is needed. -/
theorem width_write
    (h : cell ≠ none ∨ g.get? r ≠ none) :
    (g.write r cell).width = max g.width (r.col + 1) := by
  have hwidest : widestRow g.rows ≤ widestRow (g.write r cell).rows := by
    refine widestRow_le_iff.2 fun row hrow => ?_
    obtain ⟨i, hi⟩ := List.mem_iff_getElem?.1 hrow
    by_contra hlong
    have hstored : g.Stores ⟨widestRow (g.write r cell).rows, i⟩ := ⟨row, hi, not_le.1 hlong⟩
    exact lt_irrefl _ (lt_widestRow_of_stores (hstored.write r cell))
  have hcol := lt_widestRow_of_stores (stores_write_self h)
  refine le_antisymm ?_ (max_le ?_ ?_)
  · rw [width_eq, floor_of_minColumns (minColumns_write g r cell), max_le_iff]
    refine ⟨le_max_of_le_left ?_, widestRow_le_iff.2 fun row hrow => ?_⟩
    · rw [width_eq]
      exact le_max_left _ _
    · rw [rows_write h] at hrow
      have hgrown : ∀ row ∈ growRows g.rows r.row g.width, row.length ≤ g.width := by
        intro row hrow
        unfold growRows at hrow
        split at hrow
        · exact length_le_width hrow
        · rcases List.mem_append.1 hrow with hrow | hrow
          · exact length_le_width hrow
          · rw [List.eq_of_mem_replicate hrow, blankRow, List.length_replicate]
      rcases mem_modify hrow with hrow | ⟨old, hold, rfl⟩
      · exact le_max_of_le_left (hgrown row hrow)
      · rw [length_writeRow]
        exact max_le_max_right _ (hgrown old hold)
  · rw [width_eq, width_eq (g.write r cell), floor_of_minColumns (minColumns_write g r cell)]
    exact max_le_max_left _ hwidest
  · rw [width_eq]
    exact le_max_of_le_right hcol

theorem rowCount_write
    (h : cell ≠ none ∨ g.get? r ≠ none) :
    (g.write r cell).rowCount = max g.rowCount (r.row + 1) := by
  rw [rowCount, rows_write h, List.length_modify, length_growRows, rowCount]

end Write

/-! Changes of structure. -/

section Structure

variable {g g' : Grid} {index : Nat} (hmin : g'.minColumns = g.minColumns)

include hmin in
theorem width_insertRow
    (h : g'.rows = insertBefore index (blankRow g.width) g.rows) :
    g'.width = g.width := by
  have hfloor : g.floor ≤ g.width := width_eq g ▸ le_max_left _ _
  have hwidest : widestRow g.rows ≤ g.width := width_eq g ▸ le_max_right _ _
  rw [width_eq g', h, widestRow_insertBefore, blankRow, List.length_replicate,
    floor_of_minColumns hmin, max_eq_left hwidest, max_eq_right hfloor]

include hmin in
theorem width_insertColumn
    (hrows : g.rows ≠ [])
    (h : g'.rows = g.paddedRows.map (insertBefore index none)) :
    g'.width = g.width + 1 := by
  have hfloor : g.floor ≤ g.width := width_eq g ▸ le_max_left _ _
  have hwidest : widestRow g'.rows = g.width + 1 := by
    rw [h]
    refine widestRow_of_length (by simpa [paddedRows] using hrows) fun row hrow => ?_
    obtain ⟨filled, hfilled, rfl⟩ := List.mem_map.1 hrow
    rw [length_insertBefore, length_of_mem_paddedRows hfilled]
  rw [width_eq, hwidest, floor_of_minColumns hmin, max_eq_right]
  exact hfloor.trans (Nat.le_succ _)

theorem widestRow_deleteColumn
    (hrows : g.rows ≠ [])
    (h : g'.rows = g.rows.map fun row => row.eraseIdx index) :
    widestRow g'.rows
      = if index < widestRow g.rows then widestRow g.rows - 1 else widestRow g.rows := by
  rw [h]
  refine widestRow_map (fun n => if index < n then n - 1 else n) hrows ?_ ?_
  · intro row
    exact List.length_eraseIdx ..
  · intro m n hmn
    simp only
    split <;> split <;> omega

include hmin in
/-- The columns of a grid that is no narrower can be counted out as well. -/
theorem columnCount_of_width_le
    (hcount : g.columnCount = .int g.width)
    (hle : g.width ≤ g'.width) :
    g'.columnCount = .int g'.width := by
  cases hleast : g.minColumns with
  | int i => exact columnCount_of_int (hmin.trans hleast)
  | float x =>
      simp only [width, hmin, hleast] at hcount hle ⊢
      rw [columnCount, hleast, Number.greatest_eq] at hcount
      have hless : (Number.float x).less (.int (widestRow g.rows)) = true := by
        by_contra hnot
        rw [if_neg hnot] at hcount
        cases hcount
      rw [columnCount, hmin, hleast, Number.greatest_eq, if_pos]
      exact Number.less_int_of_le hless (by omega)

include hmin in
/-- A column that comes in is one column more. -/
theorem columnCount_insertColumn
    (hrows : g.rows ≠ [])
    (hcount : g.columnCount = .int g.width)
    (h : g'.rows = g.paddedRows.map (insertBefore index none)) :
    g'.columnCount = .int (g.width + 1) := by
  have hwidth := width_insertColumn hmin hrows h
  rw [columnCount_of_width_le hmin hcount (by omega), hwidth]
  rfl

end Structure

/-- A column that goes is one column less, down to the least width. -/
theorem columnCount_deleteColumn
    {g g' : Grid} {index : Int}
    (hmin : g'.minColumns = g.minColumns)
    (hrows : g.rows ≠ [])
    (hadmits : Restructuring.deleteColumn.Admits g index)
    (h : g'.rows = g.rows.map fun row => row.eraseIdx index.toNat) :
    ∃ n, g.columnCount.sub (.int 1) = .ok n
      ∧ g'.columnCount = Number.greatest g.minColumns [n] := by
  obtain ⟨hone, hzero, hlt⟩ := hadmits
  have hafter : g'.columnCount = Number.greatest g.minColumns
      [.int (if index.toNat < widestRow g.rows then widestRow g.rows - 1
        else widestRow g.rows : Nat)] := by
    rw [columnCount, hmin, widestRow_deleteColumn hrows h]
  rw [hafter]
  cases hleast : g.minColumns with
  | int i =>
      rw [columnCount_of_int hleast, Number.less_int, decide_eq_true_eq] at hone hlt
      refine ⟨.int (g.width - 1), by rw [columnCount_of_int hleast]; rfl, ?_⟩
      simp only [width, hleast] at hone hlt ⊢
      simp only [Number.greatest_eq, Number.less_int, decide_eq_true_eq]
      split <;> split <;> split <;> congr 1 <;> omega
  | float x =>
      have hbefore : g.columnCount = if (Number.float x).less (.int (widestRow g.rows)) = true
          then .int (widestRow g.rows) else .float x := by
        rw [columnCount, hleast, Number.greatest_eq]
      by_cases hless : (Number.float x).less (.int (widestRow g.rows)) = true
      · rw [if_pos hless] at hbefore
        rw [hbefore, Number.less_int, decide_eq_true_eq] at hone hlt
        refine ⟨.int (widestRow g.rows - 1), by rw [hbefore]; rfl, ?_⟩
        have hshorter : ((widestRow g.rows - 1 : Nat) : Int) = widestRow g.rows - 1 := by omega
        rw [if_pos (by omega), hshorter]
      · rw [if_neg hless] at hbefore
        rw [hbefore] at hone ⊢
        obtain ⟨y, hsub, hle⟩ := Number.exists_sub_one hone
        refine ⟨.float y, hsub, ?_⟩
        rw [Number.greatest_eq, Number.greatest_eq, hle, if_neg, if_neg (by simp)]
        intro hgreater
        refine hless (Number.less_int_of_le hgreater ?_)
        split <;> omega

end Lemmas

end Grid
end Spreadsheet
