import Mathlib.Data.List.InsertIdx
import Spreadsheet.Proofs.Grid.Normal
import Spreadsheet.Proofs.Grid.Shift

/-!
# Grids that differ in padding only

The rows of a grid may be shorter than it is wide.  Two grids are alike if they
are the same once filled up; then they have the same cells, the same size, and
the same formulas, and so cannot be told apart by anything that is shown or
stored.

What is done to alike grids leaves them alike, with one exception: a deletion may
take the only row that is as long as the grid is wide, and then a grid of short
rows gets narrower, and one of filled rows does not.

Results: a grid is covered by what its filled rows make (`covers_of_rows`),
formulas see the same of alike grids (`Alike.source`), and these stay alike when a
cell is put (`Covers.put`), a line comes in or goes out (`Covers.restructure`), or
the rows are sorted (`Alike.sort`).
-/

namespace Spreadsheet
namespace Grid

/-- The grids are the same once filled up. -/
structure Alike (g g' : Grid) : Prop where
  rows : g'.paddedRows = g.paddedRows
  minColumns : g'.minColumns = g.minColumns

/-- How many positions a row has; none if there is no such row. -/
def rowLength (g : Grid) (i : Nat) : Nat := ((g.rows[i]?).map List.length).getD 0

/-- The grids are alike, and the rows of the second are no shorter. -/
structure Covers (g g' : Grid) : Prop extends g.Alike g' where
  rowLength : ∀ i, g.rowLength i ≤ g'.rowLength i

section Lemmas

variable {g g' : Grid}

theorem rowCount_paddedRows
    (g : Grid) :
    g.paddedRows.length = g.rowCount := by
  rw [paddedRows, List.length_map, rowCount]

/-- The positions of a padded grid are those of the grid. -/
theorem positions_paddedRows
    (g : Grid) (p : Cell → Bool) :
    positions { g with rows := g.paddedRows } p = g.positions p := by
  unfold positions
  rw [paddedRows, List.zipIdx_map, List.flatMap_map]
  refine List.flatMap_congr ?_
  rintro ⟨row, y⟩ -
  show List.filterMap _ (List.zipIdx (row ++ blankRow (g.width - row.length))) = _
  rw [List.zipIdx_append, List.filterMap_append]
  refine (congrArg (_ ++ ·) ?_).trans (List.append_nil _)
  rw [List.filterMap_eq_nil_iff]
  rintro ⟨cell, x⟩ hmem
  obtain rfl : cell = none := List.eq_of_mem_replicate (List.fst_mem_of_mem_zipIdx hmem)
  rfl

theorem positions_of_rows
    (h : g'.rows = g.rows) :
    g'.positions = g.positions := by
  unfold positions
  rw [h]

theorem get?_eq_paddedRows
    (g : Grid) (r : Reference) :
    g.get? r = (g.paddedRows[r.row]?.bind fun row => row[r.col]?).join := by
  rw [get?_eq, paddedRows, List.getElem?_map]
  cases g.rows[r.row]? with
  | none => rfl
  | some row => exact (getElem?_padded row g.width r.col).symm

/-- Grids of the same size and cells are alike. -/
theorem alike_of_cells
    (hmin : g'.minColumns = g.minColumns)
    (hcount : g'.rowCount = g.rowCount)
    (hwidth : g'.width = g.width)
    (hcell : ∀ r, g'.get? r = g.get? r) :
    g.Alike g' := by
  refine ⟨List.ext_getElem ?_ fun y hy' hy => ?_, hmin⟩
  · rw [rowCount_paddedRows, rowCount_paddedRows, hcount]
  · have hlength' := length_of_mem_paddedRows (List.getElem_mem hy')
    have hlength := length_of_mem_paddedRows (List.getElem_mem hy)
    refine List.ext_getElem (by omega) fun x hx' hx => ?_
    have heq := hcell ⟨x, y⟩
    rw [get?_eq_paddedRows, get?_eq_paddedRows] at heq
    simpa [List.getElem?_eq_getElem hy', List.getElem?_eq_getElem hy,
      List.getElem?_eq_getElem hx', List.getElem?_eq_getElem hx] using heq

namespace Alike

theorem refl
    (g : Grid) :
    g.Alike g :=
  ⟨rfl, rfl⟩

variable (h : g.Alike g')

include h

theorem rowCount :
    g'.rowCount = g.rowCount := by
  rw [← rowCount_paddedRows, ← rowCount_paddedRows, h.rows]

theorem rows_ne_nil
    (hrows : g.rows ≠ []) :
    g'.rows ≠ [] := by
  rw [← List.length_pos_iff] at hrows ⊢
  have hcount : g'.rows.length = g.rows.length := h.rowCount
  omega

theorem get?
    (r : Reference) :
    g'.get? r = g.get? r := by
  rw [get?_eq_paddedRows, get?_eq_paddedRows, h.rows]

theorem width :
    g'.width = g.width := by
  rcases List.eq_nil_or_concat' g.paddedRows with hnil | ⟨_, row, hconcat⟩
  · have hrows : g.rows = [] := List.map_eq_nil_iff.1 hnil
    have hrows' : g'.rows = [] := List.map_eq_nil_iff.1 (h.rows.trans hnil)
    rw [width_eq, width_eq, floor_of_minColumns h.minColumns, hrows, hrows']
  · have hrow : row ∈ g.paddedRows := by simp [hconcat]
    have hrow' : row ∈ g'.paddedRows := h.rows ▸ hrow
    rw [← length_of_mem_paddedRows hrow, ← length_of_mem_paddedRows hrow']

theorem columnCount :
    g'.columnCount = g.columnCount :=
  columnCount_of_width h.minColumns h.width

/-- Formulas see the same of both. -/
theorem source :
    g'.source = g.source := by
  have hcell : g'.get? = g.get? := funext h.get?
  have hpadded : positions { g' with rows := g'.paddedRows }
      = positions { g with rows := g.paddedRows } :=
    positions_of_rows h.rows
  rw [Grid.source, Grid.source, h.columnCount, h.rowCount, hcell, ← positions_paddedRows,
    hpadded, positions_paddedRows]

theorem checkWidth :
    g'.checkWidth = g.checkWidth := by
  rw [Grid.checkWidth, Grid.checkWidth, h.columnCount]

end Alike

/-! A cell is put. -/

section Put

variable {r : Reference} {cell : Option Cell}

/-- What changes by a write is told by what is there. -/
theorem changes_of_not_equal
    (h : Cell.equalContents (g.get? r) cell = false) :
    cell ≠ none ∨ g.get? r ≠ none := by
  by_contra hempty
  rw [not_or, not_not, not_not] at hempty
  simp [hempty.1, hempty.2, Cell.equalContents] at h

/-- A cell is put into alike grids alike. -/
theorem Alike.put
    (h : g.Alike g')
    (hcell : cell ≠ some .blank) :
    (g.put r cell true).Alike (g'.put r cell true) := by
  rcases g.put_cases r hcell with ⟨heq, hput⟩ | ⟨hne, hput⟩
  · rcases g'.put_cases r hcell with ⟨-, hput'⟩ | ⟨hne', -⟩
    · rw [hput, hput']
      exact h
    · rw [h.get? r, heq] at hne'
      cases hne'
  · rcases g'.put_cases r hcell with ⟨heq', -⟩ | ⟨hne', hput'⟩
    · rw [h.get? r, hne] at heq'
      cases heq'
    · have hchanges := changes_of_not_equal hne
      have hchanges' := changes_of_not_equal hne'
      rw [hput, hput']
      refine alike_of_cells ?_ ?_ ?_ fun q => ?_
      · exact (minColumns_write g' r cell).trans (h.minColumns.trans (minColumns_write g r cell).symm)
      · exact (rowCount_write hchanges').trans (h.rowCount ▸ (rowCount_write hchanges).symm)
      · exact (width_write hchanges').trans (h.width ▸ (width_write hchanges).symm)
      · show (g'.write r cell).get? q = (g.write r cell).get? q
        by_cases hq : q = r
        · rw [hq, get?_write_self, get?_write_self]
        · rw [get?_write_of_ne _ _ hq, get?_write_of_ne _ _ hq, h.get? q]

theorem rowLength_write
    (h : cell ≠ none ∨ g.get? r ≠ none)
    (i : Nat) :
    (g.write r cell).rowLength i
      = max (if i < g.rowCount then g.rowLength i else if i ≤ r.row then g.width else 0)
          (if i = r.row then r.col + 1 else 0) := by
  have hgrown : (((growRows g.rows r.row g.width)[i]?).map List.length).getD 0
      = if i < g.rowCount then g.rowLength i else if i ≤ r.row then g.width else 0 := by
    split
    · next hi => rw [getElem?_growRows_of_lt hi, rowLength]
    · next hi =>
        rw [Grid.rowCount, Nat.not_lt] at hi
        unfold growRows
        split
        · rw [List.getElem?_eq_none hi, if_neg (by omega)]
          rfl
        · rw [List.getElem?_append_right hi, List.getElem?_replicate]
          split
          · next hlt =>
              rw [if_pos (by omega)]
              simp [blankRow]
          · rw [if_neg (by omega)]
            rfl
  rw [rowLength, rows_write h, List.getElem?_modify, ← hgrown]
  by_cases hi : r.row = i
  · have hlt : i < (growRows g.rows r.row g.width).length := by
      rw [length_growRows]
      omega
    subst hi
    simp [List.getElem?_eq_getElem hlt, length_writeRow]
  · simp [hi, Ne.symm hi]

namespace Covers

theorem refl
    (g : Grid) :
    g.Covers g :=
  ⟨.refl g, fun _ => le_rfl⟩

variable (h : g.Covers g')

include h

/-- A grid of longer rows has room wherever one of shorter rows has. -/
theorem checkRoom
    (hroom : g.checkRoom r = .ok ()) :
    g'.checkRoom r = .ok () := by
  have hlacking : g'.lacking r ≤ g.lacking r := by
    have hrow := h.rowLength r.row
    unfold Grid.rowLength at hrow
    unfold lacking
    rcases Nat.lt_or_ge r.row g.rowCount with hlt | hge
    · have hlt' : r.row < g'.rowCount := h.rowCount ▸ hlt
      unfold Grid.rowCount at hlt hlt'
      simp only [List.getElem?_eq_getElem hlt, List.getElem?_eq_getElem hlt', Option.map_some,
        Option.getD_some] at hrow ⊢
      omega
    · have hge' : g'.rowCount ≤ r.row := h.rowCount ▸ hge
      unfold Grid.rowCount at hge hge'
      rw [List.getElem?_eq_none hge, List.getElem?_eq_none hge', h.width]
  have hle : (g'.lacking r : Int) ≤ g.lacking r := Int.ofNat_le.2 hlacking
  unfold Grid.checkRoom at hroom ⊢
  rw [h.rowCount, h.checkWidth]
  split at hroom
  · next hbelow =>
      obtain ⟨_, hwidth, hroom⟩ := bind_eq_ok_iff.1 hroom
      obtain ⟨n, hn, -⟩ := bind_eq_ok_iff.1 hroom
      rw [if_pos hbelow, hwidth, Number.count_of_le hle hn]
      rfl
  · next hinside =>
      obtain ⟨n, hn, -⟩ := bind_eq_ok_iff.1 hroom
      rw [if_neg hinside, Number.count_of_le hle hn]
      rfl

theorem put
    (hcell : cell ≠ some .blank) :
    (g.put r cell true).Covers (g'.put r cell true) := by
  refine ⟨h.toAlike.put hcell, fun i => ?_⟩
  rcases g.put_cases r hcell with ⟨heq, hput⟩ | ⟨hne, hput⟩
  · rcases g'.put_cases r hcell with ⟨-, hput'⟩ | ⟨hne', -⟩
    · rw [hput, hput']
      exact h.rowLength i
    · rw [h.get? r, heq] at hne'
      cases hne'
  · rcases g'.put_cases r hcell with ⟨heq', -⟩ | ⟨hne', hput'⟩
    · rw [h.get? r, hne] at heq'
      cases heq'
    · rw [hput, hput']
      show (g.write r cell).rowLength i ≤ (g'.write r cell).rowLength i
      have hi := h.rowLength i
      rw [rowLength_write (changes_of_not_equal hne), rowLength_write (changes_of_not_equal hne'),
        h.rowCount, h.width]
      refine max_le_max_right _ ?_
      split
      · exact hi
      · exact le_rfl

/-- A text that can be typed into a grid of short rows can be typed into one of
longer rows. -/
theorem enterAt
    {g₁ : Grid} {col row : Int} {raw : String}
    (henter : g.enterAt col row raw true = .ok (cell, g₁)) :
    ∃ g₁', g'.enterAt col row raw true = .ok (cell, g₁') ∧ g₁.Covers g₁' := by
  obtain ⟨typed, htyped, henter⟩ := bind_eq_ok_iff.1 henter
  obtain ⟨written, hput, henter⟩ := bind_eq_ok_iff.1 henter
  obtain ⟨rfl, rfl⟩ := Prod.mk.inj (Except.ok.inj henter)
  unfold Grid.enterAt Grid.putAt
  rw [bind_of_eq_ok htyped]
  unfold Grid.putAt at hput
  cases hr : Reference.ofInts? col row with
  | none =>
      rw [hr] at hput
      cases hput
  | some r =>
      rw [hr] at hput
      have hcovers := h.put (r := r) (ofInput?_ne_blank htyped)
      simp only at hput ⊢
      split at hput
      · next hsome =>
          obtain ⟨_, hroom, hput⟩ := bind_eq_ok_iff.1 hput
          obtain rfl := Except.ok.inj hput
          rw [if_pos hsome, h.checkRoom hroom]
          exact ⟨_, rfl, hcovers⟩
      · next hnone =>
          obtain rfl := Except.ok.inj hput
          rw [if_neg hnone]
          exact ⟨_, rfl, hcovers⟩

end Covers

end Put

/-! A line comes in or goes out. -/

section Restructure

variable {g₁ g₁' : Grid} {op : Restructuring} {index : Int}

theorem Alike.admits_iff
    (h : g.Alike g') :
    op.Admits g' index ↔ op.Admits g index := by
  unfold Restructuring.Admits
  rw [h.rowCount, h.columnCount]

/-- Deleting a column leaves grids of one width so, however long their rows
are. -/
theorem width_deleteColumn
    (h : g.Alike g')
    (hrows : g.rows ≠ [])
    (hrows' : g'.rows ≠ [])
    {index : Nat}
    (hg₁ : g₁.rows = g.rows.map fun row => row.eraseIdx index)
    (hg₁' : g₁'.rows = g'.rows.map fun row => row.eraseIdx index)
    (hmin : g₁.minColumns = g.minColumns)
    (hmin' : g₁'.minColumns = g'.minColumns) :
    g₁'.width = g₁.width := by
  have hwidth := h.width
  have hfloor := floor_of_minColumns h.minColumns
  rw [width_eq g', width_eq g] at hwidth
  rw [width_eq g₁', width_eq g₁, floor_of_minColumns hmin, floor_of_minColumns hmin',
    widestRow_deleteColumn hrows hg₁, widestRow_deleteColumn hrows' hg₁']
  -- Widest rows of different lengths both lie below the least width.
  split <;> split <;> omega

/-- No row of the one grid gets shorter, so its widest is no narrower. -/
theorem widestRow_le_of_rowLength
    (h : ∀ i, g.rowLength i ≤ g'.rowLength i) :
    widestRow g.rows ≤ widestRow g'.rows := by
  refine widestRow_le_iff.2 fun row hrow => ?_
  obtain ⟨i, hi⟩ := List.mem_iff_getElem?.1 hrow
  have hle := h i
  unfold rowLength at hle
  rw [hi, Option.map_some, Option.getD_some] at hle
  cases hi' : g'.rows[i]? with
  | none =>
      rw [hi'] at hle
      exact hle.trans (Nat.zero_le _)
  | some row' =>
      rw [hi'] at hle
      exact hle.trans (length_le_widestRow (List.mem_of_getElem? hi'))

theorem rowLength_eraseIdx
    {index : Nat}
    (hg₁ : g₁.rows = g.rows.eraseIdx index)
    (i : Nat) :
    g₁.rowLength i = g.rowLength (if i < index then i else i + 1) := by
  rw [rowLength, rowLength, hg₁, List.getElem?_eraseIdx]
  split <;> rfl

/-- Where the grid of the shorter rows does not get narrower, that of the longer
ones does not either. -/
theorem Covers.width_deleteRow
    (h : g.Covers g')
    {index : Nat}
    (hg₁ : g₁.rows = g.rows.eraseIdx index)
    (hg₁' : g₁'.rows = g'.rows.eraseIdx index)
    (hmin : g₁.minColumns = g.minColumns)
    (hmin' : g₁'.minColumns = g'.minColumns)
    (hkept : g₁.width = g.width) :
    g₁'.width = g₁.width := by
  have hfloor' : g₁'.floor = g'.floor := floor_of_minColumns hmin'
  have hlonger : widestRow g₁.rows ≤ widestRow g₁'.rows :=
    widestRow_le_of_rowLength fun i => by
      rw [rowLength_eraseIdx hg₁, rowLength_eraseIdx hg₁']
      exact h.rowLength _
  have hshorter : widestRow g₁'.rows ≤ widestRow g'.rows :=
    widestRow_le_iff.2 fun row hrow =>
      length_le_widestRow (List.mem_of_mem_eraseIdx (hg₁' ▸ hrow))
  refine le_antisymm ?_ ?_
  · calc
      g₁'.width ≤ g'.width := by
        rw [width_eq, width_eq, hfloor']
        exact max_le_max_left _ hshorter
      _ = g₁.width := h.width.trans hkept.symm
  · rw [width_eq, width_eq, floor_of_minColumns hmin, hfloor', floor_of_minColumns h.minColumns]
    exact max_le_max_left _ hlonger

/-- Grids that are alike stay so when a line comes in or goes out, if that leaves
them equally wide. -/
theorem Alike.restructure
    (h : g.Alike g')
    (hadmits : op.Admits g index)
    (hcount : op = .insertColumn → ∃ n, g.columnCount.count = .ok n)
    (hg₁ : g₁.rows = op.rows g index.toNat)
    (hg₁' : g₁'.rows = op.rows g' index.toNat)
    (hmin : g₁.minColumns = g.minColumns)
    (hmin' : g₁'.minColumns = g'.minColumns)
    (hwidth : g₁'.width = g₁.width) :
    g₁.Alike g₁' := by
  refine alike_of_cells ?_ ?_ hwidth fun r => ?_
  · rw [hmin', h.minColumns, hmin]
  · have hlength := length_rows hadmits
    have hlength' := length_rows (h.admits_iff.2 hadmits)
    rw [← hg₁] at hlength
    rw [← hg₁', h.rowCount, ← hlength] at hlength'
    exact Int.ofNat.inj hlength'
  · have hcolumn : op = .insertColumn → index ≤ g.width := by
      rintro rfl
      exact index_le_width hadmits (hcount rfl)
    have hgetAt : ∀ col row, g'.getAt? col row = g.getAt? col row := by
      intro col row
      unfold getAt?
      cases Reference.ofInts? col row with
      | none => rfl
      | some q => exact h.get? q
    have hmoved : g'.getAt? = g.getAt? := funext fun col => funext (hgetAt col)
    have hafter := getAt?_of_rows hadmits hcolumn hg₁ r.col r.row
    have hafter' := getAt?_of_rows (h.admits_iff.2 hadmits) (h.width ▸ hcolumn) hg₁' r.col r.row
    rw [hmoved, ← hafter] at hafter'
    unfold getAt? at hafter'
    rwa [Reference.ofInts?_natCast] at hafter'

/-- A line comes in or goes out of a grid of short rows and one of longer rows
alike, unless it is a row that makes the first one narrower. -/
theorem Covers.restructure
    (h : g.Covers g')
    (hrows : g.rows ≠ [])
    (hadmits : op.Admits g index)
    (hcount : op = .insertColumn → ∃ n, g.columnCount.count = .ok n)
    (hg₁ : g₁.rows = op.rows g index.toNat)
    (hg₁' : g₁'.rows = op.rows g' index.toNat)
    (hmin : g₁.minColumns = g.minColumns)
    (hmin' : g₁'.minColumns = g'.minColumns)
    (hkept : op = .deleteRow → g₁.width = g.width) :
    g₁.Alike g₁' := by
  have hrows' := h.rows_ne_nil hrows
  refine h.toAlike.restructure hadmits hcount hg₁ hg₁' hmin hmin' ?_
  cases op with
  | insertRow => rw [width_insertRow hmin' hg₁', width_insertRow hmin hg₁, h.width]
  | insertColumn =>
      rw [width_insertColumn hmin' hrows' hg₁', width_insertColumn hmin hrows hg₁, h.width]
  | deleteRow => exact h.width_deleteRow hg₁ hg₁' hmin hmin' (hkept rfl)
  | deleteColumn => exact width_deleteColumn h.toAlike hrows hrows' hg₁ hg₁' hmin hmin'

end Restructure

/-! The rows are sorted. -/

section Sorting

/-- What is done to each item does not matter for the order of the keys. -/
theorem sortedBy_map
    {κ α β : Type} (le : κ → κ → Bool) (ascending : Bool) (f : α → β) (items : List (κ × α)) :
    sortedBy le ascending (items.map (Prod.map id f))
      = (sortedBy le ascending items).map (Prod.map id f) := by
  refine (List.map_mergeSort ?_).symm
  intro a _ b _
  rfl

theorem sortedBy_zip_map
    {κ : Type} (le : κ → κ → Bool) (ascending : Bool) (f : Row → Row) (keys : List κ)
    (rows : List Row) :
    (sortedBy le ascending (keys.zip (rows.map f))).map (·.2)
      = ((sortedBy le ascending (keys.zip rows)).map (·.2)).map f := by
  rw [List.zip_map_right, sortedBy_map, List.map_map, List.map_map]
  rfl

theorem sortByText_padded
    (ascending : Bool) (col width : Nat) (rows : List Row) :
    sortByText ascending col (rows.map (padded width))
      = (sortByText ascending col rows).map (List.map (padded width)) := by
  have htexts : sortTexts col (rows.map (padded width)) = sortTexts col rows := by
    rw [sortTexts, sortTexts, List.mapM_map]
    congr 1
    funext row
    exact congrArg Cell.inputTextAt (getElem?_padded row width col)
  rw [sortByText, sortByText, htexts]
  cases sortTexts col rows with
  | error fault => rfl
  | ok keys => exact congrArg Except.ok (sortedBy_zip_map ..)

/-- A sort by a column that a grid does not have is refused for one alike. -/
theorem Alike.sort_none
    {today : Date} {col : Int} {ascending : Bool} {frozen : Int}
    (h : g.Alike g')
    (hsort : g.sortByColumn? today col ascending frozen = .ok none) :
    g'.sortByColumn? today col ascending frozen = .ok none := by
  have hcol : col < 0 ∨ (!(Number.int col).less g.columnCount) = true := by
    by_contra hcol
    unfold sortByColumn? at hsort
    simp only at hsort
    rw [if_neg hcol] at hsort
    split at hsort
    · cases hsort
    · split at hsort
      · cases hsort
      · obtain ⟨sorted, -, hsort⟩ := bind_eq_ok_iff.1 hsort
        cases hsort
  rw [sortByColumn?, h.columnCount, if_pos hcol]

/-- The filled rows of alike grids come into the same order. -/
theorem Alike.map_rows_sort
    {g₁ : Grid} {today : Date} {col : Int} {ascending : Bool} {frozen : Int}
    (h : g.Alike g')
    (hsort : g.sortByColumn? today col ascending frozen = .ok (some g₁)) :
    ∃ g₁', g'.sortByColumn? today col ascending frozen = .ok (some g₁')
      ∧ g₁'.rows.map (padded g.width) = g₁.rows.map (padded g.width) := by
  have hrows : g'.rows.map (padded g.width) = g.rows.map (padded g.width) := by
    rw [← paddedRows, ← h.width, ← paddedRows, h.rows]
  have hhead : (g'.rows.take frozen.toNat).map (padded g.width)
      = (g.rows.take frozen.toNat).map (padded g.width) := by
    rw [List.map_take, List.map_take, hrows]
  have hbody : (g'.rows.drop frozen.toNat).map (padded g.width)
      = (g.rows.drop frozen.toNat).map (padded g.width) := by
    rw [List.map_drop, List.map_drop, hrows]
  have hlength : (g'.rows.drop frozen.toNat).length = (g.rows.drop frozen.toNat).length := by
    simpa only [List.length_map] using congrArg List.length hbody
  have hkeys : g'.sortKeys today = g.sortKeys today := by
    unfold sortKeys
    rw [h.source]
  unfold sortByColumn? at hsort ⊢
  simp only [h.columnCount, hlength, hkeys] at hsort ⊢
  generalize g.sortKeys today col.toNat frozen.toNat (g.rows.drop frozen.toNat).length = keys
    at hsort ⊢
  split at hsort
  · cases hsort
  next hcol =>
  rw [if_neg hcol]
  split at hsort
  · next hfew =>
      rw [if_pos hfew]
      obtain rfl := Option.some.inj (Except.ok.inj hsort)
      exact ⟨g', rfl, hrows⟩
  next hmany =>
  rw [if_neg hmany]
  split at hsort
  · next hnumbers =>
      rw [if_pos hnumbers]
      obtain rfl := Option.some.inj (Except.ok.inj hsort)
      refine ⟨_, rfl, ?_⟩
      rw [List.map_append, List.map_append, hhead, ← sortedBy_zip_map, hbody, sortedBy_zip_map]
  · next htexts =>
      rw [if_neg htexts]
      obtain ⟨sorted, hsorted, hsort⟩ := bind_eq_ok_iff.1 hsort
      obtain rfl := Option.some.inj (Except.ok.inj hsort)
      have hpadded := sortByText_padded ascending col.toNat g.width (g'.rows.drop frozen.toNat)
      rw [hbody, sortByText_padded, hsorted] at hpadded
      cases hsorted' : sortByText ascending col.toNat (g'.rows.drop frozen.toNat) with
      | error fault =>
          rw [hsorted'] at hpadded
          cases hpadded
      | ok sorted' =>
          rw [hsorted'] at hpadded
          refine ⟨_, rfl, ?_⟩
          rw [List.map_append, List.map_append, hhead]
          exact congrArg (_ ++ ·) (Except.ok.inj hpadded).symm

/-- Alike grids are sorted alike. -/
theorem Alike.sort
    {g₁ : Grid} {today : Date} {col : Int} {ascending : Bool} {frozen : Int}
    (h : g.Alike g')
    (hsort : g.sortByColumn? today col ascending frozen = .ok (some g₁)) :
    ∃ g₁', g'.sortByColumn? today col ascending frozen = .ok (some g₁') ∧ g₁.Alike g₁' := by
  obtain ⟨g₁', hsort', hrows⟩ := h.map_rows_sort hsort
  obtain ⟨hperm, hmin, -⟩ := perm_rows_of_sort hsort
  obtain ⟨hperm', hmin', -⟩ := perm_rows_of_sort hsort'
  have hwidth : g₁.width = g.width := width_of_widestRow hmin (widestRow_of_perm hperm)
  have hwidth' : g₁'.width = g.width :=
    (width_of_widestRow hmin' (widestRow_of_perm hperm')).trans h.width
  refine ⟨g₁', hsort', ?_, ?_⟩
  · rw [paddedRows, paddedRows, hwidth, hwidth', hrows]
  · rw [hmin', h.minColumns, hmin]

end Sorting

/-! The rows of one grid are those of another, filled up. -/

section Filled

theorem padded_of_length
    {row : Row} {width : Nat}
    (h : row.length = width) :
    padded width row = row := by
  simp [padded, blankRow, h]

variable (hnonempty : g.rows ≠ []) (hrows : g'.rows = g.paddedRows)
  (hmin : g'.minColumns = g.minColumns)

include hnonempty hrows hmin

theorem width_of_rows :
    g'.width = g.width := by
  have hwidest : widestRow g'.rows = g.width := by
    rw [hrows]
    exact widestRow_of_length (by simpa [paddedRows] using hnonempty)
      fun row hrow => length_of_mem_paddedRows hrow
  rw [width_eq g', hwidest, floor_of_minColumns hmin]
  exact max_eq_right (width_eq g ▸ le_max_left _ _)

/-- Filled up again, the rows stay as they are. -/
theorem paddedRows_of_rows :
    g'.paddedRows = g.paddedRows := by
  have hfilled : ∀ row ∈ g.paddedRows, padded g.width row = row := fun row hrow =>
    padded_of_length (length_of_mem_paddedRows hrow)
  calc
    g'.paddedRows = g.paddedRows.map (padded g.width) := by
      rw [paddedRows, hrows, width_of_rows hnonempty hrows hmin]
    _ = g.paddedRows := (List.map_congr_left hfilled).trans (List.map_id _)

theorem columnCount_of_rows :
    g'.columnCount = g.columnCount :=
  columnCount_of_width hmin (width_of_rows hnonempty hrows hmin)

/-- The filled rows of a grid make one that covers it. -/
theorem covers_of_rows :
    g.Covers g' := by
  refine ⟨⟨paddedRows_of_rows hnonempty hrows hmin, hmin⟩, fun i => ?_⟩
  rw [rowLength, rowLength, hrows, paddedRows, List.getElem?_map]
  cases g.rows[i]? with
  | none => exact Nat.le_refl _
  | some row =>
      simp only [Option.map_some, Option.getD_some, length_padded]
      exact le_max_left _ _

end Filled

end Lemmas

end Grid
end Spreadsheet
