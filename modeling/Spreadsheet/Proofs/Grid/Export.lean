import Mathlib.Data.List.Induction
import Spreadsheet.Grid.Export
import Spreadsheet.Proofs.Delimited
import Spreadsheet.Proofs.Except

/-!
# Reading the exported grid back

A grid that is written as delimited text has as many columns there as it takes
to hold its last cell, and at least one.

Results: a row is used up to its last cell (`lt_usedWidth`,
`exists_of_usedWidth_eq`), the exported width is that of the last cell of all
rows (`isExtent_exportWidth`), and an exported grid is read back record by
record and field by field (`read_exportDelimited`).
-/

namespace Spreadsheet

/-- The greatest value of a list is a bound, and it is one of the values. -/
theorem foldl_max_bounds
    {α : Type}
    (f : α → Nat) (xs : List α) (n : Nat) :
    n ≤ xs.foldl (fun m x => max m (f x)) n
      ∧ (∀ x ∈ xs, f x ≤ xs.foldl (fun m x => max m (f x)) n)
      ∧ (xs.foldl (fun m x => max m (f x)) n = n
        ∨ ∃ x ∈ xs, xs.foldl (fun m x => max m (f x)) n = f x) := by
  induction xs generalizing n with
  | nil => simp
  | cons x xs ih =>
      obtain ⟨hleast, hbound, hattained⟩ := ih (max n (f x))
      rw [List.foldl_cons]
      refine ⟨by omega, ?_, ?_⟩
      · intro y hy
        rcases List.mem_cons.1 hy with rfl | hy
        · omega
        · exact hbound y hy
      · rcases hattained with hstart | ⟨y, hy, hvalue⟩
        · rcases Nat.le_total n (f x) with hle | hle
          · exact .inr ⟨x, by simp, by omega⟩
          · exact .inl (by omega)
        · exact .inr ⟨y, List.mem_cons_of_mem _ hy, hvalue⟩

namespace Grid

/-- All cells of the grid lie in the first columns, and one of them in the last
of these; a grid without cells extends over one column. -/
structure IsExtent (g : Grid) (width : Nat) : Prop where
  within : ∀ r, g.get? r ≠ none → r.col < width
  reached : (∃ r, g.get? r ≠ none ∧ width = r.col + 1) ∨ (width = 1 ∧ ∀ r, g.get? r = none)

section Lemmas

theorem usedWidth_append_none
    (row : Row) :
    usedWidth (row ++ [none]) = usedWidth row := by
  simp [usedWidth]

theorem usedWidth_append_some
    (row : Row) (cell : Cell) :
    usedWidth (row ++ [some cell]) = row.length + 1 := by
  simp [usedWidth]

theorem lt_usedWidth
    {row : Row} {i : Nat} {cell : Cell}
    (h : row[i]?.join = some cell) :
    i < usedWidth row := by
  induction row using List.reverseRecOn with
  | nil => simp at h
  | append_singleton row last ih =>
      cases last with
      | none =>
          rw [usedWidth_append_none]
          refine ih ?_
          rcases Nat.lt_trichotomy i row.length with hi | rfl | hi
          · rwa [List.getElem?_append_left hi] at h
          · simp at h
          · rw [List.getElem?_eq_none (by simp; omega)] at h
            simp at h
      | some last =>
          rw [usedWidth_append_some]
          by_contra hi
          rw [List.getElem?_eq_none (by simp; omega)] at h
          simp at h

theorem exists_of_usedWidth_eq
    {row : Row} {i : Nat}
    (h : usedWidth row = i + 1) :
    ∃ cell, row[i]?.join = some cell := by
  induction row using List.reverseRecOn with
  | nil => simp [usedWidth] at h
  | append_singleton row last ih =>
      cases last with
      | none =>
          rw [usedWidth_append_none] at h
          obtain ⟨cell, hcell⟩ := ih h
          have hi : i < row.length := by
            by_contra hi
            rw [List.getElem?_eq_none (by omega)] at hcell
            simp at hcell
          exact ⟨cell, by rwa [List.getElem?_append_left hi]⟩
      | some last =>
          rw [usedWidth_append_some] at h
          obtain rfl : row.length = i := by omega
          exact ⟨last, by simp⟩

theorem get?_eq_some_iff
    {g : Grid} {r : Reference} {cell : Cell} :
    g.get? r = some cell
      ↔ ∃ row, g.rows[r.row]? = some row ∧ row[r.col]?.join = some cell := by
  rw [get?_eq]
  cases g.rows[r.row]? with
  | none => simp
  | some row => simp

/-- The exported columns reach to the last cell. -/
theorem isExtent_exportWidth
    (g : Grid) :
    g.IsExtent (exportWidth g.rows) := by
  obtain ⟨hleast, hbound, hattained⟩ := foldl_max_bounds usedWidth g.rows 1
  have hwithin : ∀ r cell, g.get? r = some cell →
      ∃ row ∈ g.rows, r.col < usedWidth row ∧ usedWidth row ≤ exportWidth g.rows := by
    intro r cell hcell
    obtain ⟨row, hrow, hcell⟩ := get?_eq_some_iff.1 hcell
    have hmem := List.mem_of_getElem? hrow
    exact ⟨row, hmem, lt_usedWidth hcell, hbound row hmem⟩
  have hreached : ∀ row ∈ g.rows, usedWidth row = exportWidth g.rows →
      ∃ r, g.get? r ≠ none ∧ exportWidth g.rows = r.col + 1 := by
    intro row hrow hwidth
    obtain ⟨y, hy⟩ := List.getElem?_of_mem hrow
    obtain ⟨x, hx⟩ : ∃ x, exportWidth g.rows = x + 1 := Nat.exists_eq_add_of_le' hleast
    obtain ⟨cell, hcell⟩ := exists_of_usedWidth_eq (hwidth.trans hx)
    have hget : g.get? ⟨x, y⟩ = some cell := get?_eq_some_iff.2 ⟨row, hy, hcell⟩
    exact ⟨⟨x, y⟩, by simp [hget], hx⟩
  refine ⟨?_, ?_⟩
  · intro r hr
    obtain ⟨cell, hcell⟩ := Option.ne_none_iff_exists'.1 hr
    obtain ⟨row, -, hused, hwidth⟩ := hwithin r cell hcell
    omega
  · rcases hattained with hone | ⟨row, hrow, hwidth⟩
    · -- One column is exported, be it that it holds a cell or that no column does.
      have hone : exportWidth g.rows = 1 := hone
      by_cases hempty : ∀ r, g.get? r = none
      · exact .inr ⟨hone, hempty⟩
      · obtain ⟨r, hr⟩ := not_forall.1 hempty
        obtain ⟨cell, hcell⟩ := Option.ne_none_iff_exists'.1 hr
        obtain ⟨row, hrow, hused, hwidth⟩ := hwithin r cell hcell
        exact .inl (hreached row hrow (by omega))
    · exact .inl (hreached row hrow hwidth.symm)

theorem getElem?_cutTo
    {width i : Nat}
    (row : Row)
    (hi : i < width) :
    (cutTo width row)[i]? = some row[i]?.join := by
  have hlength : i < (cutTo width row).length := by
    rw [length_cutTo]
    exact hi
  have hjoin : (cutTo width row)[i]?.join = row[i]?.join := by
    rw [cutTo, getElem?_padded, List.getElem?_take_of_lt hi]
  rw [List.getElem?_eq_getElem hlength, Option.join_some] at hjoin
  rw [List.getElem?_eq_getElem hlength, hjoin]

variable {g : Grid} {today : Date} {delimiter : Char}

/-- If every cell has a text, all of them are written. -/
theorem exists_exportDelimited
    (delimiter : Char)
    (htexts : ∀ r, ∃ text, exportText g.source today (g.get? r) = .ok text) :
    ∃ records : List (List String),
      g.exportDelimited today (String.singleton delimiter)
          = .ok (String.ofList (Delimited.write delimiter (records.map (·.map String.toList))))
        ∧ List.Forall₂
          (fun row record => List.Forall₂
            (fun cell text => exportText g.source today cell = .ok text)
            (cutTo (exportWidth g.rows) row) record)
          g.rows records := by
  have hrecord : ∀ row ∈ g.rows, ∃ record,
      (cutTo (exportWidth g.rows) row).mapM (exportText g.source today) = .ok record := by
    intro row hrow
    obtain ⟨y, hy⟩ := List.getElem?_of_mem hrow
    refine exists_mapM_eq_ok fun cell hcell => ?_
    obtain ⟨x, hx⟩ := List.getElem?_of_mem hcell
    have hwidth : x < exportWidth g.rows := by
      obtain ⟨hlength, -⟩ := List.getElem?_eq_some_iff.1 hx
      rwa [length_cutTo] at hlength
    rw [getElem?_cutTo row hwidth] at hx
    obtain ⟨text, htext⟩ := htexts ⟨x, y⟩
    rw [get?_eq, hy, Option.bind_some, Option.some.inj hx] at htext
    exact ⟨text, htext⟩
  obtain ⟨records, hrecords⟩ := exists_mapM_eq_ok hrecord
  refine ⟨records, ?_, ?_⟩
  · have hdelimiter : (String.singleton delimiter).toList = [delimiter] := by simp
    unfold exportDelimited
    rw [hdelimiter]
    exact bind_of_eq_ok hrecords _
  · exact (forall₂_of_mapM_eq_ok hrecords).imp fun _ _ h => forall₂_of_mapM_eq_ok h

/-- What is exported can be read back: a record for each row, a field for each
column up to the last cell, and in it the text of the cell there. -/
theorem read_exportDelimited
    (hrows : g.rows ≠ [])
    (hdelimiter : Delimited.IsDelimiter delimiter)
    (htexts : ∀ r, ∃ text, exportText g.source today (g.get? r) = .ok text) :
    ∃ text records width,
      g.exportDelimited today (String.singleton delimiter) = .ok text
        ∧ Delimited.read delimiter text.toList = some records
        ∧ g.IsExtent width
        ∧ records.length = g.rowCount
        ∧ (∀ record ∈ records, record.length = width)
        ∧ ∀ r : Reference, r.row < g.rowCount → r.col < width →
          ∃ field,
            (records[r.row]?.bind fun record => record[r.col]?) = some field
              ∧ exportText g.source today (g.get? r) = .ok (String.ofList field)
              ∧ (g.get? r = none → field = []) := by
  obtain ⟨records, hwritten, hrecords⟩ :=
    exists_exportDelimited delimiter htexts
  have hlength : records.length = g.rows.length := hrecords.length_eq.symm
  have hwidth : ∀ record ∈ records, record.length = exportWidth g.rows := by
    intro record hrecord
    obtain ⟨y, hy⟩ := List.getElem?_of_mem hrecord
    obtain ⟨row, -, hfields⟩ := exists_getElem?_of_forall₂ hrecords.flip hy
    rw [← hfields.length_eq, length_cutTo]
  have hextent := isExtent_exportWidth g
  have hpos : exportWidth g.rows ≠ 0 := by
    rcases hextent.reached with ⟨r, -, hreached⟩ | ⟨hone, -⟩ <;> omega
  refine ⟨_, records.map (·.map String.toList), exportWidth g.rows, hwritten, ?_, hextent,
    (List.length_map _).trans hlength, ?_, ?_⟩
  · rw [String.toList_ofList]
    refine Delimited.read_write hdelimiter ?_ ?_
    · intro hnil
      rw [List.map_eq_nil_iff] at hnil
      rw [hnil] at hlength
      exact hrows (List.length_eq_zero_iff.1 hlength.symm)
    · intro record hrecord hnil
      obtain ⟨texts, htexts, rfl⟩ := List.mem_map.1 hrecord
      rw [List.map_eq_nil_iff] at hnil
      rw [hnil] at htexts
      exact hpos (hwidth [] htexts).symm
  · intro record hrecord
    obtain ⟨texts, htexts, rfl⟩ := List.mem_map.1 hrecord
    rw [List.length_map]
    exact hwidth texts htexts
  · intro r hrow hcol
    obtain ⟨row, hrow⟩ : ∃ row, g.rows[r.row]? = some row := ⟨_, List.getElem?_eq_getElem hrow⟩
    obtain ⟨record, hrecord, hfields⟩ := exists_getElem?_of_forall₂ hrecords hrow
    obtain ⟨text, htext, hvalue⟩ :=
      exists_getElem?_of_forall₂ hfields (getElem?_cutTo row hcol)
    have hget : g.get? r = row[r.col]?.join := by rw [get?_eq, hrow, Option.bind_some]
    rw [← hget] at hvalue
    refine ⟨text.toList, by simp [hrecord, htext], by rwa [String.ofList_toList], ?_⟩
    intro hnone
    rw [hnone, exportText_none] at hvalue
    rw [← Except.ok.inj hvalue]
    rfl

/-- Three rows of unequal length, the second without cells; one cell holds what
needs quotes and another one a formula. -/
def quotedRows : Grid where
  minColumns := .int 4
  rows :=
    [[some (.plain (.text "a;\"b\"\nc") .text none), none, none],
     [none],
     [none, some (.formula "=2*3" (by decide) none)]]
  history := .empty History.defaultLimit

theorem read_exportDelimited_quotedRows :
    quotedRows.rows ≠ [] ∧ Delimited.IsDelimiter ';'
      ∧ (∀ r, ∃ text, exportText quotedRows.source ⟨2024, 3, 9, by decide⟩ (quotedRows.get? r)
          = .ok text)
      ∧ ∃ text records width,
        quotedRows.exportDelimited ⟨2024, 3, 9, by decide⟩ (String.singleton ';') = .ok text
          ∧ Delimited.read ';' text.toList = some records
          ∧ quotedRows.IsExtent width
          ∧ records.length = quotedRows.rowCount
          ∧ (∀ record ∈ records, record.length = width)
          ∧ ∀ r : Reference, r.row < quotedRows.rowCount → r.col < width →
            ∃ field,
              (records[r.row]?.bind fun record => record[r.col]?) = some field
                ∧ exportText quotedRows.source ⟨2024, 3, 9, by decide⟩ (quotedRows.get? r)
                  = .ok (String.ofList field)
                ∧ (quotedRows.get? r = none → field = []) := by
  have hcells : ∀ row ∈ quotedRows.rows, ∀ cell ∈ row,
      (exportText quotedRows.source ⟨2024, 3, 9, by decide⟩ cell).isOk = true := by
    decide +kernel
  have htexts : ∀ r, ∃ text,
      exportText quotedRows.source ⟨2024, 3, 9, by decide⟩ (quotedRows.get? r) = .ok text := by
    intro r
    cases hr : quotedRows.get? r with
    | none => exact ⟨"", rfl⟩
    | some cell =>
        obtain ⟨row, hrow, hcell⟩ := get?_eq_some_iff.1 hr
        have hmem : some cell ∈ row := List.mem_of_getElem? (Option.join_eq_some_iff.1 hcell)
        exact exists_eq_ok (hcells row (List.mem_of_getElem? hrow) (some cell) hmem)
  exact ⟨by decide, by decide, htexts, read_exportDelimited (by decide) (by decide) htexts⟩

end Lemmas

end Grid
end Spreadsheet
