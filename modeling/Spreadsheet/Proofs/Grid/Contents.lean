import Mathlib.Tactic.Tauto
import Spreadsheet.Proofs.Sheet.Change

/-!
# What the contents of a grid have in common

The contents of a grid are those of its positions and, before and after each
edit, those of its history.  No change of a grid makes a content of its own: a
content was there before, was typed in, or is empty.

Results: what an edit taken back or made again does to a grid (`undo?_eq_some`,
`redo?_eq_some`), no change takes the last row (`rows_ne_nil_of_change`), and a
condition that holds of the empty content and of all that can be typed holds of
the contents of a grid whatever is done to it (`AllContents.change`).
-/

namespace Spreadsheet
namespace Grid

/-- The contents of the grid and of its history satisfy a condition. -/
structure AllContents (g : Grid) (p : Option Cell → Prop) : Prop where
  cells : ∀ row ∈ g.rows, ∀ cell ∈ row, p cell
  edits : ∀ e ∈ g.history.past ++ g.history.future, p e.before ∧ p e.after

section Lemmas

theorem mem_insertBefore
    {α : Type} {index : Nat} {x y : α} {xs : List α}
    (h : y ∈ insertBefore index x xs) :
    y = x ∨ y ∈ xs := by
  unfold insertBefore at h
  rcases List.mem_append.1 h with h | h
  · exact .inr (List.mem_of_mem_take h)
  · rcases List.mem_cons.1 h with h | h
    · exact .inl h
    · exact .inr (List.mem_of_mem_drop h)

theorem mem_modify
    {α : Type} {xs : List α} {index : Nat} {f : α → α} {y : α}
    (h : y ∈ xs.modify index f) :
    y ∈ xs ∨ ∃ x ∈ xs, y = f x := by
  induction xs generalizing index with
  | nil => simp at h
  | cons x xs ih =>
      cases index with
      | zero =>
          rw [List.modify_zero_cons] at h
          rcases List.mem_cons.1 h with rfl | h
          · exact .inr ⟨x, by simp, rfl⟩
          · exact .inl (List.mem_cons_of_mem _ h)
      | succ index =>
          rw [List.modify_succ_cons] at h
          rcases List.mem_cons.1 h with rfl | h
          · exact .inl (by simp)
          · rcases ih h with h | ⟨z, hz, rfl⟩
            · exact .inl (List.mem_cons_of_mem _ h)
            · exact .inr ⟨z, List.mem_cons_of_mem _ hz, rfl⟩

theorem undo?_eq_some
    {g g' : Grid} {e : Edit}
    (h : g.undo? = some (e, g')) :
    ∃ past, g.history.past = e :: past
      ∧ g' = { g.write e.position e.before with
          history := { g.history with past := past, future := e :: g.history.future } } := by
  obtain ⟨⟨edit, history⟩, hhistory, h⟩ := Option.bind_eq_some_iff.1 h
  obtain ⟨rfl, rfl⟩ := Prod.mk.inj (Option.some.inj h)
  unfold History.undo? at hhistory
  split at hhistory
  · simp at hhistory
  · next e past hpast =>
      obtain ⟨rfl, rfl⟩ := Prod.mk.inj (Option.some.inj hhistory)
      exact ⟨past, hpast, rfl⟩

theorem redo?_eq_some
    {g g' : Grid} {e : Edit}
    (h : g.redo? = some (e, g')) :
    ∃ future, g.history.future = e :: future
      ∧ g' = { g.write e.position e.after with
          history := { g.history with
            past := (e :: g.history.past).take g.history.limit, future := future } } := by
  obtain ⟨⟨edit, history⟩, hhistory, h⟩ := Option.bind_eq_some_iff.1 h
  obtain ⟨rfl, rfl⟩ := Prod.mk.inj (Option.some.inj h)
  unfold History.redo? at hhistory
  split at hhistory
  · simp at hhistory
  · next e future hfuture =>
      obtain ⟨rfl, rfl⟩ := Prod.mk.inj (Option.some.inj hhistory)
      exact ⟨future, hfuture, rfl⟩

theorem rowCount_le_write
    (g : Grid) (r : Reference) (cell : Option Cell) :
    g.rowCount ≤ (g.write r cell).rowCount := by
  unfold write
  split
  · exact Nat.le_refl _
  · show g.rowCount ≤ (List.modify _ _ _).length
    rw [List.length_modify, length_growRows]
    exact Nat.le_max_left _ _

theorem history_write
    (g : Grid) (r : Reference) (cell : Option Cell) :
    (g.write r cell).history = g.history := by
  unfold write
  split <;> rfl

/-- Putting a cell writes it and records the change, or changes nothing since
the cell is there. -/
theorem put_cases
    (g : Grid) (r : Reference) {cell : Option Cell}
    (hcell : cell ≠ some .blank) :
    (Cell.equalContents (g.get? r) cell = true ∧ g.put r cell true = g)
      ∨ (Cell.equalContents (g.get? r) cell = false
        ∧ g.put r cell true
          = { g.write r cell with history := g.history.push ⟨r, g.get? r, cell⟩ }) := by
  cases h : Cell.equalContents (g.get? r) cell with
  | true => exact .inl ⟨rfl, by simp [put, unlessBlank_of_ne hcell, h]⟩
  | false => exact .inr ⟨rfl, by simp [put, unlessBlank_of_ne hcell, h, history_write]⟩

/-- What is put at an empty position stands there. -/
theorem get?_put_of_get?_eq_none
    {g : Grid} {r : Reference} {c : Cell}
    (hnone : g.get? r = none)
    (hblank : c ≠ .blank) :
    (g.put r (some c) true).get? r = some c := by
  rcases g.put_cases r (fun h => hblank (Option.some.inj h)) with ⟨hequal, -⟩ | ⟨-, hput⟩
  · rw [hnone] at hequal
    cases hequal
  · rw [hput]
    exact g.get?_write_self r (some c)

theorem rows_ne_nil_of_write
    {g : Grid}
    (h : g.rows ≠ [])
    (r : Reference) (cell : Option Cell) :
    (g.write r cell).rows ≠ [] := by
  have hcount := rowCount_le_write g r cell
  have hpos : 0 < g.rowCount := List.length_pos_iff.2 h
  exact List.length_pos_iff.1 (Nat.lt_of_lt_of_le hpos hcount)

/-- No change takes the last row. -/
theorem rows_ne_nil_of_change
    {g g' : Grid}
    (h : g.rows ≠ [])
    (hchange : g.Change g') :
    g'.rows ≠ [] := by
  cases hchange with
  | same => exact h
  | @put r raw cell hcell =>
      rcases g.put_cases r (ofInput?_ne_blank hcell) with ⟨-, hput⟩ | ⟨-, hput⟩
      · rw [hput]
        exact h
      · rw [hput]
        exact rows_ne_nil_of_write h r cell
  | undo hundo =>
      obtain ⟨past, -, rfl⟩ := undo?_eq_some hundo
      exact rows_ne_nil_of_write h _ _
  | redo hredo =>
      obtain ⟨future, -, rfl⟩ := redo?_eq_some hredo
      exact rows_ne_nil_of_write h _ _
  | @restructure op index _ hop =>
      obtain ⟨hadmits, rfl⟩ := Restructuring.grid_eq_ok hop
      cases op with
      | insertRow => simp [Restructuring.rows, insertBefore]
      | insertColumn => simpa [Restructuring.rows, paddedRows] using h
      | deleteRow =>
          obtain ⟨hcount, -, -⟩ := hadmits
          refine List.ne_nil_of_length_pos ?_
          unfold rowCount at hcount
          rw [Restructuring.rows, List.length_eraseIdx]
          split <;> omega
      | deleteColumn => simpa [Restructuring.rows] using h
  | sort hsort =>
      obtain ⟨hperm, -, -⟩ := perm_rows_of_sort hsort
      intro hnil
      rw [hnil] at hperm
      exact h hperm.nil_eq.symm

section Rows

variable {p : Option Cell → Prop} (hnone : p none)

include hnone

theorem forall_blankRow
    (width : Nat) :
    ∀ cell ∈ blankRow width, p cell := by
  intro cell hcell
  rw [List.eq_of_mem_replicate hcell]
  exact hnone

theorem forall_padded
    {row : Row}
    (h : ∀ cell ∈ row, p cell)
    (width : Nat) :
    ∀ cell ∈ padded width row, p cell := by
  intro cell hcell
  rcases List.mem_append.1 hcell with hcell | hcell
  · exact h cell hcell
  · exact forall_blankRow hnone _ cell hcell

theorem forall_writeRow
    {row : Row} {cell : Option Cell}
    (h : ∀ cell ∈ row, p cell)
    (col : Nat)
    (hcell : p cell) :
    ∀ c ∈ writeRow row col cell, p c := by
  intro c hc
  rcases List.mem_or_eq_of_mem_set hc with hc | rfl
  · exact forall_padded hnone h _ c hc
  · exact hcell

theorem forall_growRows
    {rows : List Row}
    (h : ∀ row ∈ rows, ∀ cell ∈ row, p cell)
    (index width : Nat) :
    ∀ row ∈ growRows rows index width, ∀ cell ∈ row, p cell := by
  intro row hrow
  unfold growRows at hrow
  split at hrow
  · exact h row hrow
  · rcases List.mem_append.1 hrow with hrow | hrow
    · exact h row hrow
    · rw [List.eq_of_mem_replicate hrow]
      exact forall_blankRow hnone width

namespace AllContents

variable {g : Grid}

theorem get?
    (h : g.AllContents p)
    (r : Reference) :
    p (g.get? r) := by
  rw [get?_eq]
  cases hrow : g.rows[r.row]? with
  | none => exact hnone
  | some row =>
      rw [Option.bind_some]
      cases hcell : row[r.col]? with
      | none => exact hnone
      | some cell => exact h.cells row (List.mem_of_getElem? hrow) cell (List.mem_of_getElem? hcell)

theorem write
    {cell : Option Cell}
    (h : g.AllContents p)
    (r : Reference)
    (hcell : p cell) :
    (g.write r cell).AllContents p := by
  unfold Grid.write
  split
  · exact h
  · refine ⟨?_, h.edits⟩
    intro row hrow
    have hgrown := forall_growRows hnone h.cells r.row g.width
    rcases mem_modify hrow with hrow | ⟨old, hold, rfl⟩
    · exact hgrown row hrow
    · exact forall_writeRow hnone (hgrown old hold) r.col hcell

theorem put
    {cell : Option Cell}
    (h : g.AllContents p)
    (r : Reference)
    (hblank : cell ≠ some .blank)
    (hcell : p cell) :
    (g.put r cell true).AllContents p := by
  rcases g.put_cases r hblank with ⟨-, hput⟩ | ⟨-, hput⟩
  · rw [hput]
    exact h
  · rw [hput]
    refine ⟨(h.write hnone r hcell).cells, ?_⟩
    intro e he
    simp only [History.push, List.append_nil] at he
    rcases List.mem_cons.1 (List.mem_of_mem_take he) with rfl | he
    · exact ⟨h.get? hnone r, hcell⟩
    · exact h.edits e (List.mem_append_left _ he)

theorem undo
    {g' : Grid} {e : Edit}
    (h : g.AllContents p)
    (hundo : g.undo? = some (e, g')) :
    g'.AllContents p := by
  obtain ⟨past, hpast, rfl⟩ := undo?_eq_some hundo
  have hedits := h.edits
  rw [hpast] at hedits
  refine ⟨(h.write hnone e.position (hedits e (by simp)).1).cells, ?_⟩
  intro d hd
  refine hedits d ?_
  simp only [List.mem_append, List.mem_cons] at hd ⊢
  tauto

theorem redo
    {g' : Grid} {e : Edit}
    (h : g.AllContents p)
    (hredo : g.redo? = some (e, g')) :
    g'.AllContents p := by
  obtain ⟨future, hfuture, rfl⟩ := redo?_eq_some hredo
  have hedits := h.edits
  rw [hfuture] at hedits
  refine ⟨(h.write hnone e.position (hedits e (by simp)).2).cells, ?_⟩
  intro d hd
  refine hedits d ?_
  rcases List.mem_append.1 hd with hd | hd
  · have := List.mem_of_mem_take hd
    simp only [List.mem_append, List.mem_cons] at this ⊢
    tauto
  · exact List.mem_append_right _ (List.mem_cons_of_mem _ hd)

theorem restructure
    {g' : Grid} {op : Restructuring} {index : Int}
    (h : g.AllContents p)
    (hop : op.grid g index = .ok (some g')) :
    g'.AllContents p := by
  obtain ⟨-, rfl⟩ := Restructuring.grid_eq_ok hop
  refine ⟨?_, by simp [History.clear, History.empty]⟩
  intro row hrow
  cases op with
  | insertRow =>
      rcases mem_insertBefore hrow with rfl | hrow
      · exact forall_blankRow hnone _
      · exact h.cells row hrow
  | insertColumn =>
      obtain ⟨filled, hfilled, rfl⟩ := List.mem_map.1 hrow
      obtain ⟨old, hold, rfl⟩ := List.mem_map.1 hfilled
      intro cell hcell
      rcases mem_insertBefore hcell with rfl | hcell
      · exact hnone
      · exact forall_padded hnone (h.cells old hold) _ cell hcell
  | deleteRow => exact h.cells row (List.mem_of_mem_eraseIdx hrow)
  | deleteColumn =>
      obtain ⟨old, hold, rfl⟩ := List.mem_map.1 hrow
      exact fun cell hcell => h.cells old hold cell (List.mem_of_mem_eraseIdx hcell)

omit hnone in
theorem sort
    {g' : Grid} {today : Date} {col : Int} {ascending : Bool} {frozen : Int}
    (h : g.AllContents p)
    (hsort : g.sortByColumn? today col ascending frozen = .ok (some g')) :
    g'.AllContents p := by
  obtain ⟨hperm, -, hhistory⟩ := perm_rows_of_sort hsort
  refine ⟨fun row hrow => h.cells row (hperm.mem_iff.1 hrow), ?_⟩
  rcases hhistory with hhistory | hhistory
  · rw [hhistory]
    exact h.edits
  · rw [hhistory]
    simp [History.clear, History.empty]

/-- What holds of the empty content and of all that can be typed holds of the
contents of a grid whatever is done to it. -/
theorem change
    {g' : Grid}
    (h : g.AllContents p)
    (htyped : ∀ raw cell, Cell.ofInput? raw = .ok cell → p cell)
    (hchange : g.Change g') :
    g'.AllContents p := by
  cases hchange with
  | same => exact h
  | put hcell => exact h.put hnone _ (ofInput?_ne_blank hcell) (htyped _ _ hcell)
  | undo hundo => exact h.undo hnone hundo
  | redo hredo => exact h.redo hnone hredo
  | restructure hop => exact h.restructure hnone hop
  | sort hsort => exact h.sort hsort

end AllContents

end Rows

end Lemmas

end Grid
end Spreadsheet
