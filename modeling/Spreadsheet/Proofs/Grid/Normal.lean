import Spreadsheet.Proofs.Grid.Contents

/-!
# Grids in normal form

A grid has at least one row, and neither its cells nor its edits hold a blank
cell: a position without content is empty.

Results: every change of a grid keeps the normal form (`IsNormal.change`), and a
grid made of rows is in it and has no history (`isNormal_ofRows`,
`history_ofRows`).
-/

namespace Spreadsheet

section Lemmas

/-- A history begins empty, and with a positive limit. -/
theorem History.ofLimit_eq_ok
    {ε : Type} {limit : Int} {h : History ε}
    (hlimit : ofLimit limit = .ok h) :
    1 ≤ limit ∧ h = .empty limit.toNat := by
  unfold ofLimit at hlimit
  split at hlimit
  · obtain ⟨text, -, hlimit⟩ := bind_eq_ok_iff.1 hlimit
    simp [throw, throwThe, MonadExceptOf.throw] at hlimit
  · split at hlimit
    · exact ⟨by omega, (Except.ok.inj hlimit).symm⟩
    · simp at hlimit

end Lemmas

namespace Grid

/-- No position of the row holds a blank cell. -/
def IsNormalRow (row : Row) : Prop := ∀ cell ∈ row, cell ≠ some .blank

/-- The grid has a row, and no blank cell stands in it or in its history. -/
structure IsNormal (g : Grid) : Prop where
  rows : g.rows ≠ []
  cells : ∀ row ∈ g.rows, IsNormalRow row
  edits : ∀ e ∈ g.history.past ++ g.history.future,
    e.before ≠ some .blank ∧ e.after ≠ some .blank

section Lemmas

theorem isNormalRow_blankRow
    (width : Nat) :
    IsNormalRow (blankRow width) :=
  forall_blankRow (by simp) width

theorem IsNormalRow.padded
    {row : Row}
    (h : IsNormalRow row)
    (width : Nat) :
    IsNormalRow (padded width row) :=
  forall_padded (by simp) h width

/-- Every change of a grid keeps the normal form. -/
theorem IsNormal.change
    {g g' : Grid}
    (h : g.IsNormal)
    (hchange : g.Change g') :
    g'.IsNormal := by
  have hcontents : g.AllContents (· ≠ some .blank) := ⟨h.cells, h.edits⟩
  have hkept := hcontents.change (by simp) (fun _ _ => ofInput?_ne_blank) hchange
  exact ⟨rows_ne_nil_of_change h.rows hchange, hkept.cells, hkept.edits⟩

theorem isNormalRow_unlessBlank
    (row : Row) :
    IsNormalRow (row.map Cell.unlessBlank) := by
  intro cell hcell
  obtain ⟨old, -, rfl⟩ := List.mem_map.1 hcell
  exact Cell.unlessBlank_ne_blank old

/-! A grid made of rows. -/

section OfRows

variable {rows : List Row} {minColumns : Number} {undoLimit : Int} {g : Grid}

theorem ofRows_eq_ok
    (h : ofRows rows minColumns undoLimit = .ok g) :
    ∃ filled, someRows (leastWidth minColumns) rows = .ok filled
      ∧ History.ofLimit undoLimit = .ok g.history
      ∧ g = ⟨leastWidth minColumns, filled, .empty undoLimit.toNat⟩ := by
  obtain ⟨filled, hfilled, h⟩ := bind_eq_ok_iff.1 h
  obtain ⟨history, hhistory, h⟩ := bind_eq_ok_iff.1 h
  obtain rfl := Except.ok.inj h
  obtain ⟨-, rfl⟩ := History.ofLimit_eq_ok hhistory
  exact ⟨filled, hfilled, hhistory, rfl⟩

/-- A grid made of rows has no history. -/
theorem history_ofRows
    (h : ofRows rows minColumns undoLimit = .ok g) :
    g.history = .empty undoLimit.toNat := by
  obtain ⟨filled, -, -, rfl⟩ := ofRows_eq_ok h
  rfl

/-- A grid made of rows is in normal form. -/
theorem isNormal_ofRows
    (h : ofRows rows minColumns undoLimit = .ok g) :
    g.IsNormal := by
  obtain ⟨filled, hfilled, -, rfl⟩ := ofRows_eq_ok h
  have hedits : ∀ e ∈ (History.empty undoLimit.toNat : History Edit).past
      ++ (History.empty undoLimit.toNat : History Edit).future,
      e.before ≠ some .blank ∧ e.after ≠ some .blank := by
    simp [History.empty]
  unfold someRows at hfilled
  split at hfilled
  · obtain ⟨width, -, hfilled⟩ := bind_eq_ok_iff.1 hfilled
    obtain rfl := Except.ok.inj hfilled
    refine ⟨by simp, ?_, hedits⟩
    intro row hrow
    rw [List.mem_singleton.1 hrow]
    exact isNormalRow_blankRow width
  · next hrows =>
      obtain rfl := Except.ok.inj hfilled
      refine ⟨by simpa using hrows, ?_, hedits⟩
      intro row hrow
      obtain ⟨old, -, rfl⟩ := List.mem_map.1 hrow
      exact isNormalRow_unlessBlank old

end OfRows

end Lemmas

end Grid
end Spreadsheet
