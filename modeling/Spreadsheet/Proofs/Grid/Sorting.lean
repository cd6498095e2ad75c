import Spreadsheet.Grid.Sorting
import Spreadsheet.Proofs.Except

/-!
# Sorting moves whole rows

Result: a sort that returns only puts the rows in another order
(`sortByColumn?_eq_ok`, `perm_rows_of_sort`).
-/

namespace Spreadsheet
namespace Grid

section Lemmas

theorem length_mapM_state
    {σ α β : Type}
    (f : α → StateM σ β) (xs : List α) (start : σ) :
    ((xs.mapM f).run start).1.length = xs.length := by
  induction xs generalizing start with
  | nil => rfl
  | cons x xs ih =>
      rw [List.mapM_cons]
      exact congrArg (· + 1) (ih _)

theorem length_sortKeys
    (g : Grid) (today : Date) (col first count : Nat) :
    (g.sortKeys today col first count).length = count := by
  rw [sortKeys, length_mapM_state, List.length_range']

theorem length_sortTexts
    {col : Nat} {rows : List Row} {keys : List String}
    (h : sortTexts col rows = .ok keys) :
    keys.length = rows.length :=
  (forall₂_of_mapM_eq_ok h).length_eq.symm

/-- Rows sorted by keys, one for each, are the same rows. -/
theorem perm_map_sortedBy
    {κ : Type} {le : κ → κ → Bool} {ascending : Bool} {keys : List κ} {rows : List Row}
    (h : keys.length = rows.length) :
    ((sortedBy le ascending (keys.zip rows)).map (·.2)).Perm rows := by
  refine ((perm_sortedBy le ascending (keys.zip rows)).map (·.2)).trans ?_
  rw [List.map_snd_zip (Nat.le_of_eq h.symm)]

/-- A sort that returns puts the rows below the frozen ones in another order and
forgets the history, or has fewer than two rows to sort and does nothing. -/
theorem sortByColumn?_eq_ok
    {g g' : Grid} {today : Date} {col : Int} {ascending : Bool} {frozen : Int}
    (h : g.sortByColumn? today col ascending frozen = .ok (some g')) :
    if frozen.toNat + 2 ≤ g.rowCount then
      ∃ sorted, sorted.Perm (g.rows.drop frozen.toNat)
        ∧ g' = { g with
            rows := g.rows.take frozen.toNat ++ sorted
            history := g.history.clear }
    else
      g' = g := by
  have hbody : (g.rows.drop frozen.toNat).length = g.rowCount - frozen.toNat :=
    List.length_drop
  unfold sortByColumn? at h
  split at h
  · simp at h
  · simp only at h
    split at h
    · rw [if_neg (by omega)]
      exact (Option.some.inj (Except.ok.inj h)).symm
    · rw [if_pos (by omega)]
      split at h
      · obtain rfl := Option.some.inj (Except.ok.inj h)
        exact ⟨_, perm_map_sortedBy (length_sortKeys ..), rfl⟩
      · obtain ⟨sorted, hsorted, h⟩ := bind_eq_ok_iff.1 h
        obtain rfl := Option.some.inj (Except.ok.inj h)
        obtain ⟨keys, hkeys, hsorted⟩ := bind_eq_ok_iff.1 hsorted
        obtain rfl := Except.ok.inj hsorted
        exact ⟨_, perm_map_sortedBy (length_sortTexts hkeys), rfl⟩

/-- Sorted or not, the grid has the same rows. -/
theorem perm_rows_of_sort
    {g g' : Grid} {today : Date} {col : Int} {ascending : Bool} {frozen : Int}
    (h : g.sortByColumn? today col ascending frozen = .ok (some g')) :
    g'.rows.Perm g.rows ∧ g'.minColumns = g.minColumns
      ∧ (g'.history = g.history ∨ g'.history = g.history.clear) := by
  have hsort := sortByColumn?_eq_ok h
  split at hsort
  · obtain ⟨sorted, hperm, rfl⟩ := hsort
    refine ⟨?_, rfl, .inr rfl⟩
    conv_rhs => rw [← List.take_append_drop frozen.toNat g.rows]
    exact hperm.append_left _
  · subst hsort
    exact ⟨.refl _, rfl, .inl rfl⟩

end Lemmas

end Grid
end Spreadsheet
