import Spreadsheet.Proofs.Grid.Sorting

/-!
# Stable sorting of rows

A list of items sorted by their keys is the given list in another order of its
places, and ties keep theirs.  Where the order of keys is turned round, the order
of ties is not.

Results: rows sorted by keys are arranged in the order of these
(`arranges_sortedBy`).  Where the keys are read off the rows, these come out in
order (`pairwise_sortedBy_zip`), and are not moved if they are in order already
(`sortedBy_zip_of_pairwise`).
-/

namespace Spreadsheet
namespace Grid

section Lemmas

section Keys

variable {κ α : Type} {le : κ → κ → Bool}
  (htrans : ∀ a b c, le a b = true → le b c = true → le a c = true)
  (htotal : ∀ a b, (le a b || le b a) = true)

include htrans in
theorem trans_of_direction
    (ascending : Bool) (a b c : κ × α)
    (h : (if ascending then le a.1 b.1 else le b.1 a.1) = true)
    (h' : (if ascending then le b.1 c.1 else le c.1 b.1) = true) :
    (if ascending then le a.1 c.1 else le c.1 a.1) = true := by
  cases ascending with
  | true => exact htrans _ _ _ h h'
  | false => exact htrans _ _ _ h' h

include htotal in
theorem total_of_direction
    (ascending : Bool) (a b : κ × α) :
    ((if ascending then le a.1 b.1 else le b.1 a.1)
      || (if ascending then le b.1 a.1 else le a.1 b.1)) = true := by
  cases ascending with
  | true => exact htotal _ _
  | false => exact htotal _ _

theorem take_drop_of_append
    {frozen : Nat} {rows : List α}
    (h : frozen ≤ rows.length) (sorted : List α) :
    (rows.take frozen ++ sorted).take frozen = rows.take frozen
      ∧ (rows.take frozen ++ sorted).drop frozen = sorted := by
  have htake : (rows.take frozen).length = frozen := List.length_take_of_le h
  exact ⟨List.take_left' htake, List.drop_left' htake⟩

/-- Rows whose keys are read off them, in the order of the keys. -/
theorem sortedBy_zip_eq_mergeSort
    (key : α → κ) (ascending : Bool) (rows : List α) :
    (sortedBy le ascending ((rows.map key).zip rows)).map (·.2)
      = rows.mergeSort fun a b =>
          if ascending then le (key a) (key b) else le (key b) (key a) := by
  have hzip : (rows.map key).zip rows = rows.map fun row => (key row, row) := by
    have h := List.zip_map' (f := key) (g := id) (l := rows)
    rwa [List.map_id] at h
  have hsort := List.map_mergeSort (f := fun row => (key row, row)) (l := rows)
    (r := fun a b => if ascending then le (key a) (key b) else le (key b) (key a))
    (s := fun a b => if ascending then le a.1 b.1 else le b.1 a.1) fun _ _ _ _ => rfl
  rw [hzip, sortedBy, ← hsort, List.map_map]
  exact List.map_id _

include htrans htotal in
theorem pairwise_sortedBy_zip
    (key : α → κ) (ascending : Bool) (rows : List α) :
    ((sortedBy le ascending ((rows.map key).zip rows)).map (·.2)).Pairwise fun a b =>
      (if ascending then le (key a) (key b) else le (key b) (key a)) = true := by
  rw [sortedBy_zip_eq_mergeSort]
  refine List.pairwise_mergeSort ?_ ?_ rows
  · intro a b c
    exact trans_of_direction htrans ascending (key a, a) (key b, b) (key c, c)
  · intro a b
    exact total_of_direction htotal ascending (key a, a) (key b, b)

/-- Rows in the order of keys that are read off them are not moved. -/
theorem sortedBy_zip_of_pairwise
    {key : α → κ} {ascending : Bool} {rows : List α}
    (h : rows.Pairwise fun a b =>
      (if ascending then le (key a) (key b) else le (key b) (key a)) = true) :
    (sortedBy le ascending ((rows.map key).zip rows)).map (·.2) = rows := by
  rw [sortedBy_zip_eq_mergeSort]
  exact List.mergeSort_of_pairwise h

end Keys

end Lemmas

end Grid
end Spreadsheet
