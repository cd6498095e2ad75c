/-!
# References

A cell of the grid is named by its column and row, both counted from zero.
-/

namespace Spreadsheet

/-- The position of a cell. -/
structure Reference where
  col : Nat
  row : Nat
deriving DecidableEq, Repr, Hashable

namespace Reference

/-- The position with these coordinates, if neither is negative. -/
def ofInts? (col row : Int) : Option Reference :=
  if 0 ≤ col ∧ 0 ≤ row then some ⟨col.toNat, row.toNat⟩ else none

@[simp] theorem ofInts?_natCast
    (col row : Nat) :
    ofInts? col row = some ⟨col, row⟩ := by
  simp [ofInts?]

end Reference
end Spreadsheet
