import Spreadsheet.Binary64.Basic

/-!
# Order of binary numbers

A number that is not undefined has a place on the line of whole multiples of
the smallest positive number, with infinity at either end.  Places are compared
exactly; both zeros have the same place.

Result: comparing places is antisymmetric (`Place.compare_swap`).
-/

namespace Spreadsheet

/-- A place on the number line, in multiples of the smallest positive binary
number. -/
inductive Place where
  | bottom
  | at (units : Int)
  | top
deriving DecidableEq, Repr

namespace Place

/-- The order of two places. -/
def compare : Place → Place → Ordering
  | .bottom, .bottom => .eq
  | .bottom, _ => .lt
  | _, .bottom => .gt
  | .top, .top => .eq
  | _, .top => .lt
  | .top, _ => .gt
  | .at i, .at j => Ord.compare i j

theorem compare_self
    (p : Place) :
    p.compare p = .eq := by
  cases p <;> simp [compare]

theorem compare_swap
    (p q : Place) :
    (p.compare q).swap = q.compare p := by
  cases p <;> cases q <;> try rfl
  exact Int.compare_swap _ _

end Place

namespace Binary64

/-- The place of a number; the undefined result has none. -/
def place? : Binary64 → Option Place
  | .finite negative units _ => some (.at (signedUnits negative units))
  | .infinite true => some .bottom
  | .infinite false => some .top
  | .nan => none

end Binary64
end Spreadsheet
