import Spreadsheet.Number.Printer
import Spreadsheet.Number.Reader

/-!
# Scalars

What a cell can hold and a formula can yield: a truth value, a number or a
text.  A missing scalar is the value of an empty cell.

Two scalars are equal in value when their numbers are, a truth value counting
as one or zero.

Result: equality in value is symmetric (`Scalar.equal_comm`).
-/

namespace Spreadsheet

/-- A truth value, a number or a text. -/
inductive Scalar where
  | bool (b : Bool)
  | number (x : Number)
  | text (s : String)
deriving DecidableEq

namespace Scalar

/-- The number that a scalar stands for in a comparison of values. -/
def comparand? : Scalar → Option Number
  | .bool b => some (.int (if b then 1 else 0))
  | .number x => some x
  | .text _ => none

/-- Equality in value. -/
def equal : Scalar → Scalar → Bool
  | .text s, .text t => s == t
  | x, y =>
      match x.comparand?, y.comparand? with
      | some a, some b => a.equal b
      | _, _ => false

/-- The number that arithmetic sees: zero for a truth value, the number at the
front for a text. -/
def coerce : Scalar → Except Fault Number
  | .bool _ => return .int 0
  | .number x => return x
  | .text s => Number.coerceText s.toList

/-- A truth value in capitals. -/
def truthText (b : Bool) : String :=
  if b then "TRUE" else "FALSE"

/-- The text that joining and exporting give. -/
def plain : Scalar → Except Fault String
  | .bool b => return truthText b
  | .number x => x.plain
  | .text s => return s

section Lemmas

theorem equal_comm
    (x y : Scalar) :
    x.equal y = y.equal x := by
  cases x <;> cases y <;>
    simp [equal, comparand?, Number.equal_comm, Bool.beq_comm]

end Lemmas

end Scalar

/-- Equality in value of scalars that may be missing. -/
def equalValues : Option Scalar → Option Scalar → Bool
  | none, none => true
  | some x, some y => x.equal y
  | _, _ => false

/-- The number that arithmetic sees, zero for a missing scalar. -/
def coerceValue : Option Scalar → Except Fault Number
  | none => return .int 0
  | some x => x.coerce

end Spreadsheet
