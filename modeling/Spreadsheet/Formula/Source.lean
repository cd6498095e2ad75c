import Spreadsheet.Attempt
import Spreadsheet.Cell.Basic
import Spreadsheet.Formula.Evaluation

/-!
# Reading cells during evaluation

One evaluation computes each formula cell that it meets at most once: finished
values are kept in a `Memo`.  A cell that is met again while its own value is
being computed is a fault.

Which cells may still be entered is given by a list that loses a cell while
that cell is computed; this is also why reading ends.

Result: a cell without a formula reads as its stored value
(`read_of_source?_eq_none`).
-/

namespace Spreadsheet
namespace Formula

/-- The cells that formulas refer to. -/
structure Source where
  columns : Number
  rows : Nat
  cell? : Reference → Option Cell
  /-- The cells that hold a formula. -/
  formulas : List Reference

/-- The finished values of an evaluation. -/
abbrev Memo := List (Reference × Option Scalar)

/-- A computation that may fail and keeps the values finished before. -/
abbrev Evaluation := Attempt Fault Memo

/-- The text in the place of a value that could not be computed. -/
def errorMarker : String := "#ERROR"

namespace Source

/-- The position is empty. -/
def isEmpty (src : Source) (r : Reference) : Bool :=
  match src.cell? r with
  | none | some .blank => true
  | some _ => false

/-- The environment in which cells are read in a given way. -/
def environment {m : Type → Type} (src : Source) (today : Date)
    (value : Reference → m (Option Scalar)) : Environment m where
  columns := src.columns
  rows := src.rows
  isEmpty := src.isEmpty
  value := value
  today := today

/-- The fault of meeting a cell that is being computed. -/
def reentrance (r : Reference) : Fault :=
  match r.label with
  | .ok label => .reentrantReference label
  | .error fault => fault

set_option linter.unusedVariables false in
/-- The value of a cell, where only the cells of `idle` may be computed. -/
def read (src : Source) (today : Date) (idle : List Reference) (r : Reference) :
    Evaluation (Option Scalar) :=
  match src.cell? r with
  | none => pure none
  | some cell =>
      match cell.source? with
      | none => pure cell.value?
      | some text => do
          match (← get).lookup r with
          | some value => return value
          | none =>
              if h : r ∈ idle then
                let env := src.environment today fun s => read src today (idle.erase r) s
                let value ← evaluateText env text.toList
                modify ((r, value) :: ·)
                return value
              else
                throw (reentrance r)
termination_by idle.length
decreasing_by
  rw [List.length_erase_of_mem h]
  have := List.length_pos_of_mem h
  omega

/-- The number that arithmetic sees in a cell. -/
def numeric (src : Source) (today : Date) (r : Reference) : Evaluation Number := do
  ofExcept (coerceValue (← src.read today src.formulas r))

/-- The value of a formula, or why it has none. -/
def attempt (src : Source) (today : Date) (formula : String) : Except Fault (Option Scalar) :=
  let env := src.environment today (src.read today src.formulas)
  ((evaluateText env formula.toList : Evaluation (Option Scalar)).run.run []).1

/-- The value of a formula; the error marker where it has none. -/
def evaluate (src : Source) (today : Date) (formula : String) : Option Scalar :=
  match src.attempt today formula with
  | .ok value => value
  | .error _ => some (.text errorMarker)

section Lemmas

theorem read_of_source?_eq_none
    {src : Source} {today : Date} {idle : List Reference} {r : Reference} {c : Cell}
    (hc : src.cell? r = some c)
    (hs : c.source? = none) :
    src.read today idle r = pure c.value? := by
  rw [read, hc]
  simp [hs]

end Lemmas

end Source
end Formula
end Spreadsheet
