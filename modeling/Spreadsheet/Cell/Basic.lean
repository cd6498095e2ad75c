import Spreadsheet.Scalar

/-!
# Cells

The content of one position of the grid.  A cell holds a scalar together with
the kind of thing it was taken for, or it holds the source of a formula, which
is evaluated whenever the cell is read.  A cell may also be blank, and then has
neither kind nor format.

Results: only a blank cell has no value (`Cell.value?_eq_none_iff`), and a cell
that does not hold the undefined number equals itself (`Cell.equal_self`).
-/

namespace Spreadsheet

/-- What a scalar in a cell was taken for. -/
inductive Kind where
  | text
  | number
  | currency
  | date
  | checkbox
deriving DecidableEq, Repr

namespace Kind

/-- The name of a kind in stored documents. -/
def name : Kind → String
  | .text => "text"
  | .number => "number"
  | .currency => "currency"
  | .date => "date"
  | .checkbox => "checkbox"

/-- The kind with a name. -/
def ofName? : String → Option Kind
  | "text" => some .text
  | "number" => some .number
  | "currency" => some .currency
  | "date" => some .date
  | "checkbox" => some .checkbox
  | _ => none

@[simp] theorem ofName?_name
    (k : Kind) :
    ofName? k.name = some k := by
  cases k <;> rfl

end Kind

/-- The content of a position. -/
inductive Cell where
  | blank
  | plain (value : Scalar) (kind : Kind) (format : Option String)
  | formula (source : String) (nonempty : source ≠ "") (format : Option String)
deriving DecidableEq

/-- The name of the type of formula cells in stored documents. -/
def formulaTypeName : String := "formula"

namespace Cell

/-- The stored value; that of a formula is its source. -/
def value? : Cell → Option Scalar
  | .blank => none
  | .plain value _ _ => some value
  | .formula source _ _ => some (.text source)

/-- The name of the type. -/
def typeName : Cell → String
  | .blank => Kind.text.name
  | .plain _ kind _ => kind.name
  | .formula _ _ _ => formulaTypeName

/-- The hint for displaying numbers. -/
def format? : Cell → Option String
  | .blank => none
  | .plain _ _ format => format
  | .formula _ _ format => format

/-- The source of a formula cell. -/
def formula? : Cell → Option String
  | .formula source _ _ => some source
  | _ => none

/-- The cell holds nothing. -/
def isBlank : Cell → Bool
  | .blank => true
  | _ => false

/-- The formula that the cell evaluates: that of a formula cell, and any text
that starts like one. -/
def source? : Cell → Option String
  | .formula source _ _ => some source
  | .plain (.text s) _ _ => if s.front? = some '=' then some s else none
  | _ => none

/-- Equality of cells, their values compared as values. -/
def equal (a b : Cell) : Bool :=
  equalValues a.value? b.value? && a.typeName == b.typeName && a.formula? == b.formula?
    && a.format? == b.format?

/-- The cell unless it is blank. -/
def unlessBlank : Option Cell → Option Cell
  | some .blank => none
  | c => c

/-- Equality of positions that may be empty. -/
def equalContents : Option Cell → Option Cell → Bool
  | none, none => true
  | some a, some b => a.equal b
  | _, _ => false

section Lemmas

theorem value?_eq_none_iff
    {c : Cell} :
    c.value? = none ↔ c = .blank := by
  cases c <;> simp [value?]

/-- A cell that does not hold the undefined number equals itself. -/
theorem equal_self
    {c : Cell}
    (h : c.value? ≠ some (.number (.float .nan))) :
    c.equal c = true := by
  have hvalue : equalValues c.value? c.value? = true := by
    cases hv : c.value? with
    | none => rfl
    | some x =>
        cases x with
        | bool b => exact Number.equal_self (by simp)
        | number x =>
            refine Number.equal_self ?_
            rintro rfl
            exact h hv
        | text s => simp [equalValues, Scalar.equal]
  simp [equal, hvalue]

theorem unlessBlank_ne_blank
    (c : Option Cell) :
    unlessBlank c ≠ some .blank := by
  unfold unlessBlank
  split
  · simp
  · next h => exact h

end Lemmas

end Cell
end Spreadsheet
