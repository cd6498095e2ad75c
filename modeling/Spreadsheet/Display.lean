import Spreadsheet.Cell.Entry
import Spreadsheet.Formula.Source

/-!
# Displayed text

What a position of the sheet shows.  Numbers are grouped, amounts of money get
their symbol and two places, dates their month first, truth values a ballot
box; a formula shows its value.

Results: an empty position shows nothing (`displayAt_none`), and a formula
shows what its value shows (`display_formula`).
-/

namespace Spreadsheet

/-- The ballot box of a truth value. -/
def ballotBox (checked : Bool) : String :=
  if checked then "☑" else "☐"

/-- The shown text of a value: an amount of money if the format asks for one. -/
def displayValue (value : Option Scalar) (format symbol : Option String) :
    Except Fault String :=
  match value with
  | none => return ""
  | some (.bool b) => return Scalar.truthText b
  | some (.number x) =>
      match currencySymbol? format symbol with
      | some symbol => x.currency symbol
      | none => x.grouped
  | some (.text s) => return s

/-- What stands for the symbol of amounts where there is none. -/
def missingSymbol : String := "None"

/-- The symbol of an amount in a cell: the one that its format names, else the
usual one. -/
def amountSymbol (format symbol : Option String) : String :=
  match currencySymbol? format symbol with
  | none => symbol.getD missingSymbol
  | some named => if named.isEmpty then symbol.getD missingSymbol else named

namespace Cell

/-- The shown text of a stored value. -/
def displayPlain (value : Scalar) (kind : Kind) (format symbol : Option String) :
    Except Fault String :=
  match value with
  | .bool checked => return ballotBox checked
  | .number x =>
      match kind with
      | .currency => x.currency (amountSymbol format symbol)
      | .date => x.standard
      | _ => x.grouped
  | .text s =>
      match kind with
      | .date => return ((Date.parse? s.toList).map Date.format).getD s
      | _ => return s

/-- The shown text of a cell. -/
def display (src : Formula.Source) (today : Date) (symbol : Option String) (c : Cell) :
    Except Fault String :=
  match c.source? with
  | some text => displayValue (src.evaluate today text) c.format? symbol
  | none =>
      match c with
      | .plain value kind format => displayPlain value kind format symbol
      | _ => return ""

/-- The shown text of a position. -/
def displayAt (src : Formula.Source) (today : Date) (symbol : Option String) :
    Option Cell → Except Fault String
  | none => return ""
  | some c => c.display src today symbol

section Lemmas

@[simp] theorem displayAt_none
    (src : Formula.Source) (today : Date) (symbol : Option String) :
    displayAt src today symbol none = .ok "" := rfl

theorem display_formula
    (src : Formula.Source) (today : Date) (symbol : Option String) (source : String)
    (h : source ≠ "") (format : Option String) :
    display src today symbol (.formula source h format)
      = displayValue (src.evaluate today source) format symbol := rfl

end Lemmas

end Cell
end Spreadsheet
