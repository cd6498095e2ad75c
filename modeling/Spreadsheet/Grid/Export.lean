import Spreadsheet.Delimited
import Spreadsheet.Grid.Basic

/-!
# Export

The grid as delimited text: a line for each row, all rows cut or filled to the
last column that holds a cell, formulas replaced by their values.

Results: an empty position exports as the empty text (`exportText_none`), and
every exported row has the exported width (`length_cutTo`).
-/

namespace Spreadsheet
namespace Grid

/-- The exported text of a value. -/
def exportValue : Option Scalar → Except Fault String
  | none => return ""
  | some x => x.plain

/-- The exported text of a position. -/
def exportText (src : Formula.Source) (today : Date) : Option Cell → Except Fault String
  | none => return ""
  | some cell =>
      match cell.source? with
      | some text => exportValue (src.evaluate today text)
      | none => exportValue cell.value?

/-- How long a row is up to its last cell. -/
def usedWidth (row : Row) : Nat :=
  (row.reverse.dropWhile Option.isNone).length

/-- How many columns are exported, at least one. -/
def exportWidth (rows : List Row) : Nat :=
  rows.foldl (fun width row => max width (usedWidth row)) 1

/-- The positions of a row up to a width. -/
def cutTo (width : Nat) (row : Row) : Row :=
  padded width (row.take width)

/-- The grid as delimited text. -/
def exportDelimited (g : Grid) (today : Date) (delimiter : String) : Except Fault String :=
  match delimiter.toList with
  | [d] => do
      let src := g.source
      let width := exportWidth g.rows
      let records ← g.rows.mapM fun row => (cutTo width row).mapM (exportText src today)
      return String.ofList
        (Delimited.write d (records.map fun record => record.map String.toList))
  | _ => .error .wrongType

section Lemmas

@[simp] theorem exportText_none
    (src : Formula.Source) (today : Date) :
    exportText src today none = .ok "" := rfl

theorem length_cutTo
    (width : Nat) (row : Row) :
    (cutTo width row).length = width := by
  simp only [cutTo, length_padded, List.length_take]
  omega

end Lemmas

end Grid
end Spreadsheet
