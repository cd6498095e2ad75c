import Spreadsheet.Text.Quoted

/-!
# Faults

The causes for which an operation fails, and the wording of those that have
one.  A cause carries the values that its wording names; a `Rejection` is a
request that the sheet refuses because of the values it was given.

Results: a rejection that names an integer too long to be written is itself the
fault `tooManyDigits` (`reject_of_long`), and a rejection is always a refusal
(`isRefusal_reject`).
-/

namespace Spreadsheet

/-- The most decimal digits an integer may have when it is read or written. -/
def digitLimit : Nat := 4300

/-- The integer has at most `digitLimit` decimal digits. -/
def IsWritable (i : Int) : Prop := i.natAbs < Nat.pow 10 digitLimit

instance (i : Int) : Decidable (IsWritable i) :=
  inferInstanceAs (Decidable (_ < _))

/-- Formula text that cannot be read. -/
inductive SyntaxFault where
  | missingEquals
  | unsafeCharacters (expression : String)
  | unexpectedClosing (position : Nat)
  | missingClosing
  | unterminatedText
  | missingComparison (condition : String)
  | unknownComparison (operator : String)
  | emptyBranch
  /-- No expression has this shape; the column counts from one on its line. -/
  | malformedExpression (column : Nat)
deriving DecidableEq, Repr

/-- A function applied to arguments that it does not take. -/
inductive CallFault where
  | conditionArity
  | joinArity
  | joinEmptyArgument
deriving DecidableEq, Repr

/-- A request refused for the values it was given. -/
inductive Rejection where
  | negativeColumn (column : Int)
  | negativeCoordinates (column row : Int)
  | undoLimit (limit : String)
  | address (text : String)
  | columnLabel (text : String)
  | columnNumber (column : Int)
  | columnOutOfRange (column : Int) (count : String)
  /-- `inclusive` says that the index after the last one is in range too. -/
  | rowIndex (index : Int) (count : String) (inclusive : Bool)
  | columnIndex (index : Int) (count : String) (inclusive : Bool)
  | lastRow
  | lastColumn
  | viewportOrigin
  | negativeFrozenRows
  | negativeFrozenColumns
  | delimiter (text : String)
  | missingPath
deriving DecidableEq, Repr

/-- The ways in which a stored document is malformed. -/
inductive DocumentFault where
  | malformed
  | shape
deriving DecidableEq, Repr

/-- The ways in which a settings file breaks its notation. -/
inductive NotationFault where
  /-- It holds a character that no settings file may hold. -/
  | character
  /-- Its characters make up no word or mark. -/
  | token
  /-- A word or mark stands where it means nothing. -/
  | order
  /-- It names something that it does not define, or goes on after its end. -/
  | reference
  /-- A word stands for no value. -/
  | value
deriving DecidableEq, Repr

/-- What is wrong with the path of a file. -/
inductive FileFault where
  /-- It is not there, or the folder that it is to be in is not. -/
  | missing
  | folder
  /-- What ought to be a folder is a file. -/
  | notAFolder
  /-- There is a file where a folder is to be made. -/
  | taken
deriving DecidableEq, Repr

/-- The cause of a failure. -/
inductive Fault where
  | syntaxFault (cause : SyntaxFault)
  /-- A formula reads a cell whose value is still being computed. -/
  | reentrantReference (label : String)
  | callFault (cause : CallFault)
  | divisionByZero
  | nonFiniteResult
  /-- An integer beyond the range that an operation can represent. -/
  | tooLarge
  /-- More things than memory can hold. -/
  | outOfMemory
  /-- Integer text of more than `digitLimit` digits, read or written. -/
  | tooManyDigits
  /-- A value that has no counterpart of the wanted kind. -/
  | unrepresentable
  | rejected (cause : Rejection)
  | notAMapping (file found : String)
  /-- A settings file that does not keep to its notation. -/
  | unreadableSettings (cause : NotationFault)
  | document (cause : DocumentFault)
  | fileFault (cause : FileFault)
  /-- A record whose fields break its own rules. -/
  | invalidRecord
  | wrongType
  | indexOutOfRange
  | notARecord
deriving DecidableEq, Repr

namespace SyntaxFault

/-- The place of the fault in the text, where it has one. -/
def position : SyntaxFault → Option Nat
  | .missingEquals => some 0
  | .unexpectedClosing position => some position
  | .malformedExpression column => some column
  | _ => none

/-- What is wrong; the shape of an expression is not described in words. -/
def description? : SyntaxFault → Option String
  | .missingEquals => some "Formula must start with '='"
  | .unsafeCharacters expression =>
      some ("Unsafe characters in expression: " ++ Text.quoted expression)
  | .unexpectedClosing _ => some "Unbalanced ')'"
  | .missingClosing => some "Unbalanced '('"
  | .unterminatedText => some "Unterminated string literal"
  | .missingComparison condition =>
      some ("No comparison operator in condition: " ++ Text.quoted condition)
  | .unknownComparison operator =>
      some ("Unknown comparison operator: " ++ Text.quoted operator)
  | .emptyBranch => some "Empty IF argument"
  | .malformedExpression _ => none

/-- The wording, with the place if there is one. -/
def message? (fault : SyntaxFault) : Option String :=
  fault.description?.map fun description =>
    let place :=
      match fault.position with
      | some position => " at " ++ position.repr
      | none => ""
    "cannot parse formula" ++ place ++ ": " ++ description

end SyntaxFault

/-- The wording of a misused function. -/
def CallFault.message : CallFault → String
  | .conditionArity => "IF requires 2-3 arguments"
  | .joinArity => "CONCAT requires at least 1 argument"
  | .joinEmptyArgument => "CONCAT arguments must not be empty"

namespace Rejection

/-- The integers that the wording names. -/
def integers : Rejection → List Int
  | .negativeColumn column => [column]
  | .negativeCoordinates column row => [column, row]
  | .columnNumber column => [column]
  | .columnOutOfRange column _ => [column]
  | .rowIndex index _ _ => [index]
  | .columnIndex index _ _ => [index]
  | _ => []

/-- An index and the range that it misses. -/
def missedRange (name : String) (index : Int) (count : String) (inclusive : Bool) : String :=
  name ++ " " ++ index.repr ++ " out of range [0, " ++ count
    ++ (if inclusive then "]" else ")")

/-- The wording of a refusal. -/
def message : Rejection → String
  | .negativeColumn column => "Column index must be non-negative: " ++ column.repr
  | .negativeCoordinates column row =>
      "Cell coordinates must be non-negative: (" ++ column.repr ++ ", " ++ row.repr ++ ")"
  | .undoLimit limit => "Undo limit must be >= 1, got " ++ limit
  | .address text => "Invalid cell address: " ++ Text.quoted text
  | .columnLabel text => "Invalid column: " ++ Text.quoted text
  | .columnNumber column => "Invalid column: " ++ column.repr
  | .columnOutOfRange column count => missedRange "column" column count false
  | .rowIndex index count inclusive => missedRange "row_idx" index count inclusive
  | .columnIndex index count inclusive => missedRange "col_idx" index count inclusive
  | .lastRow => "Cannot delete the last remaining row"
  | .lastColumn => "Cannot delete the last remaining column"
  | .viewportOrigin => "Viewport origin must be non-negative"
  | .negativeFrozenRows => "frozen rows must be >= 0"
  | .negativeFrozenColumns => "frozen columns must be >= 0"
  | .delimiter text => "Delimiter must be a single character, got " ++ Text.quoted text
  | .missingPath => "document_path is required"

end Rejection

/-- The wording of a malformed document. -/
def DocumentFault.message : DocumentFault → String
  | .malformed => "Invalid document JSON"
  | .shape => "Invalid document shape"

namespace Fault

/-- The refusal of a request, unless it names an integer too long to write. -/
def reject (cause : Rejection) : Fault :=
  if cause.integers.all fun i => IsWritable i then
    .rejected cause
  else
    .tooManyDigits

/-- The wording of a fault that has one. -/
def message? : Fault → Option String
  | .syntaxFault cause => cause.message?
  | .reentrantReference label => some ("Re-entrant reference to " ++ label)
  | .callFault cause => some cause.message
  | .divisionByZero => some "Division by zero in formula"
  | .nonFiniteResult => some "Non-finite arithmetic result"
  | .rejected cause => some cause.message
  | .notAMapping file found =>
      some (file ++ " must contain a mapping, got " ++ found)
  | .document cause => some cause.message
  | _ => none

/-- The fault is a refusal of the values that were given. -/
def isRefusal : Fault → Bool
  | .tooManyDigits | .unrepresentable | .rejected _ | .notAMapping _ _ | .document _
  | .invalidRecord => true
  | _ => false

/-- The wording of a fault, empty if it has none. -/
def wording (fault : Fault) : String :=
  fault.message?.getD ""

section Lemmas

/-- A request that is rejected is refused. -/
@[simp] theorem isRefusal_reject
    (cause : Rejection) :
    (reject cause).isRefusal = true := by
  unfold reject
  split <;> rfl

theorem reject_of_long
    {cause : Rejection} {i : Int}
    (hi : i ∈ cause.integers)
    (hlong : ¬ IsWritable i) :
    reject cause = .tooManyDigits := by
  unfold reject
  rw [if_neg]
  intro h
  have := List.all_eq_true.1 h i hi
  exact hlong (by simpa using this)

end Lemmas

end Fault
end Spreadsheet
