import Spreadsheet.Date
import Spreadsheet.Formula.Arguments
import Spreadsheet.Formula.Expression.Reader
import Spreadsheet.Formula.Shape
import Spreadsheet.Reference.Range

/-!
# Evaluation of formulas

The value of a formula text, given a way of reading cells.  How cells are read
is left to an `Environment`: whether values are remembered, and what happens
when a cell refers to itself, is decided there.

The arguments of a condition and of a join may be formulas themselves; they are
shorter than the formula around them, so evaluation ends for every text.
-/

namespace Spreadsheet
namespace Formula

/-- What evaluation sees of the sheet around a formula. -/
structure Environment (m : Type → Type) where
  columns : Number
  rows : Nat
  isEmpty : Reference → Bool
  value : Reference → m (Option Scalar)
  today : Date

/-- What an argument of a condition or a join says. -/
inductive Argument where
  | quoted (text : List Char)
  | number (x : Number)
  | reference (r : Reference)
  | empty
  | formula
deriving DecidableEq

/-- The meaning of an argument without blanks around it. -/
def Argument.ofText (s : List Char) : Except Fault Argument :=
  if isQuoted s then
    return .quoted (unquote s)
  else do
    match ← Number.read? s with
    | some x => return .number x
    | none =>
        match ← Reference.parse? s with
        | some r => return .reference r
        | none => return if s.isEmpty then .empty else .formula

/-- A piece of arithmetic text: a cell label, or text without one. -/
inductive Segment where
  | verbatim (text : List Char)
  | label (letters digits : List Char)
deriving DecidableEq, Repr

theorem length_dropWhile_lt
    {p : Char → Bool} {s : List Char}
    (h : s.takeWhile p ≠ []) :
    (s.dropWhile p).length < s.length := by
  have hsplit := congrArg List.length (List.takeWhile_append_dropWhile (p := p) (l := s))
  have := List.length_pos_iff.2 h
  simp only [List.length_append] at hsplit
  omega

set_option linter.unusedVariables false in
/-- The labels of a text and what stands between them, from left to right. -/
def segments (s : List Char) : List Segment :=
  match s with
  | [] => []
  | c :: r =>
      if h : (c :: r).takeWhile Reference.isLabelLetter = [] then
        .verbatim [c] :: segments r
      else
        let letters := (c :: r).takeWhile Reference.isLabelLetter
        let rest := (c :: r).dropWhile Reference.isLabelLetter
        let digits := rest.takeWhile Char.isDigit
        if digits.isEmpty then
          .verbatim letters :: segments rest
        else
          .label letters digits :: segments (rest.dropWhile Char.isDigit)
termination_by s.length
decreasing_by
  · simp
  · exact length_dropWhile_lt h
  · exact Nat.lt_of_le_of_lt (List.dropWhile_suffix _).length_le (length_dropWhile_lt h)

section

variable {m : Type → Type} [Monad m] [MonadExcept Fault m]

namespace Environment

/-- The number that arithmetic sees in a cell. -/
def numeric (env : Environment m) (r : Reference) : m Number := do
  ofExcept (coerceValue (← env.value r))

/-- The cells of a range argument that lie inside the sheet: a label names one
cell, two labels with a colon a rectangle, and any other text none. -/
def rangeCells (env : Environment m) (s : List Char) : Except Fault (List Reference) := do
  let s := Text.trim s
  let range ←
    if s.contains ':' then
      Range.parse? s
    else
      (Option.map fun r => ⟨r, r⟩) <$> Reference.parse? s
  match range with
  | none => return []
  | some range =>
      match ← range.clippedTo? env.columns env.rows with
      | some part => return part.toList
      | none => return []

/-- The sum of some cells, read one after the other. -/
def total (env : Environment m) (cells : List Reference) : m Number :=
  cells.foldlM (fun sum r => do ofExcept (sum.add (← env.numeric r))) (.int 0)

/-- The value of a function of a range.  A sum reads every cell, the others
only those that are not empty; without any of these they are zero. -/
def aggregate (env : Environment m) (f : Aggregate) (range : List Char) : m Number := do
  let cells ← ofExcept (env.rangeCells range)
  let present := cells.filter fun r => !env.isEmpty r
  match f with
  | .sum => env.total cells
  | .count => return .int present.length
  | .average =>
      if present.isEmpty then
        return .int 0
      else
        let sum ← env.total present
        ofExcept (sum.div (.int present.length))
  | .least =>
      match ← present.mapM env.numeric with
      | [] => return .int 0
      | x :: xs => return Number.least x xs
  | .greatest =>
      match ← present.mapM env.numeric with
      | [] => return .int 0
      | x :: xs => return Number.greatest x xs

/-- The text that stands for a piece of arithmetic: that of a label is the
number in its cell between parentheses, or a zero if it names no cell. -/
def substitute (env : Environment m) : Segment → m (List Char)
  | .verbatim text => pure text
  | .label letters digits => do
      match ← ofExcept (Reference.ofParts? letters digits) with
      | none => return ['0']
      | some r =>
          let text ← ofExcept (← env.numeric r).plain
          return '(' :: text.toList ++ [')']

/-- The value of arithmetic text, its labels replaced by numbers. -/
def arithmetic (env : Environment m) (s : List Char) : m Number := do
  let pieces ← (segments s).mapM env.substitute
  let e ← ofExcept ((Expression.parse pieces.flatten).mapError .syntaxFault)
  let x ← ofExcept e.value
  if x.isFinite then return x else throw .nonFiniteResult

/-- The value of a single label: that of its cell, zero if it is empty. -/
def single (env : Environment m) (letters digits : List Char) : m (Option Scalar) := do
  match ← ofExcept (Reference.ofParts? letters digits) with
  | none => return some (.number (.int 0))
  | some r => return some ((← env.value r).getD (.number (.int 0)))

/-- An operand of a condition: a cell counts as its number. -/
def operand (env : Environment m) (s : List Char) (nested : Unit → m (Option Scalar)) :
    m (Option Scalar) := do
  match ← ofExcept (Argument.ofText s) with
  | .quoted text => return some (.text (String.ofList text))
  | .number x => return some (.number x)
  | .reference r => return some (.number (← env.numeric r))
  | .empty => throw (.syntaxFault .emptyBranch)
  | .formula => nested ()

/-- A branch of a condition: a cell counts as its value. -/
def branch (env : Environment m) (s : List Char) (nested : Unit → m (Option Scalar)) :
    m (Option Scalar) := do
  match ← ofExcept (Argument.ofText s) with
  | .quoted text => return some (.text (String.ofList text))
  | .number x => return some (.number x)
  | .reference r => env.value r
  | .empty => throw (.syntaxFault .emptyBranch)
  | .formula => nested ()

/-- The text of a value in a join; a missing value has none. -/
def joinText (value : Option Scalar) : Except Fault String :=
  match value with
  | none => return ""
  | some x => x.plain

/-- A part of a join: a number counts as it is written. -/
def part (env : Environment m) (s : List Char) (nested : Unit → m (Option Scalar)) :
    m String := do
  match ← ofExcept (Argument.ofText s) with
  | .quoted text => return String.ofList text
  | .number _ => return String.ofList s
  | .reference r => ofExcept (joinText (← env.value r))
  | .empty => throw (.callFault .joinEmptyArgument)
  | .formula => ofExcept (joinText (← nested ()))

end Environment

set_option linter.unusedVariables false in
/-- The value of a formula text. -/
def evaluateText (env : Environment m) (s : List Char) : m (Option Scalar) :=
  match hshape : Shape.ofText? (Text.trim s) with
  | none => throw (.syntaxFault .missingEquals)
  | some .today => return some (.text env.today.format)
  | some (.aggregate f range) => do return some (.number (← env.aggregate f range))
  | some (.reference letters digits) => env.single letters digits
  | some (.arithmetic expression) => do return some (.number (← env.arithmetic expression))
  | some (.condition arguments) =>
      match hargs : splitArguments arguments with
      | .error fault => throw (.syntaxFault fault)
      | .ok (condition :: whenTrue :: others) =>
          if 1 < others.length then
            throw (.callFault .conditionArity)
          else
            match hparts : splitComparison condition with
            | .error fault => throw (.syntaxFault fault)
            | .ok (left, comparison, right) => do
                let x ← env.operand left fun _ => evaluateText env ('=' :: left)
                let y ← env.operand right fun _ => evaluateText env ('=' :: right)
                if comparison.compare x y then
                  env.branch whenTrue fun _ => evaluateText env ('=' :: whenTrue)
                else
                  match hothers : others with
                  | [] => return some (.bool false)
                  | whenFalse :: _ =>
                      env.branch whenFalse fun _ => evaluateText env ('=' :: whenFalse)
      | .ok _ => throw (.callFault .conditionArity)
  | some (.join arguments) =>
      match hargs : splitArguments arguments with
      | .error fault => throw (.syntaxFault fault)
      | .ok [] => throw (.callFault .joinArity)
      | .ok parts => do
          let texts ← parts.attach.mapM fun ⟨part, _⟩ =>
            env.part part fun _ => evaluateText env ('=' :: part)
          return some (.text (String.join texts))
termination_by s.length
decreasing_by
  all_goals
    have hs := length_trim_le s
    simp only [List.length_cons]
  · have := length_of_condition hshape
    have := length_le_of_mem_splitArguments hargs (a := condition) (by simp)
    have := length_le_of_splitComparison hparts
    omega
  · have := length_of_condition hshape
    have := length_le_of_mem_splitArguments hargs (a := condition) (by simp)
    have := length_le_of_splitComparison hparts
    omega
  · have := length_of_condition hshape
    have := length_le_of_mem_splitArguments hargs (a := whenTrue) (by simp)
    omega
  · have := length_of_condition hshape
    have := length_le_of_mem_splitArguments hargs (a := whenFalse) (by simp [hothers])
    omega
  · have := length_of_join hshape
    have := length_le_of_mem_splitArguments hargs ‹_›
    omega

end

end Formula
end Spreadsheet
