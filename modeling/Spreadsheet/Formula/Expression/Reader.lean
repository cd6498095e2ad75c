import Spreadsheet.Formula.Expression.Basic
import Spreadsheet.Formula.Expression.Token

/-!
# Reading arithmetic

Tokens are read from left to right with a stack of what is still open: signs
and left operands that wait for an operand, and parentheses that wait to be
closed.  Signs bind tightest, then products, then sums; operations of one level
group to the left.

A reading that fails does so at the first token that no expression could have
in its place, or, at the end, at the last token.

Results: a literal reads as itself (`readTokens_literal`), and parentheses
around it leave no trace (`readTokens_paren_literal`).
-/

namespace Spreadsheet
namespace Formula

/-- What waits for an operand or a closing parenthesis. -/
inductive Frame where
  | sign (sign : Sign)
  | left (op : Operator) (operand : Expression)
  | paren
deriving DecidableEq, Repr

/-- A finished operand takes the signs before it, and then the product that
waits for it. -/
def closeProduct (e : Expression) : List Frame → Expression × List Frame
  | .sign sign :: stack => closeProduct (.signed sign e) stack
  | .left op operand :: stack =>
      if op.isProduct then (.binary op operand e, stack) else (e, .left op operand :: stack)
  | stack => (e, stack)

/-- A finished product takes the sum that waits for it. -/
def closeSum (e : Expression) : List Frame → Expression × List Frame
  | .left op operand :: stack => (.binary op operand e, stack)
  | stack => (e, stack)

/-- Reads on with the expression finished so far, if any; `last` is the column
of the last token.  A failure gives the column to blame. -/
def readFrom (last : Nat) (stack : List Frame) :
    Option Expression → List Token → Except Nat Expression
  | none, [] => .error last
  | some e, [] =>
      match closeSum e stack with
      | (e, []) => .ok e
      | _ => .error last
  | none, token :: rest =>
      match token.symbol with
      | .literal digits =>
          let (e, stack) := closeProduct (.literal digits) stack
          readFrom token.column stack (some e) rest
      | .plus => readFrom token.column (.sign .plus :: stack) none rest
      | .minus => readFrom token.column (.sign .minus :: stack) none rest
      | .opening => readFrom token.column (.paren :: stack) none rest
      | _ => .error token.column
  | some e, token :: rest =>
      match token.symbol with
      | .plus =>
          let (e, stack) := closeSum e stack
          readFrom token.column (.left .add e :: stack) none rest
      | .minus =>
          let (e, stack) := closeSum e stack
          readFrom token.column (.left .sub e :: stack) none rest
      | .times => readFrom token.column (.left .mul e :: stack) none rest
      | .over => readFrom token.column (.left .div e :: stack) none rest
      | .closing =>
          match closeSum e stack with
          | (e, .paren :: stack) =>
              let (e, stack) := closeProduct e stack
              readFrom token.column stack (some e) rest
          | _ => .error token.column
      | _ => .error token.column

/-- The expression that tokens form. -/
def readTokens (ts : List Token) : Except Nat Expression :=
  readFrom 1 [] none ts

/-- A character that may stand in arithmetic. -/
def isArithmeticChar (c : Char) : Bool :=
  c.isDigit || Text.isBlank c || c == '+' || c == '-' || c == '*' || c == '/' || c == '('
    || c == ')' || c == '.'

/-- The expression that a text writes. -/
def Expression.parse (s : List Char) : Except SyntaxFault Expression :=
  if s.isEmpty || !s.all isArithmeticChar then
    .error (.unsafeCharacters (String.ofList s))
  else
    match readTokens (tokens s) with
    | .ok e => .ok e
    | .error column => .error (.malformedExpression column)

section Lemmas

theorem readTokens_literal
    (digits : List Char) (column : Nat) :
    readTokens [⟨.literal digits, column⟩] = .ok (.literal digits) := rfl

theorem readTokens_paren_literal
    (digits : List Char) (a b c : Nat) :
    readTokens [⟨.opening, a⟩, ⟨.literal digits, b⟩, ⟨.closing, c⟩] = .ok (.literal digits) :=
  rfl

end Lemmas

end Formula
end Spreadsheet
