import Spreadsheet.Number.Reader

/-!
# Arithmetic expressions

Trees over decimal literals, the two signs and the four operations, and their
values.  Evaluation goes from left to right, and the first failure is the
failure of the whole.

Result: the value of a tree of integers without division is its exact integer
(`value_of_integerValue`).
-/

namespace Spreadsheet
namespace Formula

/-- The four operations. -/
inductive Operator where
  | add
  | sub
  | mul
  | div
deriving DecidableEq, Repr

/-- Products and quotients bind tighter than sums and differences. -/
def Operator.isProduct : Operator → Bool
  | .add | .sub => false
  | .mul | .div => true

/-- The two signs. -/
inductive Sign where
  | plus
  | minus
deriving DecidableEq, Repr

/-- An arithmetic expression. -/
inductive Expression where
  | literal (digits : List Char)
  | signed (sign : Sign) (operand : Expression)
  | binary (op : Operator) (left right : Expression)
deriving DecidableEq, Repr

/-- The number that a literal writes: a binary number if it has a point. -/
def literalValue (digits : List Char) : Except Fault Number :=
  if digits.contains '.' then
    let whole := digits.takeWhile (· != '.')
    let fraction := (digits.dropWhile (· != '.')).drop 1
    .ok (.float (Numeral.toBinary64 ⟨false, whole, some fraction, none⟩))
  else do
    return .int (← Numeral.integer false digits)

/-- The result of an operation; dividing by zero fails. -/
def Operator.apply (op : Operator) (x y : Number) : Except Fault Number :=
  match op with
  | .add => x.add y
  | .sub => x.sub y
  | .mul => x.mul y
  | .div => if y.isZero then .error .divisionByZero else x.div y

/-- The effect of a sign. -/
def Sign.apply (sign : Sign) (x : Number) : Number :=
  match sign with
  | .plus => x
  | .minus => x.neg

namespace Expression

/-- The value of an expression. -/
def value : Expression → Except Fault Number
  | .literal digits => literalValue digits
  | .signed sign operand => do return sign.apply (← operand.value)
  | .binary op left right => do
      let x ← left.value
      let y ← right.value
      op.apply x y

/-- The exact value of an expression over integers without division. -/
def integerValue? : Expression → Option Int
  | .literal digits =>
      if digits.contains '.' ∨ digitLimit < digits.length then none
      else some (Text.decimalNat digits)
  | .signed .plus operand => operand.integerValue?
  | .signed .minus operand => operand.integerValue?.map (- ·)
  | .binary op left right =>
      match left.integerValue?, right.integerValue? with
      | some i, some j =>
          match op with
          | .add => some (i + j)
          | .sub => some (i - j)
          | .mul => some (i * j)
          | .div => none
      | _, _ => none

section Lemmas

/-- Over integers, evaluation computes the exact value. -/
theorem value_of_integerValue
    {e : Expression} {i : Int}
    (h : e.integerValue? = some i) :
    e.value = .ok (.int i) := by
  induction e generalizing i with
  | literal digits =>
      simp only [integerValue?] at h
      split at h
      · simp at h
      · next hd =>
          simp only [not_or] at hd
          have hpoint : '.' ∉ digits := by simpa using hd.1
          obtain rfl := Option.some.inj h
          simp [value, literalValue, hpoint, Numeral.integer, hd.2, bind, Except.bind, pure,
            Except.pure]
  | signed sign operand ih =>
      cases sign with
      | plus =>
          simp only [integerValue?] at h
          simp [value, ih h, Sign.apply, bind, Except.bind, pure, Except.pure]
      | minus =>
          simp only [integerValue?, Option.map_eq_some_iff] at h
          obtain ⟨j, hj, rfl⟩ := h
          simp [value, ih hj, Sign.apply, Number.neg, bind, Except.bind, pure, Except.pure]
  | binary op left right ihl ihr =>
      simp only [integerValue?] at h
      split at h
      · next a b ha hb =>
          cases op <;> simp at h <;> subst h <;>
            simp [value, ihl ha, ihr hb, Operator.apply, Number.add, Number.sub, Number.mul,
              Number.combine, bind, Except.bind]
      · simp at h

end Lemmas

end Expression
end Formula
end Spreadsheet
