import Spreadsheet.Proofs.Formula.Total
import Spreadsheet.Proofs.Formula.Written

/-!
# Reading written arithmetic

The expression that an integer expression over literals and cells becomes when the integers
in the cells are inserted, each between parentheses.

Results: what is inserted for a label, put together from the digits of the number
(`Environment.substitute_eq_insertion`), a written expression is read as that expression
(`parse_of_isWritten`), and its value is the integer that it stands for
(`integerValue?_expression`).
-/

namespace Spreadsheet
namespace Formula

/-- The expression of an integer. -/
def Expression.ofInt (i : Int) : Expression :=
  if i < 0 then
    .signed .minus (.literal (Nat.toDigits 10 i.natAbs))
  else
    .literal (Nat.toDigits 10 i.natAbs)

/-- The operation of a sum or a difference. -/
def Sign.operator : Sign → Operator
  | .plus => .add
  | .minus => .sub

/-- The expression with the integers in its cells. -/
def Term.expression (cells : Reference → Int) : Term → Expression
  | .literal digits => .literal digits
  | .cell r => .ofInt (cells r)
  | .signed sign t => .signed sign (t.expression cells)
  | .sum sign t u => .binary sign.operator (t.expression cells) (u.expression cells)
  | .product t u => .binary .mul (t.expression cells) (u.expression cells)

/-- The text is the integer in the cell, between parentheses. -/
def IsInsertion (cells : Reference → Int) (r : Reference) (s : List Char) : Prop :=
  s = '(' :: (cells r).repr.toList ++ [')']

theorem toList_repr_eq
    (i : Int) :
    i.repr.toList = Binary64.signText (decide (i < 0)) ++ Nat.toDigits 10 i.natAbs := by
  rw [Json.toList_repr]
  simp [Numeral.text]

/-- The characters of the plain form of a number. -/
def plainCharacters : Number → Except Fault (List Char)
  | .int i =>
      if IsWritable i then
        .ok (Binary64.signText (decide (i < 0)) ++ Nat.toDigits 10 i.natAbs)
      else
        .error .tooManyDigits
  | .float x =>
      match x.toInt? with
      | some i => .ok (Binary64.signText (decide (i < 0)) ++ Nat.toDigits 10 i.natAbs)
      | none => .ok (x.numeral .plain)

theorem map_toList_plain
    (x : Number) :
    x.plain.map String.toList = plainCharacters x := by
  cases x with
  | int i =>
      rw [Number.plain, integerText, plainCharacters]
      split
      · exact congrArg Except.ok (toList_repr_eq i)
      · rfl
  | float x =>
      rw [Number.plain, plainCharacters]
      cases x.toInt? with
      | some i => exact congrArg Except.ok (toList_repr_eq i)
      | none => exact congrArg Except.ok String.toList_ofList

section Insertions

variable {m : Type → Type} [Monad m] [MonadExcept Fault m]

/-- What stands for a piece of arithmetic, put together from characters. -/
def Environment.insertion (env : Environment m) : Segment → m (List Char)
  | .verbatim text => pure text
  | .label letters digits => do
      match ← ofExcept (Reference.ofParts? letters digits) with
      | none => return ['0']
      | some r =>
          let text ← ofExcept (plainCharacters (← env.numeric r))
          return '(' :: text ++ [')']

theorem ofExcept_map_bind
    [LawfulFailure m]
    {α β γ : Type}
    (x : Except Fault α) (f : α → β) (next : β → m γ) :
    ofExcept (x.map f) >>= next = ofExcept x >>= fun a => next (f a) := by
  cases x with
  | error fault =>
      show throw fault >>= next = throw fault >>= fun a => next (f a)
      rw [LawfulFailure.throw_bind, LawfulFailure.throw_bind]
  | ok a =>
      show pure (f a) >>= next = pure a >>= fun a => next (f a)
      rw [pure_bind, pure_bind]

theorem Environment.substitute_eq_insertion
    [LawfulFailure m]
    (env : Environment m) :
    env.substitute = env.insertion := by
  funext piece
  cases piece with
  | verbatim text => rfl
  | label letters digits =>
      refine bind_congr fun r => ?_
      cases r with
      | none => rfl
      | some r =>
          refine bind_congr fun x => ?_
          rw [← map_toList_plain, ofExcept_map_bind]

end Insertions

/-- An integer between parentheses prints its expression. -/
theorem isPrinting_insertion
    (i : Int) :
    IsPrinting .operand (.ofInt i) ('(' :: i.repr.toList ++ [')']) := by
  have hdigits : IsPrinting .operand (.literal (Nat.toDigits 10 i.natAbs))
      (Nat.toDigits 10 i.natAbs) :=
    .literal (.whole ⟨Nat.toDigits_ne_nil, fun c hc => Text.isDigit_of_mem_toDigits hc⟩)
  rw [toList_repr_eq]
  refine .parentheses (.ofProduct (.ofOperand ?_))
  by_cases hi : i < 0
  · simpa [Expression.ofInt, Binary64.signText, hi, Sign.char]
      using IsPrinting.signed .minus hdigits
  · simpa [Expression.ofInt, Binary64.signText, hi] using hdigits

theorem IsSpace.mem_gapCharacters
    {c : Char}
    (h : IsSpace c) :
    c ∈ gapCharacters := by
  rcases h with rfl | rfl <;> decide

section Terms

variable {cells : Reference → Int} {binding : Binding} {t : Term} {s : List Char}

/-- A text that writes a term prints the expression of the term. -/
theorem isPrinting_of_isWritten
    (h : IsWritten (IsInsertion cells) binding t s) :
    IsPrinting binding (t.expression cells) s := by
  induction h with
  | literal hne hdigits => exact .literal (.whole ⟨hne, hdigits⟩)
  | cell hname =>
      obtain rfl := hname
      exact isPrinting_insertion _
  | signed sign _ ih => exact .signed sign ih
  | parentheses _ ih => exact .parentheses ih
  | product _ _ ih ih' =>
      have hop : Operator.mul.isProduct = true := rfl
      exact .product hop ih ih'
  | sum sign _ _ ih ih' =>
      have hop : sign.operator.isProduct = false := by cases sign <;> rfl
      have hchar : sign.operator.char = sign.char := by cases sign <;> rfl
      rw [← hchar]
      exact .sum hop ih ih'
  | ofOperand _ ih => exact .ofOperand ih
  | ofProduct _ ih => exact .ofProduct ih
  | spaceBefore hspace _ ih => exact .gapBefore hspace.mem_gapCharacters ih
  | spaceAfter hspace _ ih => exact .gapAfter hspace.mem_gapCharacters ih

/-- A written expression is read as itself. -/
theorem parse_of_isWritten
    (h : IsWritten (IsInsertion cells) .sum t s) :
    Expression.parse s = .ok (t.expression cells) :=
  Expression.parse_of_isPrinting (isPrinting_of_isWritten h)

theorem integerValue?_digits
    {digits : List Char}
    (hdigits : ∀ c ∈ digits, c.isDigit = true)
    (hlength : digits.length ≤ digitLimit) :
    (Expression.literal digits).integerValue? = some (Text.decimalNat digits : Int) := by
  have hpoint : '.' ∉ digits := fun hmem => absurd (hdigits '.' hmem) (by decide)
  simp [Expression.integerValue?, hpoint, hlength]

theorem integerValue?_ofInt
    {i : Int}
    (h : IsWritable i) :
    (Expression.ofInt i).integerValue? = some i := by
  have hdigits := integerValue?_digits
    (fun c hc => Text.isDigit_of_mem_toDigits (n := i.natAbs) hc) (Json.length_toDigits_le h)
  rw [Text.decimalNat_toDigits] at hdigits
  unfold Expression.ofInt
  split
  · have hminus : -(i.natAbs : Int) = i := by omega
    rw [Expression.integerValue?, hdigits, Option.map_some, hminus]
  · have hplus : (i.natAbs : Int) = i := by omega
    rw [hdigits, hplus]

/-- The value of a written expression is the integer that it stands for. -/
theorem integerValue?_expression
    (h : IsWritten (IsInsertion cells) binding t s)
    (hliterals : ∀ digits ∈ t.literals, digits.length ≤ digitLimit)
    (hcells : ∀ r ∈ t.references, IsWritable (cells r)) :
    (t.expression cells).integerValue? = some (t.value cells) := by
  induction h with
  | literal _ hdigits => exact integerValue?_digits hdigits (hliterals _ (by simp [Term.literals]))
  | cell _ => exact integerValue?_ofInt (hcells _ (by simp [Term.references]))
  | signed sign _ ih =>
      have hoperand := ih hliterals hcells
      cases sign <;> simp [Term.expression, Term.value, Expression.integerValue?, hoperand]
  | parentheses _ ih => exact ih hliterals hcells
  | product _ _ ih ih' =>
      obtain ⟨hdigits, hdigits'⟩ := List.forall_mem_append.1 hliterals
      obtain ⟨hwritable, hwritable'⟩ := List.forall_mem_append.1 hcells
      simp [Term.expression, Term.value, Expression.integerValue?, ih hdigits hwritable,
        ih' hdigits' hwritable']
  | sum sign _ _ ih ih' =>
      obtain ⟨hdigits, hdigits'⟩ := List.forall_mem_append.1 hliterals
      obtain ⟨hwritable, hwritable'⟩ := List.forall_mem_append.1 hcells
      have hleft := ih hdigits hwritable
      have hright := ih' hdigits' hwritable'
      cases sign <;>
        simp [Term.expression, Term.value, Expression.integerValue?, Sign.operator, hleft, hright]
  | ofOperand _ ih => exact ih hliterals hcells
  | ofProduct _ ih => exact ih hliterals hcells
  | spaceBefore _ _ ih => exact ih hliterals hcells
  | spaceAfter _ _ ih => exact ih hliterals hcells

end Terms

end Formula
end Spreadsheet
