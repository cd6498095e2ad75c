import Spreadsheet.Formula.Expression.Reader

/-!
# The grammar of arithmetic

Which lists of tokens write which expressions: signs bind tightest, then products, then
sums, operations of one level group to the left, and parentheses leave no trace.  The
reader keeps what is still open on a stack.  Behind some tokens the stack tells how they
can go on, and so does an expression that is finished there.

Results: the reader goes from token to token (`readFrom_cons`), what one token does to its
stack (`Stands.step`), and from it what a list of tokens does (`Stands.run`).  The reader
returns exactly the expression that the tokens write (`readTokens_eq_ok_iff`), and where it
has not failed yet the tokens can be completed to an expression
(`Stands.exists_completion`).
-/

namespace Spreadsheet
namespace Formula

/-- What an expression binds at least as tightly as. -/
inductive Binding where
  | sum
  | product
  | operand
deriving DecidableEq, Repr

/-- The token of a sign. -/
def Sign.symbol : Sign → Symbol
  | .plus => .plus
  | .minus => .minus

/-- The token of an operation. -/
def Operator.symbol : Operator → Symbol
  | .add => .plus
  | .sub => .minus
  | .mul => .times
  | .div => .over

/-- The tokens write the expression, which binds at least as tightly as that. -/
inductive Derives : Binding → Expression → List Token → Prop
  | literal
      {t : Token} {digits : List Char}
      (ht : t.symbol = .literal digits) :
      Derives .operand (.literal digits) [t]
  | signed
      {t : Token} {sign : Sign} {e : Expression} {ts : List Token}
      (ht : t.symbol = sign.symbol)
      (operand : Derives .operand e ts) :
      Derives .operand (.signed sign e) (t :: ts)
  | parentheses
      {t t' : Token} {e : Expression} {ts : List Token}
      (hopen : t.symbol = .opening)
      (hclose : t'.symbol = .closing)
      (inner : Derives .sum e ts) :
      Derives .operand e (t :: (ts ++ [t']))
  | product
      {t : Token} {op : Operator} {e e' : Expression} {ts ts' : List Token}
      (hop : op.isProduct = true)
      (ht : t.symbol = op.symbol)
      (left : Derives .product e ts)
      (right : Derives .operand e' ts') :
      Derives .product (.binary op e e') (ts ++ t :: ts')
  | sum
      {t : Token} {op : Operator} {e e' : Expression} {ts ts' : List Token}
      (hop : op.isProduct = false)
      (ht : t.symbol = op.symbol)
      (left : Derives .sum e ts)
      (right : Derives .product e' ts') :
      Derives .sum (.binary op e e') (ts ++ t :: ts')
  | ofOperand
      {e : Expression} {ts : List Token}
      (operand : Derives .operand e ts) :
      Derives .product e ts
  | ofProduct
      {e : Expression} {ts : List Token}
      (product : Derives .product e ts) :
      Derives .sum e ts

/-- Behind the tokens an expression that binds like this can stand, under the stack. -/
inductive Pending : Binding → List Frame → List Token → Prop
  | start : Pending .sum [] []
  | paren
      {t : Token} {stack : List Frame} {ts : List Token}
      (ht : t.symbol = .opening)
      (outer : Pending .operand stack ts) :
      Pending .sum (.paren :: stack) (ts ++ [t])
  | sum
      {t : Token} {op : Operator} {e : Expression} {stack : List Frame} {ts left : List Token}
      (hop : op.isProduct = false)
      (ht : t.symbol = op.symbol)
      (outer : Pending .sum stack ts)
      (hleft : Derives .sum e left) :
      Pending .product (.left op e :: stack) (ts ++ (left ++ [t]))
  | product
      {t : Token} {op : Operator} {e : Expression} {stack : List Frame} {ts left : List Token}
      (hop : op.isProduct = true)
      (ht : t.symbol = op.symbol)
      (outer : Pending .product stack ts)
      (hleft : Derives .product e left) :
      Pending .operand (.left op e :: stack) (ts ++ (left ++ [t]))
  | sign
      {t : Token} {sign : Sign} {stack : List Frame} {ts : List Token}
      (ht : t.symbol = sign.symbol)
      (outer : Pending .operand stack ts) :
      Pending .operand (.sign sign :: stack) (ts ++ [t])
  | ofSum
      {stack : List Frame} {ts : List Token}
      (outer : Pending .sum stack ts) :
      Pending .product stack ts
  | ofProduct
      {stack : List Frame} {ts : List Token}
      (outer : Pending .product stack ts) :
      Pending .operand stack ts

/-- Behind the tokens the reader has this stack and this finished expression, if any. -/
def Stands (stack : List Frame) : Option Expression → List Token → Prop
  | none, ts => Pending .operand stack ts
  | some e, ts => ∃ front back, ts = front ++ back ∧ Pending .product stack front
      ∧ Derives .product e back

/-- An expression that binds like this can stand behind what is still open. -/
def Awaits : Binding → List Frame → Prop
  | .operand, _ => True
  | .product, stack => ∀ e, closeProduct e stack = (e, stack)
  | .sum, stack => ∀ e, closeProduct e stack = (e, stack) ∧ closeSum e stack = (e, stack)

/-- What the reader has before and behind it when it has read an expression. -/
def HasRead : Binding → Expression → List Frame → Expression → List Frame → Prop
  | .operand, e, stack, e', stack' => closeProduct e stack = (e', stack')
  | .product, e, stack, e', stack' => e = e' ∧ stack = stack'
  | .sum, e, stack, e', stack' => closeSum e' stack' = (e, stack)

section Closing

variable {e : Expression} {stack : List Frame} {front back : List Token}

theorem closeProduct_of_pending
    (h : Pending .product stack front)
    (e : Expression) :
    closeProduct e stack = (e, stack) := by
  cases h with
  | sum hop _ _ _ => simp [closeProduct, hop]
  | ofSum outer => cases outer <;> rfl

theorem closeSum_of_pending
    (h : Pending .sum stack front)
    (e : Expression) :
    closeSum e stack = (e, stack) := by
  cases h <;> rfl

/-- An operand goes to the signs and the product that wait for it. -/
theorem stands_closeProduct
    (h : Pending .operand stack front)
    (he : Derives .operand e back) :
    Stands (closeProduct e stack).2 (some (closeProduct e stack).1) (front ++ back) := by
  induction stack generalizing e front back with
  | nil =>
      cases h with
      | ofProduct outer => exact ⟨front, back, rfl, outer, .ofOperand he⟩
  | cons frame stack ih =>
      cases h with
      | product hop ht outer hleft =>
          simp only [closeProduct, hop, if_true]
          refine ⟨_, _, ?_, outer, .product hop ht hleft he⟩
          rw [List.append_assoc, List.append_assoc, List.singleton_append]
      | sign ht outer =>
          rw [List.append_assoc]
          exact ih outer (.signed ht he)
      | ofProduct outer =>
          rw [closeProduct_of_pending outer]
          exact ⟨front, back, rfl, outer, .ofOperand he⟩

/-- A product goes to the sum that waits for it. -/
theorem exists_closeSum
    (h : Pending .product stack front)
    (he : Derives .product e back) :
    ∃ outer inner, front ++ back = outer ++ inner ∧ Pending .sum (closeSum e stack).2 outer
      ∧ Derives .sum (closeSum e stack).1 inner := by
  cases h with
  | sum hop ht outer hleft =>
      refine ⟨_, _, ?_, outer, .sum hop ht hleft he⟩
      rw [List.append_assoc, List.append_assoc, List.singleton_append]
  | ofSum outer =>
      rw [closeSum_of_pending outer]
      exact ⟨front, back, rfl, outer, .ofProduct he⟩

end Closing

/-- The column of the last of some tokens, read behind a token in another column. -/
def lastColumn (column : Nat) (ts : List Token) : Nat :=
  ts.foldl (fun _ t => t.column) column

section Steps

/-- What is open and what is finished behind a symbol; nothing if it is refused. -/
def advance (stack : List Frame) :
    Option Expression → Symbol → Option (List Frame × Option Expression)
  | none, .literal digits =>
      some ((closeProduct (.literal digits) stack).2,
        some (closeProduct (.literal digits) stack).1)
  | none, .plus => some (.sign .plus :: stack, none)
  | none, .minus => some (.sign .minus :: stack, none)
  | none, .opening => some (.paren :: stack, none)
  | some e, .plus => some (.left .add (closeSum e stack).1 :: (closeSum e stack).2, none)
  | some e, .minus => some (.left .sub (closeSum e stack).1 :: (closeSum e stack).2, none)
  | some e, .times => some (.left .mul e :: stack, none)
  | some e, .over => some (.left .div e :: stack, none)
  | some e, .closing =>
      match closeSum e stack with
      | (e', .paren :: stack') =>
          some ((closeProduct e' stack').2, some (closeProduct e' stack').1)
      | _ => none
  | _, _ => none

variable {t : Token} {stack : List Frame} {pending : Option Expression} {e e' : Expression}

/-- The reader goes on behind a token, or blames its column. -/
theorem readFrom_cons
    (last : Nat) (stack : List Frame) (pending : Option Expression) (t : Token)
    (rest : List Token) :
    readFrom last stack pending (t :: rest)
      = (advance stack pending t.symbol).elim (.error t.column)
        fun next => readFrom t.column next.1 next.2 rest := by
  obtain ⟨symbol, column⟩ := t
  cases pending with
  | none => cases symbol <;> rfl
  | some e =>
      cases symbol with
      | closing =>
          rcases hclosed : closeSum e stack with ⟨e', _ | ⟨_ | _ | _, stack'⟩⟩ <;>
            simp only [readFrom, advance, hclosed, Option.elim_none, Option.elim_some]
      | _ => rfl

theorem readFrom_of_advance
    {symbol : Symbol} {next : List Frame × Option Expression}
    (ht : t.symbol = symbol)
    (hnext : advance stack pending symbol = some next)
    (last : Nat) (rest : List Token) :
    readFrom last stack pending (t :: rest) = readFrom t.column next.1 next.2 rest := by
  rw [readFrom_cons, ht, hnext, Option.elim_some]

theorem readFrom_of_refused
    (hnext : advance stack pending t.symbol = none)
    (last : Nat) (rest : List Token) :
    readFrom last stack pending (t :: rest) = .error t.column := by
  rw [readFrom_cons, hnext, Option.elim_none]

/-- At the end nothing may be open any more. -/
theorem readFrom_nil
    (last : Nat) (stack : List Frame) (e : Expression) :
    readFrom last stack (some e) []
      = if (closeSum e stack).2 = [] then .ok (closeSum e stack).1 else .error last := by
  rcases hclosed : closeSum e stack with ⟨e', _ | ⟨frame, stack'⟩⟩ <;> simp [readFrom, hclosed]

theorem advance_literal
    (stack : List Frame) (digits : List Char) :
    advance stack none (.literal digits)
      = some ((closeProduct (.literal digits) stack).2,
        some (closeProduct (.literal digits) stack).1) := rfl

theorem advance_sign
    (stack : List Frame) (sign : Sign) :
    advance stack none sign.symbol = some (.sign sign :: stack, none) := by
  cases sign <;> rfl

/-- A product waits for its right operand. -/
theorem advance_product
    {op : Operator}
    (hop : op.isProduct = true)
    (stack : List Frame) (e : Expression) :
    advance stack (some e) op.symbol = some (.left op e :: stack, none) := by
  cases op with
  | add => cases hop
  | sub => cases hop
  | mul => rfl
  | div => rfl

/-- A sum first takes in the sum before it. -/
theorem advance_sum
    {op : Operator}
    (hop : op.isProduct = false)
    (stack : List Frame) (e : Expression) :
    advance stack (some e) op.symbol
      = some (.left op (closeSum e stack).1 :: (closeSum e stack).2, none) := by
  cases op with
  | add => rfl
  | sub => rfl
  | mul => cases hop
  | div => cases hop

/-- What stands between parentheses is an operand. -/
theorem advance_closing
    {stack' : List Frame}
    (hclosed : closeSum e stack = (e', .paren :: stack')) :
    advance stack (some e) .closing
      = some ((closeProduct e' stack').2, some (closeProduct e' stack').1) := by
  simp only [advance, hclosed]

end Steps

section Reading

variable {t : Token} {stack : List Frame} {pending : Option Expression} {ts : List Token}
  {next : List Frame × Option Expression}

/-- A sign, a literal or a parenthesis stands where an operand is awaited. -/
theorem stands_advance_none
    (h : Pending .operand stack ts)
    (hnext : advance stack none t.symbol = some next) :
    Stands next.1 next.2 (ts ++ [t]) := by
  cases ht : t.symbol <;> rw [ht] at hnext
  case literal digits =>
    obtain rfl := Option.some.inj hnext
    exact stands_closeProduct h (.literal ht)
  case plus =>
    obtain rfl := Option.some.inj hnext
    have hsign : t.symbol = Sign.plus.symbol := ht
    exact Pending.sign hsign h
  case minus =>
    obtain rfl := Option.some.inj hnext
    have hsign : t.symbol = Sign.minus.symbol := ht
    exact Pending.sign hsign h
  case opening =>
    obtain rfl := Option.some.inj hnext
    exact Pending.ofProduct (.ofSum (.paren ht h))
  all_goals cases hnext

/-- An operation or a parenthesis stands behind a finished expression. -/
theorem stands_advance_some
    {e : Expression} {front back : List Token}
    (h : Pending .product stack front)
    (he : Derives .product e back)
    (hnext : advance stack (some e) t.symbol = some next) :
    Stands next.1 next.2 (front ++ back ++ [t]) := by
  obtain ⟨outer, inner, hsplit, houter, hinner⟩ := exists_closeSum h he
  have hproduct : ∀ op : Operator, op.isProduct = true → t.symbol = op.symbol →
      Stands next.1 next.2 (front ++ back ++ [t]) := by
    intro op hop ht
    rw [ht, advance_product hop] at hnext
    obtain rfl := Option.some.inj hnext
    rw [List.append_assoc]
    exact Pending.product hop ht h he
  have hsum : ∀ op : Operator, op.isProduct = false → t.symbol = op.symbol →
      Stands next.1 next.2 (front ++ back ++ [t]) := by
    intro op hop ht
    rw [ht, advance_sum hop] at hnext
    obtain rfl := Option.some.inj hnext
    rw [hsplit, List.append_assoc]
    exact Pending.ofProduct (.sum hop ht houter hinner)
  cases ht : t.symbol
  case plus => exact hsum .add rfl ht
  case minus => exact hsum .sub rfl ht
  case times => exact hproduct .mul rfl ht
  case «over» => exact hproduct .div rfl ht
  case closing =>
    rw [ht] at hnext
    rcases hclosed : closeSum e stack with ⟨e', stack'⟩
    rw [hclosed] at houter hinner
    cases houter with
    | start =>
        rw [advance, hclosed] at hnext
        cases hnext
    | paren hopen hoperand =>
        rw [advance_closing hclosed] at hnext
        obtain rfl := Option.some.inj hnext
        rw [hsplit, List.append_assoc, List.append_assoc, List.singleton_append]
        exact stands_closeProduct hoperand (.parentheses hopen ht hinner)
  all_goals
    rw [ht] at hnext
    cases hnext

/-- Behind a token that is not refused the stack tells again how the tokens go on. -/
theorem Stands.step
    (h : Stands stack pending ts)
    (hnext : advance stack pending t.symbol = some next) :
    Stands next.1 next.2 (ts ++ [t]) := by
  cases pending with
  | none => exact stands_advance_none h hnext
  | some e =>
      obtain ⟨front, back, rfl, hwaits, he⟩ := h
      exact stands_advance_some hwaits he hnext

/-- The end is refused, or all that was read is an expression. -/
theorem Stands.finish
    (h : Stands stack pending ts) :
    (∀ last, readFrom last stack pending [] = .error last)
      ∨ ∃ e, Derives .sum e ts ∧ ∀ last, readFrom last stack pending [] = .ok e := by
  cases pending with
  | none => exact .inl fun last => rfl
  | some e =>
      obtain ⟨front, back, rfl, hwaits, he⟩ := h
      obtain ⟨outer, inner, hsplit, houter, hinner⟩ := exists_closeSum hwaits he
      by_cases hclosed : (closeSum e stack).2 = []
      · rw [hclosed] at houter
        cases houter with
        | start =>
            refine .inr ⟨_, ?_, fun last => by rw [readFrom_nil, if_pos hclosed]⟩
            rw [hsplit]
            exact hinner
      · exact .inl fun last => by rw [readFrom_nil, if_neg hclosed]

/-- One of some tokens is refused, whatever follows it, or all of them are read. -/
theorem Stands.run
    (h : Stands stack pending ts)
    (us : List Token) :
    (∃ before t after stack' pending', us = before ++ t :: after
        ∧ Stands stack' pending' (ts ++ before)
        ∧ ∀ last rest, readFrom last stack pending (before ++ t :: rest) = .error t.column)
      ∨ ∃ stack' pending', Stands stack' pending' (ts ++ us)
        ∧ ∀ last rest, readFrom last stack pending (us ++ rest)
          = readFrom (lastColumn last us) stack' pending' rest := by
  induction us generalizing stack pending ts with
  | nil =>
      refine .inr ⟨stack, pending, ?_, fun last rest => rfl⟩
      rwa [List.append_nil]
  | cons u us ih =>
      cases hnext : advance stack pending u.symbol with
      | none =>
          refine .inl ⟨[], u, us, stack, pending, rfl, ?_, readFrom_of_refused hnext⟩
          rwa [List.append_nil]
      | some next =>
          have hstep := readFrom_of_advance rfl hnext
          rcases ih (h.step hnext) with ⟨before, t, after, stack', pending', rfl, hbefore, hrefused⟩
            | ⟨stack', pending', hall, hrun⟩
          · refine .inl ⟨u :: before, t, after, stack', pending', rfl, ?_, fun last rest => ?_⟩
            · rwa [List.append_assoc] at hbefore
            · rw [List.cons_append, hstep, hrefused]
          · refine .inr ⟨stack', pending', ?_, fun last rest => ?_⟩
            · rwa [List.append_assoc] at hall
            · rw [List.cons_append, hstep, hrun]
              rfl

theorem stands_start :
    Stands [] none [] :=
  Pending.ofProduct (.ofSum .start)

end Reading

section Completion

variable {binding : Binding} {e : Expression} {stack : List Frame} {front back ts : List Token}

/-- What is open under an expression can be closed behind it. -/
theorem Pending.exists_completion
    (h : Pending binding stack front)
    (he : Derives binding e back) :
    ∃ more e', Derives .sum e' (front ++ back ++ more) := by
  induction h generalizing e back with
  | start => exact ⟨[], e, by rwa [List.nil_append, List.append_nil]⟩
  | paren ht _ ih =>
      have hclose : (⟨.closing, 0⟩ : Token).symbol = .closing := rfl
      obtain ⟨more, e', h⟩ := ih (.parentheses ht hclose he)
      exact ⟨⟨.closing, 0⟩ :: more, e', by simpa using h⟩
  | sum hop ht _ hleft ih =>
      obtain ⟨more, e', h⟩ := ih (.sum hop ht hleft he)
      exact ⟨more, e', by simpa using h⟩
  | product hop ht _ hleft ih =>
      obtain ⟨more, e', h⟩ := ih (.product hop ht hleft he)
      exact ⟨more, e', by simpa using h⟩
  | sign ht _ ih =>
      obtain ⟨more, e', h⟩ := ih (.signed ht he)
      exact ⟨more, e', by simpa using h⟩
  | ofSum _ ih => exact ih (.ofProduct he)
  | ofProduct _ ih => exact ih (.ofOperand he)

/-- As long as nothing is refused, the tokens can be completed to an expression. -/
theorem Stands.exists_completion
    {pending : Option Expression}
    (h : Stands stack pending ts) :
    ∃ more e, Derives .sum e (ts ++ more) := by
  cases pending with
  | none =>
      have hwaits : Pending .operand stack ts := h
      obtain ⟨more, e, he⟩ :=
        hwaits.exists_completion (.literal (t := ⟨.literal ['0'], 0⟩) rfl)
      exact ⟨⟨.literal ['0'], 0⟩ :: more, e, by simpa using he⟩
  | some e =>
      obtain ⟨front, back, rfl, hwaits, he⟩ := h
      exact hwaits.exists_completion he

end Completion

section Writing

variable {binding : Binding} {e : Expression} {ts : List Token}

/-- The tokens of an expression are read wherever it can stand. -/
theorem exists_readFrom_of_derives
    (h : Derives binding e ts)
    (stack : List Frame)
    (hstack : Awaits binding stack)
    (last : Nat) (rest : List Token) :
    ∃ last' e' stack', HasRead binding e stack e' stack'
      ∧ readFrom last stack none (ts ++ rest) = readFrom last' stack' (some e') rest := by
  induction h generalizing stack last rest with
  | @literal t digits ht =>
      exact ⟨_, _, _, rfl, readFrom_of_advance ht (advance_literal stack digits) last rest⟩
  | @signed t sign _ _ ht _ ih =>
      -- The sign waits for its operand on top of the stack.
      obtain ⟨last', e', stack', hread, heq⟩ := ih (.sign sign :: stack) trivial t.column rest
      have hnext := readFrom_of_advance ht (advance_sign stack sign)
      exact ⟨last', e', stack', hread, (hnext last _).trans heq⟩
  | @parentheses t t' _ inner hopen hclose _ ih =>
      obtain ⟨last', e', stack', hread, heq⟩ :=
        ih (.paren :: stack) (fun _ => ⟨rfl, rfl⟩) t.column (t' :: rest)
      refine ⟨t'.column, _, _, rfl, ?_⟩
      have htokens : t :: (inner ++ [t']) ++ rest = t :: (inner ++ t' :: rest) := by simp
      rw [htokens, readFrom_of_advance hopen rfl, heq,
        readFrom_of_advance hclose (advance_closing hread)]
  | @product t op e _ left _ hop ht _ _ ihleft ihright =>
      obtain ⟨middle, _, _, ⟨rfl, rfl⟩, hleft⟩ := ihleft stack hstack last (t :: (_ ++ rest))
      obtain ⟨last', e', stack', hread, hright⟩ :=
        ihright (.left op e :: stack) trivial t.column rest
      have hclosed : closeProduct _ (.left op e :: stack) = (e', stack') := hread
      simp only [closeProduct, hop, if_true, Prod.mk.injEq] at hclosed
      refine ⟨last', e', stack', hclosed, ?_⟩
      rw [List.append_assoc, List.cons_append, hleft,
        readFrom_of_advance ht (advance_product hop _ _), hright]
  | @sum t op e e' _ _ hop ht _ _ ihleft ihright =>
      -- The sign behind a sum closes it, and it waits as the left operand of the next one.
      obtain ⟨middle, _, _, hopen, hleft⟩ := ihleft stack hstack last (t :: (_ ++ rest))
      have hclosed : closeSum _ _ = (e, stack) := hopen
      have hwait : Awaits .product (.left op e :: stack) := fun f => by simp [closeProduct, hop]
      obtain ⟨last', _, _, ⟨rfl, rfl⟩, hright⟩ := ihright _ hwait t.column rest
      refine ⟨last', e', .left op e :: stack, rfl, ?_⟩
      rw [List.append_assoc, List.cons_append, hleft,
        readFrom_of_advance ht (advance_sum hop _ _), hclosed, hright]
  | ofOperand _ ih =>
      obtain ⟨last', e', stack', hread, heq⟩ := ih stack trivial last rest
      have hclosed : closeProduct _ stack = (e', stack') := hread
      rw [hstack] at hclosed
      exact ⟨last', e', stack', Prod.mk.inj hclosed, heq⟩
  | ofProduct _ ih =>
      obtain ⟨last', _, _, ⟨rfl, rfl⟩, heq⟩ := ih stack (fun f => (hstack f).1) last rest
      exact ⟨last', _, _, (hstack _).2, heq⟩

/-- The reader returns exactly the expression that the tokens write. -/
theorem readTokens_eq_ok_iff :
    readTokens ts = .ok e ↔ Derives .sum e ts := by
  constructor
  · intro h
    rw [readTokens] at h
    rcases stands_start.run ts with ⟨before, t, after, _, _, rfl, -, hrefused⟩
      | ⟨stack, pending, hall, hrun⟩
    · rw [hrefused] at h
      cases h
    rw [← List.append_nil ts, hrun] at h
    rcases hall.finish with hrefused | ⟨e', he', hread⟩
    · rw [hrefused] at h
      cases h
    · rw [hread] at h
      obtain rfl := Except.ok.inj h
      exact he'
  · intro h
    obtain ⟨last', e', stack', hread, heq⟩ :=
      exists_readFrom_of_derives h [] (fun _ => ⟨rfl, rfl⟩) 1 []
    have hclosed : closeSum e' stack' = (e, []) := hread
    rw [List.append_nil] at heq
    rw [readTokens, heq, readFrom_nil, hclosed, if_pos rfl]

end Writing

end Formula
end Spreadsheet
