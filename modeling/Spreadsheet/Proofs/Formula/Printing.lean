import Spreadsheet.Proofs.Formula.Grammar
import Spreadsheet.Proofs.Formula.Lexing

/-!
# Printed arithmetic

The texts that print an expression: with at least the parentheses that the binding of the
operations asks for, any others around what is an expression itself, and gaps before,
between and behind the tokens.

Results: an expression is printed with those parentheses only (`Expression.isPrinting_print`),
and a text is parsed as an expression exactly if it prints it
(`Expression.parse_inverts_printing`).
-/

namespace Spreadsheet
namespace Formula

/-- The character of a sign. -/
def Sign.char : Sign → Char
  | .plus => '+'
  | .minus => '-'

/-- The character of an operation. -/
def Operator.char : Operator → Char
  | .add => '+'
  | .sub => '-'
  | .mul => '*'
  | .div => '/'

/-- The text prints the expression, which binds at least as tightly as that. -/
inductive IsPrinting : Binding → Expression → List Char → Prop
  | literal
      {digits : List Char}
      (hdigits : IsLiteral digits) :
      IsPrinting .operand (.literal digits) digits
  | signed
      {e : Expression} {s : List Char}
      (sign : Sign)
      (operand : IsPrinting .operand e s) :
      IsPrinting .operand (.signed sign e) (sign.char :: s)
  | parentheses
      {e : Expression} {s : List Char}
      (inner : IsPrinting .sum e s) :
      IsPrinting .operand e ('(' :: s ++ [')'])
  | product
      {op : Operator} {e e' : Expression} {s s' : List Char}
      (hop : op.isProduct = true)
      (left : IsPrinting .product e s)
      (right : IsPrinting .operand e' s') :
      IsPrinting .product (.binary op e e') (s ++ op.char :: s')
  | sum
      {op : Operator} {e e' : Expression} {s s' : List Char}
      (hop : op.isProduct = false)
      (left : IsPrinting .sum e s)
      (right : IsPrinting .product e' s') :
      IsPrinting .sum (.binary op e e') (s ++ op.char :: s')
  | ofOperand
      {e : Expression} {s : List Char}
      (operand : IsPrinting .operand e s) :
      IsPrinting .product e s
  | ofProduct
      {e : Expression} {s : List Char}
      (product : IsPrinting .product e s) :
      IsPrinting .sum e s
  | gapBefore
      {binding : Binding} {e : Expression} {s : List Char} {c : Char}
      (hgap : c ∈ gapCharacters)
      (inner : IsPrinting binding e s) :
      IsPrinting binding e (c :: s)
  | gapAfter
      {binding : Binding} {e : Expression} {s : List Char} {c : Char}
      (hgap : c ∈ gapCharacters)
      (inner : IsPrinting binding e s) :
      IsPrinting binding e (s ++ [c])

/-- The characters that are tokens of their own. -/
def markCharacters : List Char := ['+', '-', '*', '/', '(', ')']

section Marks

variable {c d : Char} {symbol : Symbol} {lexeme : List Char}

theorem Sign.char_mem_markCharacters
    (sign : Sign) :
    sign.char ∈ markCharacters := by
  cases sign <;> decide

theorem Operator.char_mem_markCharacters
    (op : Operator) :
    op.char ∈ markCharacters := by
  cases op <;> decide

theorem symbolOf_sign
    (sign : Sign) :
    symbolOf sign.char = sign.symbol := by
  cases sign <;> rfl

theorem symbolOf_operator
    (op : Operator) :
    symbolOf op.char = op.symbol := by
  cases op <;> rfl

theorem not_mem_gapCharacters_of_mark
    (h : c ∈ markCharacters) :
    c ∉ gapCharacters := by
  have hall : ∀ c ∈ markCharacters, c ∉ gapCharacters := by simp [markCharacters, gapCharacters]
  exact hall c h

theorem mark_endsLiteral
    (h : c ∈ markCharacters) :
    c.isDigit = false ∧ c ≠ '.' := by
  have hall : ∀ c ∈ markCharacters, c.isDigit = false ∧ c ≠ '.' := by simp [markCharacters]
  exact hall c h

theorem gap_endsLiteral
    (h : c ∈ gapCharacters) :
    c.isDigit = false ∧ c ≠ '.' := by
  have hall : ∀ c ∈ gapCharacters, c.isDigit = false ∧ c ≠ '.' := by simp [gapCharacters]
  exact hall c h

theorem tokensFrom_of_mark
    (h : c ∈ markCharacters)
    (column : Nat) (s : List Char) :
    tokensFrom column (c :: s)
      = ⟨symbolOf c, column⟩ :: tokensFrom (columnBehind column [c]) s := by
  have hgap := not_mem_gapCharacters_of_mark h
  have hfeed : c ≠ '\n' := by
    rintro rfl
    exact hgap (by decide)
  rw [tokensFrom_mark hgap (scanLiteral?_eq_none (mark_endsLiteral h) s), columnBehind_cons,
    if_neg hfeed, columnBehind_nil]

/-- The tokens before a character that is one itself, and those behind it. -/
theorem tokensFrom_binary
    {column : Nat} {s s' rest : List Char} {ts ts' : List Token}
    (h : c ∈ markCharacters)
    (hts : tokensFrom column (s ++ c :: (s' ++ rest))
      = ts ++ tokensFrom (columnBehind column s) (c :: (s' ++ rest)))
    (hts' : tokensFrom (columnBehind column (s ++ [c])) (s' ++ rest)
      = ts' ++ tokensFrom (columnBehind (columnBehind column (s ++ [c])) s') rest) :
    tokensFrom column (s ++ c :: s' ++ rest)
      = (ts ++ ⟨symbolOf c, columnBehind column s⟩ :: ts')
        ++ tokensFrom (columnBehind column (s ++ c :: s')) rest := by
  rw [List.append_assoc, List.cons_append, hts, tokensFrom_of_mark h, ← columnBehind_append, hts']
  simp

theorem symbolOf_ne_literal
    (digits : List Char) :
    symbolOf c ≠ .literal digits := by
  unfold symbolOf
  split <;> simp

theorem eq_of_symbolOf_eq
    (hd : d ∈ markCharacters)
    (h : symbolOf c = symbolOf d) :
    c = d := by
  simp only [markCharacters, List.mem_cons, List.not_mem_nil, or_false] at hd
  rcases hd with rfl | rfl | rfl | rfl | rfl | rfl
  all_goals
    unfold symbolOf at h
    split at h <;> simp_all

/-- The text of a token that a single character is. -/
theorem IsLexeme.eq_singleton
    (h : IsLexeme symbol lexeme)
    (hd : d ∈ markCharacters)
    (hsymbol : symbol = symbolOf d) :
    lexeme = [d] := by
  cases h with
  | literal _ => exact absurd hsymbol.symm (symbolOf_ne_literal _)
  | mark _ => rw [eq_of_symbolOf_eq hd hsymbol]

theorem IsLexeme.isLiteral
    {digits : List Char}
    (h : IsLexeme symbol lexeme)
    (hsymbol : symbol = .literal digits) :
    IsLiteral digits ∧ lexeme = digits := by
  cases h with
  | literal hdigits =>
      obtain rfl := Symbol.literal.inj hsymbol
      exact ⟨hdigits, rfl⟩
  | mark _ => exact absurd hsymbol (symbolOf_ne_literal _)

/-- The text of a character that is a token starts behind the gaps before it. -/
theorem LaysOut.exists_first_mark
    {column : Nat} {t : Token} {after : List Token} {s : List Char}
    (h : LaysOut column (t :: after) s)
    (hd : d ∈ markCharacters)
    (ht : t.symbol = symbolOf d) :
    ∃ gaps back, s = gaps ++ d :: back ∧ (∀ c ∈ gaps, c ∈ gapCharacters)
      ∧ LaysOut (columnBehind column (gaps ++ [d])) after back := by
  obtain ⟨gaps, lexeme, back, rfl, hgaps, hlexeme, hback⟩ := h.exists_first
  obtain rfl := hlexeme.eq_singleton hd ht
  exact ⟨gaps, back, rfl, hgaps, hback⟩

/-- The text of a character that is a token stands between those before and behind it. -/
theorem LaysOut.exists_mark
    {column : Nat} {t : Token} {before after : List Token} {s : List Char}
    (h : LaysOut column (before ++ t :: after) s)
    (hd : d ∈ markCharacters)
    (ht : t.symbol = symbolOf d) :
    ∃ front back, s = front ++ d :: back ∧ LaysOut column before front
      ∧ LaysOut (columnBehind column (front ++ [d])) after back := by
  obtain ⟨front, lexeme, back, rfl, hlexeme, -, hfront, hback⟩ := h.exists_lexeme
  obtain rfl := hlexeme.eq_singleton hd ht
  exact ⟨front, back, rfl, hfront, hback⟩

end Marks

namespace Expression

/-- Every literal of the expression is one that can be read. -/
def HasLiterals : Expression → Prop
  | .literal digits => IsLiteral digits
  | .signed _ operand => operand.HasLiterals
  | .binary _ left right => left.HasLiterals ∧ right.HasLiterals

/-- The text between parentheses, if they are needed. -/
def enclose (needed : Bool) (s : List Char) : List Char :=
  if needed then '(' :: s ++ [')'] else s

/-- The text with as few parentheses as the binding allows. -/
def print : Binding → Expression → List Char
  | _, .literal digits => digits
  | _, .signed sign operand => sign.char :: operand.print .operand
  | binding, .binary op left right =>
      if op.isProduct then
        enclose (binding = .operand) (left.print .product ++ op.char :: right.print .operand)
      else
        enclose (binding ≠ .sum) (left.print .sum ++ op.char :: right.print .product)

end Expression

namespace IsPrinting

variable {binding : Binding} {e : Expression} {s gaps : List Char}

theorem ofOperand'
    (h : IsPrinting .operand e s) :
    IsPrinting binding e s := by
  cases binding with
  | sum => exact .ofProduct (.ofOperand h)
  | product => exact .ofOperand h
  | operand => exact h

theorem gapsBefore
    (hgaps : ∀ c ∈ gaps, c ∈ gapCharacters)
    (h : IsPrinting binding e s) :
    IsPrinting binding e (gaps ++ s) := by
  induction gaps with
  | nil => exact h
  | cons c gaps ih =>
      obtain ⟨hgap, hgaps⟩ := List.forall_mem_cons.1 hgaps
      exact .gapBefore hgap (ih hgaps)

theorem gapsAfter
    (hgaps : ∀ c ∈ gaps, c ∈ gapCharacters)
    (h : IsPrinting binding e s) :
    IsPrinting binding e (s ++ gaps) := by
  induction gaps generalizing s with
  | nil => rwa [List.append_nil]
  | cons c gaps ih =>
      obtain ⟨hgap, hgaps⟩ := List.forall_mem_cons.1 hgaps
      rw [List.append_cons]
      exact ih hgaps (.gapAfter hgap h)

theorem ne_nil
    (h : IsPrinting binding e s) :
    s ≠ [] := by
  induction h with
  | literal hdigits => exact hdigits.ne_nil
  | ofOperand _ ih => exact ih
  | ofProduct _ ih => exact ih
  | _ => simp

theorem isArithmeticChar
    (h : IsPrinting binding e s) :
    ∀ c ∈ s, isArithmeticChar c = true := by
  have hmarks : ∀ c ∈ markCharacters, Formula.isArithmeticChar c = true := by
    simp [markCharacters, Formula.isArithmeticChar]
  have hgaps : ∀ c ∈ gapCharacters, Formula.isArithmeticChar c = true := by
    simp [gapCharacters, Formula.isArithmeticChar, Text.isBlank, Text.isSpace]
  induction h with
  | literal hdigits =>
      intro c hc
      rcases hdigits.mem_cases hc with hdigit | rfl
      · simp [Formula.isArithmeticChar, hdigit]
      · decide
  | signed sign _ ih => exact List.forall_mem_cons.2 ⟨hmarks _ sign.char_mem_markCharacters, ih⟩
  | parentheses _ ih =>
      refine List.forall_mem_append.2 ⟨List.forall_mem_cons.2 ⟨hmarks '(' (by decide), ih⟩, ?_⟩
      exact List.forall_mem_singleton.2 (hmarks ')' (by decide))
  | @product op _ _ _ _ _ _ _ ih ih' =>
      have hop := hmarks op.char op.char_mem_markCharacters
      exact List.forall_mem_append.2 ⟨ih, List.forall_mem_cons.2 ⟨hop, ih'⟩⟩
  | @sum op _ _ _ _ _ _ _ ih ih' =>
      have hop := hmarks op.char op.char_mem_markCharacters
      exact List.forall_mem_append.2 ⟨ih, List.forall_mem_cons.2 ⟨hop, ih'⟩⟩
  | ofOperand _ ih => exact ih
  | ofProduct _ ih => exact ih
  | gapBefore hgap _ ih => exact List.forall_mem_cons.2 ⟨hgaps _ hgap, ih⟩
  | gapAfter hgap _ ih =>
      exact List.forall_mem_append.2 ⟨ih, List.forall_mem_singleton.2 (hgaps _ hgap)⟩

/-- The tokens of a printed expression write it, in front of whatever ends a literal. -/
theorem exists_tokens
    (h : IsPrinting binding e s)
    {rest : List Char}
    (hrest : EndsLiteral rest)
    (column : Nat) :
    ∃ ts, Derives binding e ts
      ∧ tokensFrom column (s ++ rest) = ts ++ tokensFrom (columnBehind column s) rest := by
  induction h generalizing rest column with
  | @literal digits hdigits =>
      have hline : '\n' ∉ digits := IsLexeme.not_mem (.literal hdigits)
      refine ⟨[⟨.literal digits, column⟩], .literal rfl, ?_⟩
      rw [tokensFrom_literal hdigits hrest, columnBehind_of_not_mem hline]
      rfl
  | signed sign _ ih =>
      obtain ⟨ts, he, hts⟩ := ih hrest (columnBehind column [sign.char])
      refine ⟨⟨symbolOf sign.char, column⟩ :: ts, .signed (symbolOf_sign sign) he, ?_⟩
      rw [List.cons_append, tokensFrom_of_mark sign.char_mem_markCharacters column, hts]
      rfl
  | @parentheses _ s _ ih =>
      have hclose : EndsLiteral (')' :: rest) := endsLiteral_cons (by decide) rest
      obtain ⟨ts, he, hts⟩ := ih hclose (columnBehind column ['('])
      refine ⟨⟨symbolOf '(', column⟩ :: (ts ++ [⟨symbolOf ')', columnBehind column ('(' :: s)⟩]),
        .parentheses rfl rfl he, ?_⟩
      have htext : '(' :: s ++ [')'] ++ rest = '(' :: (s ++ ')' :: rest) := by simp
      rw [htext, tokensFrom_of_mark (by decide), hts, tokensFrom_of_mark (by decide)]
      simp
  | @product op _ _ s s' hop _ _ ih ih' =>
      have hmark := op.char_mem_markCharacters
      obtain ⟨ts, he, hts⟩ := ih (endsLiteral_cons (mark_endsLiteral hmark) (s' ++ rest)) column
      obtain ⟨ts', he', hts'⟩ := ih' hrest (columnBehind column (s ++ [op.char]))
      exact ⟨_, .product hop (symbolOf_operator op) he he', tokensFrom_binary hmark hts hts'⟩
  | @sum op _ _ s s' hop _ _ ih ih' =>
      have hmark := op.char_mem_markCharacters
      obtain ⟨ts, he, hts⟩ := ih (endsLiteral_cons (mark_endsLiteral hmark) (s' ++ rest)) column
      obtain ⟨ts', he', hts'⟩ := ih' hrest (columnBehind column (s ++ [op.char]))
      exact ⟨_, .sum hop (symbolOf_operator op) he he', tokensFrom_binary hmark hts hts'⟩
  | ofOperand _ ih =>
      obtain ⟨ts, he, hts⟩ := ih hrest column
      exact ⟨ts, .ofOperand he, hts⟩
  | ofProduct _ ih =>
      obtain ⟨ts, he, hts⟩ := ih hrest column
      exact ⟨ts, .ofProduct he, hts⟩
  | @gapBefore _ _ s c hgap _ ih =>
      obtain ⟨ts, he, hts⟩ := ih hrest (columnBehind column [c])
      refine ⟨ts, he, ?_⟩
      rw [List.cons_append, tokensFrom_gap hgap, hts]
      rfl
  | @gapAfter _ _ s c hgap _ ih =>
      obtain ⟨ts, he, hts⟩ := ih (endsLiteral_cons (gap_endsLiteral hgap) rest) column
      refine ⟨ts, he, ?_⟩
      rw [List.append_assoc, List.singleton_append, hts, tokensFrom_gap hgap, columnBehind_append]

end IsPrinting

section Soundness

variable {binding : Binding} {e : Expression} {ts : List Token} {column : Nat} {s : List Char}

/-- A text laid out as the tokens that write an expression prints it. -/
theorem isPrinting_of_derives
    (h : Derives binding e ts)
    (hs : LaysOut column ts s) :
    IsPrinting binding e s := by
  have hmarks : '(' ∈ markCharacters ∧ ')' ∈ markCharacters := by decide
  induction h generalizing column s with
  | literal ht =>
      obtain ⟨gaps, lexeme, back, rfl, hgaps, hlexeme, hback⟩ := hs.exists_first
      obtain ⟨hdigits, rfl⟩ := hlexeme.isLiteral ht
      exact .gapsBefore hgaps (.gapsAfter hback.mem_gapCharacters (.literal hdigits))
  | @signed t sign _ _ ht _ ih =>
      obtain ⟨gaps, back, rfl, hgaps, hback⟩ :=
        hs.exists_first_mark sign.char_mem_markCharacters (ht.trans (symbolOf_sign sign).symm)
      exact .gapsBefore hgaps (.signed sign (ih hback))
  | parentheses hopen hclose _ ih =>
      obtain ⟨gaps, rest, rfl, hgaps, hrest⟩ := hs.exists_first_mark hmarks.1 hopen
      obtain ⟨inner, back, rfl, hinner, hback⟩ := hrest.exists_mark hmarks.2 hclose
      have hprints := IsPrinting.gapsAfter hback.mem_gapCharacters (.parentheses (ih hinner))
      refine .gapsBefore hgaps ?_
      simpa using hprints
  | @product t op _ _ _ _ hop ht _ _ ih ih' =>
      obtain ⟨front, back, rfl, hfront, hback⟩ :=
        hs.exists_mark op.char_mem_markCharacters (ht.trans (symbolOf_operator op).symm)
      exact .product hop (ih hfront) (ih' hback)
  | @sum t op _ _ _ _ hop ht _ _ ih ih' =>
      obtain ⟨front, back, rfl, hfront, hback⟩ :=
        hs.exists_mark op.char_mem_markCharacters (ht.trans (symbolOf_operator op).symm)
      exact .sum hop (ih hfront) (ih' hback)
  | ofOperand _ ih => exact .ofOperand (ih hs)
  | ofProduct _ ih => exact .ofProduct (ih hs)

end Soundness

namespace Expression

variable {e : Expression} {s : List Char}

/-- An expression is printed without parentheses that are not needed. -/
theorem isPrinting_print
    (h : e.HasLiterals)
    (binding : Binding) :
    IsPrinting binding e (e.print binding) := by
  induction e generalizing binding with
  | literal digits => exact .ofOperand' (.literal h)
  | signed sign operand ih => exact .ofOperand' (.signed sign (ih h .operand))
  | binary op left right ihl ihr =>
      obtain ⟨hleft, hright⟩ := h
      rw [print]
      split
      · next hop =>
          have hprints := IsPrinting.product hop (ihl hleft .product) (ihr hright .operand)
          cases binding with
          | sum => exact .ofProduct hprints
          | product => exact hprints
          | operand => exact .parentheses (.ofProduct hprints)
      · next hop =>
          have hprints := IsPrinting.sum (by simpa using hop) (ihl hleft .sum) (ihr hright .product)
          cases binding with
          | sum => exact hprints
          | product => exact .ofOperand (.parentheses hprints)
          | operand => exact .parentheses hprints

theorem parse_of_isPrinting
    (h : IsPrinting .sum e s) :
    Expression.parse s = .ok e := by
  obtain ⟨ts, he, hts⟩ := h.exists_tokens endsLiteral_nil 1
  have htokens : tokens s = ts := by
    rw [List.append_nil] at hts
    rw [tokens, hts, tokensFrom, List.append_nil]
  have hread : readTokens (tokens s) = .ok e := by
    rw [htokens]
    exact readTokens_eq_ok_iff.2 he
  simp [Expression.parse, h.ne_nil, List.all_eq_true.2 h.isArithmeticChar, hread]

theorem isPrinting_of_parse
    (h : Expression.parse s = .ok e) :
    IsPrinting .sum e s := by
  unfold Expression.parse at h
  split at h
  · cases h
  split at h
  · next e' hread =>
      obtain rfl := Except.ok.inj h
      exact isPrinting_of_derives (readTokens_eq_ok_iff.1 hread) (laysOut_tokensFrom 1 s)
  · cases h

/-- A text is parsed as an expression exactly if it prints it, and is refused if it prints
none. -/
theorem parse_inverts_printing :
    (∀ s e, Expression.parse s = .ok e ↔ IsPrinting .sum e s)
      ∧ ∀ s, (∃ fault, Expression.parse s = .error fault) ↔ ∀ e, ¬ IsPrinting .sum e s := by
  have hiff : ∀ s e, Expression.parse s = .ok e ↔ IsPrinting .sum e s :=
    fun s e => ⟨isPrinting_of_parse, parse_of_isPrinting⟩
  refine ⟨hiff, fun s => ?_⟩
  constructor
  · rintro ⟨fault, hfault⟩ e he
    rw [(hiff s e).2 he] at hfault
    cases hfault
  · intro hnone
    cases hparse : Expression.parse s with
    | ok e => exact absurd ((hiff s e).1 hparse) (hnone e)
    | error fault => exact ⟨fault, rfl⟩

end Expression

end Formula
end Spreadsheet
