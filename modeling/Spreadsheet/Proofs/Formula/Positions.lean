import Spreadsheet.Proofs.Formula.Printing
import Spreadsheet.Proofs.Formula.Splitting

/-!
# The positions of faults

A list of items is at fault in the first item that nothing accepted has in its place: what
stands before it can still be completed, and with it no more.  For the arguments of a
function the items are characters, for arithmetic they are tokens, each of which starts at
an index of the text.

Results: on a single line, splitting a text into arguments blames the index of that
character, and parsing arithmetic blames the index behind the first character of that
token, or, where only the end is at fault, of the last token (`position_of_fault`).
-/

namespace Spreadsheet

/-- The place that a fault names. -/
def SyntaxFault.position? : SyntaxFault → Option Nat
  | .missingEquals => some 0
  | .unexpectedClosing position => some position
  | .malformedExpression column => some column
  | _ => none

namespace Formula

/-- The items can be completed to something accepted. -/
def IsViable {α : Type} (accepted : List α → Prop) (front : List α) : Prop :=
  ∃ back, accepted (front ++ back)

/-- The item behind the others is the first that nothing accepted has in its place. -/
structure IsOffending {α : Type} (accepted : List α → Prop) (front : List α) (x : α) : Prop where
  viable : IsViable accepted front
  dead : ¬ IsViable accepted (front ++ [x])

/-- The tokens write an expression. -/
def WriteExpression (ts : List Token) : Prop :=
  ∃ e, Derives .sum e ts

/-- Behind other tokens of the text, the text of this one starts at an index. -/
structure IsTokenAt (s : List Char) (before : List Token) (t : Token) (index : Nat) : Prop where
  is_token : ∃ after, tokens s = before ++ t :: after
  starts : ∃ front lexeme back, s = front ++ (lexeme ++ back) ∧ LaysOut 1 before front
    ∧ IsLexeme t.symbol lexeme ∧ front.length = index

section Characters

open Nesting

variable {n : Nesting} {c : Char} {front s t : List Char}

/-- Only a closing parenthesis closes one that is not open. -/
theorem eq_closing_of_after
    (hdepth : 0 ≤ n.depth)
    (hafter : (n.after c).depth < 0) :
    c = ')' := by
  by_contra hne
  unfold after at hafter
  split at hafter
  · exact absurd hdepth (Int.not_le.2 hafter)
  split at hafter
  · exact absurd hdepth (Int.not_le.2 hafter)
  split at hafter
  · have hmore : n.depth + 1 < 0 := hafter
    omega
  exact absurd hdepth (Int.not_le.2 hafter)

/-- What is open can be closed. -/
theorem exists_closes
    (hdepth : 0 ≤ n.depth) :
    ∃ t, n.Closes t := by
  obtain ⟨depth, inQuotes⟩ := n
  obtain ⟨k, rfl⟩ := Int.eq_ofNat_of_zero_le hdepth
  have hparens : ∃ t, Nesting.Closes ⟨k, false⟩ t := by
    clear hdepth
    induction k with
    | zero => exact ⟨[], closes_nil.2 rfl⟩
    | succ k ih =>
        obtain ⟨t, ht⟩ := ih
        have hafter : Nesting.after ⟨(k + 1 : Nat), false⟩ ')' = ⟨k, false⟩ := by
          simp [after]
        exact ⟨')' :: t, closes_cons.2 ⟨Int.natCast_nonneg _, hafter ▸ ht⟩⟩
  obtain ⟨t, ht⟩ := hparens
  cases inQuotes with
  | false => exact ⟨t, ht⟩
  | true => exact ⟨'"' :: t, closes_cons.2 ⟨hdepth, ht⟩⟩

/-- A text is closed by closing what is open behind its front. -/
theorem Nesting.Closes.of_behind
    (hfront : ∀ shorter, shorter <+: front → 0 ≤ (n.behind shorter).depth)
    (ht : (n.behind front).Closes t) :
    n.Closes (front ++ t) := by
  induction front generalizing n with
  | nil => exact ht
  | cons c front ih =>
      refine closes_cons.2 ⟨hfront [] List.nil_prefix, ih (fun shorter hshorter => ?_) ht⟩
      exact hfront (c :: shorter) (List.cons_prefix_cons.2 ⟨rfl, hshorter⟩)

/-- The closing parenthesis behind the front is the first that closes none. -/
structure Nesting.IsOverclosed (n : Nesting) (front : List Char) : Prop where
  nonneg : ∀ shorter, shorter <+: front → 0 ≤ (n.behind shorter).depth
  negative : (n.behind (front ++ [')'])).depth < 0

theorem Nesting.isOverclosed_nil
    (hdepth : 0 ≤ n.depth)
    (hclosing : (n.after ')').depth < 0) :
    n.IsOverclosed [] where
  nonneg := by
    intro shorter hshorter
    rw [List.prefix_nil.1 hshorter]
    exact hdepth
  negative := hclosing

theorem Nesting.IsOverclosed.cons
    (hdepth : 0 ≤ n.depth)
    (h : (n.after c).IsOverclosed front) :
    n.IsOverclosed (c :: front) where
  nonneg := by
    intro shorter hshorter
    cases shorter with
    | nil => exact hdepth
    | cons d shorter =>
        obtain ⟨rfl, htail⟩ := List.cons_prefix_cons.1 hshorter
        exact h.nonneg shorter htail
  negative := h.negative

/-- A scan that blames a position stops at the first parenthesis that closes none. -/
theorem exists_closing_of_scanFrom
    {position p : Nat} {current : List Char} {fault : SyntaxFault}
    (hdepth : 0 ≤ n.depth)
    (h : n.scanFrom position current s = .error fault)
    (hp : fault.position? = some p) :
    ∃ front back, s = front ++ ')' :: back ∧ p = position + front.length
      ∧ n.IsOverclosed front := by
  induction s generalizing n position current with
  | nil =>
      unfold scanFrom scanArguments at h
      split at h
      · obtain rfl := Except.error.inj h
        cases hp
      split at h
      · obtain rfl := Except.error.inj h
        cases hp
      · cases h
  | cons c s ih =>
      have hread : ∀ {position' current'}, 0 ≤ (n.after c).depth → position' = position + 1 →
          (n.after c).scanFrom position' current' s = .error fault →
          ∃ front back, c :: s = front ++ ')' :: back ∧ p = position + front.length
            ∧ n.IsOverclosed front := by
        rintro _ _ hafter rfl hrest
        obtain ⟨front, back, rfl, rfl, hfront⟩ := ih hafter hrest
        exact ⟨c :: front, back, rfl, by rw [List.length_cons]; omega, hfront.cons hdepth⟩
      by_cases hafter : 0 ≤ (n.after c).depth
      · by_cases hcut : c = ',' ∧ n = outside
        · obtain ⟨rfl, rfl⟩ := hcut
          rw [scanFrom_comma] at h
          cases hrest : outside.scanFrom (position + 1) [] s with
          | ok rest =>
              rw [hrest] at h
              cases h
          | error fault' =>
              rw [hrest] at h
              obtain rfl := Except.error.inj h
              exact hread hafter rfl hrest
        · rw [scanFrom_cons hdepth hafter fun hc hn => hcut ⟨hc, hn⟩] at h
          exact hread hafter rfl h
      · have hclosing : (n.after c).depth < 0 := by omega
        obtain rfl := eq_closing_of_after hdepth hclosing
        rw [scanFrom_closing hdepth hclosing] at h
        obtain rfl := Except.error.inj h
        obtain rfl := Option.some.inj hp
        exact ⟨[], s, rfl, rfl, isOverclosed_nil hdepth hclosing⟩

/-- Splitting blames the index of the first character that no balanced text has there. -/
theorem position_of_splitArguments
    {fault : SyntaxFault} {p : Nat}
    (h : splitArguments s = .error fault)
    (hp : fault.position? = some p) :
    ∃ front back, s = front ++ ')' :: back ∧ IsOffending IsBalanced front ')'
      ∧ p = front.length := by
  rw [splitArguments_eq] at h
  cases hscan : outside.scanFrom 0 [] s with
  | ok args =>
      rw [hscan] at h
      cases h
  | error fault' =>
      rw [hscan] at h
      obtain rfl := Except.error.inj h
      obtain ⟨front, back, rfl, rfl, hfront⟩ :=
        exists_closing_of_scanFrom (Int.le_refl 0) hscan hp
      obtain ⟨t, ht⟩ := exists_closes (hfront.nonneg front List.prefix_rfl)
      refine ⟨front, back, rfl, ⟨⟨t, .of_behind hfront.nonneg ht⟩, ?_⟩, Nat.zero_add _⟩
      rintro ⟨more, hmore⟩
      have hnonneg := hmore.nonneg (front ++ [')']) (List.prefix_append _ _)
      exact absurd hfront.negative (Int.not_lt.2 hnonneg)

end Characters

section Tokens

variable {ts before : List Token} {t : Token} {s : List Char}

/-- Reading tokens blames the first that no expression has there, or else the last. -/
theorem column_of_readTokens
    {column : Nat}
    (h : readTokens ts = .error column) :
    (∃ before t after, ts = before ++ t :: after ∧ IsOffending WriteExpression before t
        ∧ column = t.column)
      ∨ IsViable WriteExpression ts ∧ column = lastColumn 1 ts := by
  rcases stands_start.run ts with ⟨before, t, after, _, _, rfl, hbefore, hrefused⟩
    | ⟨stack, pending, hall, hrun⟩
  · refine .inl ⟨before, t, after, rfl, ⟨hbefore.exists_completion, ?_⟩, ?_⟩
    · rintro ⟨more, e, he⟩
      rw [List.append_assoc, List.singleton_append, ← readTokens_eq_ok_iff, readTokens,
        hrefused] at he
      cases he
    · rw [readTokens, hrefused] at h
      exact (Except.error.inj h).symm
  · refine .inr ⟨hall.exists_completion, ?_⟩
    rw [readTokens, ← List.append_nil ts, hrun] at h
    rcases hall.finish with hrefused | ⟨e, -, hread⟩
    · rw [hrefused] at h
      exact (Except.error.inj h).symm
    · rw [hread] at h
      cases h

/-- On a single line the column of a token is the index behind its first character. -/
theorem exists_isTokenAt
    {after : List Token}
    (hline : '\n' ∉ s)
    (hts : tokens s = before ++ t :: after) :
    ∃ index, IsTokenAt s before t index ∧ t.column = index + 1 := by
  have hs : LaysOut 1 (before ++ t :: after) s := by
    rw [← hts]
    exact laysOut_tokensFrom 1 s
  obtain ⟨front, lexeme, back, rfl, hlexeme, hcolumn, hfront, -⟩ := hs.exists_lexeme
  refine ⟨front.length, ⟨⟨after, hts⟩, ⟨front, lexeme, back, rfl, hfront, hlexeme, rfl⟩⟩, ?_⟩
  rw [hcolumn, columnBehind_of_not_mem fun hmem => hline (List.mem_append_left _ hmem),
    Nat.add_comm]

/-- Parsing blames the index behind the first character of the first token that no
expression has there, or else of the last token. -/
theorem position_of_parse
    {fault : SyntaxFault} {p : Nat}
    (hline : '\n' ∉ s)
    (h : Expression.parse s = .error fault)
    (hp : fault.position? = some p) :
    (∃ before t index, IsTokenAt s before t index ∧ IsOffending WriteExpression before t
        ∧ p = index + 1)
      ∨ IsViable WriteExpression (tokens s)
        ∧ (tokens s = [] ∧ p = 1
          ∨ ∃ before t index, tokens s = before ++ [t] ∧ IsTokenAt s before t index
            ∧ p = index + 1) := by
  unfold Expression.parse at h
  split at h
  · obtain rfl := Except.error.inj h
    cases hp
  split at h
  · cases h
  next column hread =>
    obtain rfl := Except.error.inj h
    obtain rfl := Option.some.inj hp
    rcases column_of_readTokens hread with ⟨before, t, after, hts, hoffending, rfl⟩
      | ⟨hviable, rfl⟩
    · obtain ⟨index, htoken, hcolumn⟩ := exists_isTokenAt hline hts
      exact .inl ⟨before, t, index, htoken, hoffending, hcolumn⟩
    · refine .inr ⟨hviable, ?_⟩
      rcases List.eq_nil_or_concat (tokens s) with hnone | ⟨before, t, hts⟩
      · exact .inl ⟨hnone, by rw [hnone]; rfl⟩
      · rw [List.concat_eq_append] at hts
        obtain ⟨index, htoken, hcolumn⟩ := exists_isTokenAt hline hts
        refine .inr ⟨before, t, index, hts, htoken, ?_⟩
        rw [hts, lastColumn, List.foldl_append]
        exact hcolumn

end Tokens

section Sample

/-- A text with two operations in a row. -/
def doubleOperation : List Char := "1+*2".toList

theorem parse_doubleOperation :
    Expression.parse doubleOperation = .error (.malformedExpression 3) := by
  decide +kernel

theorem tokens_doubleOperation :
    tokens doubleOperation
      = [⟨.literal ['1'], 1⟩, ⟨.plus, 2⟩] ++ ⟨.times, 3⟩ :: [⟨.literal ['2'], 4⟩] := by
  decide +kernel

/-- The second operation is the first token at fault. -/
theorem isOffending_doubleOperation :
    IsOffending WriteExpression [⟨.literal ['1'], 1⟩, ⟨.plus, 2⟩] ⟨.times, 3⟩ where
  viable := by
    have hop : Operator.add.isProduct = false := rfl
    have hone : Derives .sum (.literal ['1']) [⟨.literal ['1'], 1⟩] :=
      .ofProduct (.ofOperand (.literal rfl))
    have htwo : Derives .product (.literal ['2']) [⟨.literal ['2'], 3⟩] := .ofOperand (.literal rfl)
    have hsum : Derives .sum (.binary .add (.literal ['1']) (.literal ['2']))
        ([⟨.literal ['1'], 1⟩] ++ ⟨.plus, 2⟩ :: [⟨.literal ['2'], 3⟩]) := .sum hop rfl hone htwo
    exact ⟨[⟨.literal ['2'], 3⟩], _, hsum⟩
  dead := by
    rintro ⟨back, e, he⟩
    have hread := readTokens_eq_ok_iff.2 he
    have hrefused : readTokens (⟨.literal ['1'], 1⟩ :: ⟨.plus, 2⟩ :: ⟨.times, 3⟩ :: back)
        = .error 3 := rfl
    exact absurd (hread.symm.trans hrefused) (by simp)

end Sample

/-- On a single line, splitting blames the index of the first character that no balanced
text has there.  Parsing blames the index behind the first character of the first token
that no expression has there; where it is the end that no expression has there, that of the
last token, and the first column if there is no token. -/
theorem position_of_fault
    {s : List Char}
    (hline : '\n' ∉ s) :
    (∀ fault p, splitArguments s = .error fault → fault.position? = some p →
        ∃ front back, s = front ++ ')' :: back ∧ IsOffending IsBalanced front ')'
          ∧ p = front.length)
      ∧ ∀ fault p, Expression.parse s = .error fault → fault.position? = some p →
        (∃ before t index, IsTokenAt s before t index ∧ IsOffending WriteExpression before t
            ∧ p = index + 1)
          ∨ IsViable WriteExpression (tokens s)
            ∧ (tokens s = [] ∧ p = 1
              ∨ ∃ before t index, tokens s = before ++ [t] ∧ IsTokenAt s before t index
                ∧ p = index + 1) :=
  ⟨fun _ _ h hp => position_of_splitArguments h hp, fun _ _ h hp => position_of_parse hline h hp⟩

/-- A parenthesis that closes none, and an operation without its left operand. -/
theorem position_of_fault_samples :
    (splitArguments "a),b".toList = .error (.unexpectedClosing 1)
        ∧ ∃ front back, "a),b".toList = front ++ ')' :: back
          ∧ IsOffending IsBalanced front ')' ∧ 1 = front.length)
      ∧ Expression.parse doubleOperation = .error (.malformedExpression 3)
      ∧ ((∃ before t index, IsTokenAt doubleOperation before t index
            ∧ IsOffending WriteExpression before t ∧ 3 = index + 1)
          ∨ IsViable WriteExpression (tokens doubleOperation)
            ∧ (tokens doubleOperation = [] ∧ 3 = 1
              ∨ ∃ before t index, tokens doubleOperation = before ++ [t]
                ∧ IsTokenAt doubleOperation before t index ∧ 3 = index + 1)) := by
  have hsplit : splitArguments "a),b".toList = .error (.unexpectedClosing 1) := by decide
  have hparse := parse_doubleOperation
  have hlines : '\n' ∉ "a),b".toList ∧ '\n' ∉ doubleOperation := by decide
  exact ⟨⟨hsplit, (position_of_fault hlines.1).1 _ 1 hsplit rfl⟩, hparse,
    (position_of_fault hlines.2).2 _ 3 hparse rfl⟩

/-- Parsing does not blame the index at which the first token at fault starts. -/
theorem parse_blames_next_index :
    ∃ s fault p before t index, '\n' ∉ s ∧ Expression.parse s = .error fault
      ∧ fault.position? = some p ∧ IsTokenAt s before t index
      ∧ IsOffending WriteExpression before t ∧ p ≠ index := by
  have hline : '\n' ∉ doubleOperation := by decide
  obtain ⟨index, htoken, hcolumn⟩ := exists_isTokenAt hline tokens_doubleOperation
  have hindex : 3 = index + 1 := hcolumn
  exact ⟨doubleOperation, _, 3, _, _, index, hline, parse_doubleOperation, rfl, htoken,
    isOffending_doubleOperation, by omega⟩

end Formula
end Spreadsheet
