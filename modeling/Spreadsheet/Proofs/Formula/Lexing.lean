import Spreadsheet.Formula.Expression.Token
import Spreadsheet.Proofs.Json.Number

/-!
# Tokens and their texts

A text of arithmetic is laid out as gaps and the texts of tokens: a literal, or a single
character.  A literal is read as far as it goes, so it is read as itself if what follows
cannot go on with it.

Results: every text is laid out as its tokens, each in the column where its text starts
(`laysOut_tokensFrom`), and a token of a text stands behind the tokens before it
(`LaysOut.exists_lexeme`).
-/

namespace Spreadsheet
namespace Formula

open Numeral (IsDigits)

/-- The characters that may stand between two tokens. -/
def gapCharacters : List Char := [' ', '\t', '\x0c', '\r', '\n']

/-- The literals: digits, with a point behind or among them, or a point and digits. -/
inductive IsLiteral : List Char → Prop
  | whole
      {digits : List Char}
      (hdigits : IsDigits digits) :
      IsLiteral digits
  | point
      {whole fraction : List Char}
      (hwhole : IsDigits whole)
      (hfraction : ∀ c ∈ fraction, c.isDigit = true) :
      IsLiteral (whole ++ '.' :: fraction)
  | fraction
      {digits : List Char}
      (hdigits : IsDigits digits) :
      IsLiteral ('.' :: digits)

/-- The text of a token. -/
inductive IsLexeme : Symbol → List Char → Prop
  | literal
      {digits : List Char}
      (hdigits : IsLiteral digits) :
      IsLexeme (.literal digits) digits
  | mark
      {c : Char}
      (hgap : c ∉ gapCharacters) :
      IsLexeme (symbolOf c) [c]

/-- The column behind a text that starts in a column; a line feed starts a new line. -/
def columnBehind (column : Nat) (s : List Char) : Nat :=
  s.foldl (fun n c => if c = '\n' then 1 else n + 1) column

/-- The text, starting in a column, holds the texts of the tokens and gaps around them. -/
inductive LaysOut : Nat → List Token → List Char → Prop
  | gaps
      {column : Nat} {gaps : List Char}
      (hgaps : ∀ c ∈ gaps, c ∈ gapCharacters) :
      LaysOut column [] gaps
  | token
      {column : Nat} {symbol : Symbol} {gaps lexeme rest : List Char} {ts : List Token}
      (hgaps : ∀ c ∈ gaps, c ∈ gapCharacters)
      (hlexeme : IsLexeme symbol lexeme)
      (hrest : LaysOut (columnBehind column (gaps ++ lexeme)) ts rest) :
      LaysOut column (⟨symbol, columnBehind column gaps⟩ :: ts) (gaps ++ (lexeme ++ rest))

/-- What follows cannot go on with a literal. -/
def EndsLiteral (s : List Char) : Prop :=
  ∀ c ∈ s.head?, c.isDigit = false ∧ c ≠ '.'

section Columns

variable {s t : List Char}

@[simp] theorem columnBehind_nil
    (column : Nat) :
    columnBehind column [] = column := rfl

@[simp] theorem columnBehind_cons
    (column : Nat) (c : Char) (s : List Char) :
    columnBehind column (c :: s) = columnBehind (if c = '\n' then 1 else column + 1) s := rfl

@[simp] theorem columnBehind_append
    (column : Nat) (s t : List Char) :
    columnBehind column (s ++ t) = columnBehind (columnBehind column s) t :=
  List.foldl_append

/-- On one line every character is one column wide. -/
theorem columnBehind_of_not_mem
    (h : '\n' ∉ s)
    (column : Nat) :
    columnBehind column s = column + s.length := by
  induction s generalizing column with
  | nil => rfl
  | cons c s ih =>
      simp only [List.mem_cons, not_or] at h
      obtain ⟨hc, hs⟩ := h
      rw [columnBehind_cons, if_neg (Ne.symm hc), ih hs, List.length_cons, Nat.add_assoc,
        Nat.add_comm 1]

end Columns

section Literals

variable {digits rest s : List Char}

theorem isGap_iff
    {c : Char} :
    isGap c = true ↔ c ∈ gapCharacters := by
  simp [isGap, gapCharacters, or_assoc]

theorem endsLiteral_cons
    {c : Char}
    (hc : c.isDigit = false ∧ c ≠ '.')
    (s : List Char) :
    EndsLiteral (c :: s) := by
  intro d hd
  obtain rfl := Option.some.inj hd
  exact hc

theorem endsLiteral_nil :
    EndsLiteral [] := by
  simp [EndsLiteral]

theorem EndsLiteral.endsDigits
    (h : EndsLiteral rest) :
    Json.EndsDigits rest := by
  rintro c r rfl
  exact (h c rfl).1

/-- A literal is scanned up to what ends it. -/
theorem scanLiteral?_append
    (h : IsLiteral digits)
    (hrest : EndsLiteral rest) :
    scanLiteral? (digits ++ rest) = some (digits, rest) := by
  have hends := hrest.endsDigits
  have hpoint : ∀ s, Json.EndsDigits ('.' :: s) := fun s => Json.endsDigits_cons (by decide) s
  unfold scanLiteral?
  cases h with
  | whole hdigits =>
      have hsome : digits.isEmpty = false := by simpa using hdigits.1
      simp only [Json.takeWhile_digits hdigits.2 hends, Json.dropWhile_digits hdigits.2 hends,
        hsome, Bool.false_eq_true, if_false]
      split
      · exact absurd rfl (hrest '.' rfl).2
      · rfl
  | @point whole fraction hwhole hfraction =>
      have hsome : whole.isEmpty = false := by simpa using hwhole.1
      rw [List.append_assoc, List.cons_append]
      simp only [Json.takeWhile_digits hwhole.2 (hpoint _),
        Json.dropWhile_digits hwhole.2 (hpoint _), hsome, Bool.false_eq_true, if_false,
        Json.takeWhile_digits hfraction hends, Json.dropWhile_digits hfraction hends]
  | @fraction digits hdigits =>
      have hsome : digits.isEmpty = false := by simpa using hdigits.1
      have htake : ('.' :: (digits ++ rest)).takeWhile Char.isDigit = [] := by simp
      have hdrop : ('.' :: (digits ++ rest)).dropWhile Char.isDigit = '.' :: (digits ++ rest) := by
        simp
      rw [List.cons_append, htake, hdrop]
      simp only [List.isEmpty_nil, if_true, Json.takeWhile_digits hdigits.2 hends,
        Json.dropWhile_digits hdigits.2 hends, hsome, Bool.false_eq_true, if_false]

/-- What is scanned is a literal at the front. -/
theorem isLiteral_of_scanLiteral?
    (h : scanLiteral? s = some (digits, rest)) :
    IsLiteral digits ∧ s = digits ++ rest := by
  have hsplit := List.takeWhile_append_dropWhile (p := Char.isDigit) (l := s)
  have hall : ∀ t : List Char, ∀ c ∈ t.takeWhile Char.isDigit, c.isDigit = true :=
    fun t c hc => List.all_eq_true.1 List.all_takeWhile c hc
  unfold scanLiteral? at h
  simp only at h
  split at h
  · next hnone =>
      rw [List.isEmpty_iff.1 hnone, List.nil_append] at hsplit
      split at h
      · next r hpoint =>
          split at h
          · cases h
          · next hsome =>
              obtain ⟨rfl, rfl⟩ := Prod.mk.inj (Option.some.inj h)
              refine ⟨.fraction ⟨by simpa using hsome, hall r⟩, ?_⟩
              rw [List.cons_append, List.takeWhile_append_dropWhile, ← hpoint, hsplit]
      · cases h
  · next hsome =>
      have hwhole : IsDigits (s.takeWhile Char.isDigit) := ⟨by simpa using hsome, hall s⟩
      split at h
      · next r hpoint =>
          obtain ⟨rfl, rfl⟩ := Prod.mk.inj (Option.some.inj h)
          refine ⟨.point hwhole (hall r), ?_⟩
          rw [List.append_assoc, List.cons_append, List.takeWhile_append_dropWhile, ← hpoint,
            hsplit]
      · obtain ⟨rfl, rfl⟩ := Prod.mk.inj (Option.some.inj h)
        exact ⟨.whole hwhole, hsplit.symm⟩

theorem IsLiteral.mem_cases
    (h : IsLiteral digits)
    {c : Char}
    (hc : c ∈ digits) :
    c.isDigit = true ∨ c = '.' := by
  cases h with
  | whole hdigits => exact .inl (hdigits.2 c hc)
  | point hwhole hfraction =>
      rcases List.mem_append.1 hc with hc | hc
      · exact .inl (hwhole.2 c hc)
      rcases List.mem_cons.1 hc with rfl | hc
      · exact .inr rfl
      · exact .inl (hfraction c hc)
  | fraction hdigits =>
      rcases List.mem_cons.1 hc with rfl | hc
      · exact .inr rfl
      · exact .inl (hdigits.2 c hc)

theorem IsLiteral.ne_nil
    (h : IsLiteral digits) :
    digits ≠ [] := by
  cases h with
  | whole hdigits => exact hdigits.1
  | point _ _ => simp
  | fraction _ => simp

/-- No literal starts with a character that is neither a digit nor a point. -/
theorem scanLiteral?_eq_none
    {c : Char}
    (hc : c.isDigit = false ∧ c ≠ '.')
    (s : List Char) :
    scanLiteral? (c :: s) = none := by
  refine Option.eq_none_iff_forall_ne_some.2 fun ⟨digits, rest⟩ h => ?_
  obtain ⟨hliteral, hs⟩ := isLiteral_of_scanLiteral? h
  obtain ⟨d, others, rfl⟩ := List.exists_cons_of_ne_nil hliteral.ne_nil
  obtain ⟨rfl, -⟩ := List.cons.inj hs
  rcases hliteral.mem_cases List.mem_cons_self with hdigit | hpoint
  · rw [hdigit] at hc
    cases hc.1
  · exact hc.2 hpoint

end Literals

section Tokens

variable {digits rest s : List Char}

theorem tokensFrom_gap
    {c : Char}
    (hgap : c ∈ gapCharacters)
    (column : Nat) (s : List Char) :
    tokensFrom column (c :: s) = tokensFrom (columnBehind column [c]) s := by
  rw [tokensFrom, if_pos (isGap_iff.2 hgap)]
  rfl

/-- A literal is a token of its own. -/
theorem tokensFrom_literal
    (h : IsLiteral digits)
    (hrest : EndsLiteral rest)
    (column : Nat) :
    tokensFrom column (digits ++ rest)
      = ⟨.literal digits, column⟩ :: tokensFrom (column + digits.length) rest := by
  have hscan := scanLiteral?_append h hrest
  obtain ⟨c, others, rfl⟩ := List.exists_cons_of_ne_nil h.ne_nil
  have hgap : isGap c = false := by
    rcases h.mem_cases List.mem_cons_self with hdigit | rfl
    · have hne : ∀ d : Char, d.isDigit = false → c ≠ d := by
        rintro d hd rfl
        simp [hdigit] at hd
      simp [isGap, hne ' ' (by decide), hne '\t' (by decide), hne '\x0c' (by decide),
        hne '\r' (by decide), hne '\n' (by decide)]
    · decide
  rw [List.cons_append] at hscan ⊢
  rw [tokensFrom, if_neg (by simp [hgap])]
  split
  · next h =>
      rw [hscan] at h
      obtain ⟨rfl, rfl⟩ := Prod.mk.inj (Option.some.inj h)
      rfl
  · next h =>
      rw [hscan] at h
      cases h

/-- A character that starts no literal is a token of its own. -/
theorem tokensFrom_mark
    {c : Char}
    (hgap : c ∉ gapCharacters)
    (hscan : scanLiteral? (c :: s) = none)
    (column : Nat) :
    tokensFrom column (c :: s) = ⟨symbolOf c, column⟩ :: tokensFrom (column + 1) s := by
  rw [tokensFrom, if_neg (by simpa [isGap_iff] using hgap)]
  split
  · next h =>
      rw [hscan] at h
      cases h
  · rfl

end Tokens

section Layout

variable {column : Nat} {ts ts' before after : List Token} {t : Token} {s : List Char}

theorem IsLexeme.not_mem
    {symbol : Symbol} {lexeme : List Char}
    (h : IsLexeme symbol lexeme) :
    '\n' ∉ lexeme := by
  cases h with
  | literal hdigits =>
      intro hmem
      rcases hdigits.mem_cases hmem with hdigit | hpoint
      · cases hdigit
      · cases hpoint
  | mark hgap =>
      intro hmem
      obtain rfl := List.mem_singleton.1 hmem
      exact hgap (by decide)

theorem LaysOut.cons_gap
    {c : Char}
    (hgap : c ∈ gapCharacters)
    (h : LaysOut (columnBehind column [c]) ts s) :
    LaysOut column ts (c :: s) := by
  cases h with
  | gaps hgaps => exact .gaps (List.forall_mem_cons.2 ⟨hgap, hgaps⟩)
  | @token _ _ gaps _ _ _ hgaps hlexeme hrest =>
      have hall : ∀ d ∈ c :: gaps, d ∈ gapCharacters := List.forall_mem_cons.2 ⟨hgap, hgaps⟩
      exact .token hall hlexeme hrest

theorem LaysOut.append_gaps
    {gaps : List Char}
    (h : LaysOut column ts s)
    (hgaps : ∀ c ∈ gaps, c ∈ gapCharacters) :
    LaysOut column ts (s ++ gaps) := by
  induction h with
  | gaps hbefore => exact .gaps (List.forall_mem_append.2 ⟨hbefore, hgaps⟩)
  | token hbefore hlexeme _ ih =>
      rw [List.append_assoc, List.append_assoc]
      exact .token hbefore hlexeme ih

/-- Every text is laid out as its tokens. -/
theorem laysOut_tokensFrom
    (column : Nat) (s : List Char) :
    LaysOut column (tokensFrom column s) s := by
  have hnone : ∀ c ∈ ([] : List Char), c ∈ gapCharacters := by simp
  fun_induction tokensFrom column s with
  | case1 column => exact .gaps (by simp)
  | case2 column c r hgap ih => exact .cons_gap (isGap_iff.1 hgap) ih
  | case3 column c r hgap digits rest hscan ih =>
      obtain ⟨hliteral, hs⟩ := isLiteral_of_scanLiteral? hscan
      have hlexeme : IsLexeme (.literal digits) digits := .literal hliteral
      rw [hs]
      refine .token hnone hlexeme ?_
      rwa [List.nil_append, columnBehind_of_not_mem hlexeme.not_mem]
  | case4 column c r hgap hscan ih =>
      have hlexeme : IsLexeme (symbolOf c) [c] := .mark (by simpa [isGap_iff] using hgap)
      refine .token hnone hlexeme ?_
      rwa [List.nil_append, columnBehind_of_not_mem hlexeme.not_mem]

/-- Tokens are laid out in front of those that follow them. -/
theorem LaysOut.exists_split
    (h : LaysOut column (ts ++ ts') s) :
    ∃ front back, s = front ++ back ∧ LaysOut column ts front
      ∧ LaysOut (columnBehind column front) ts' back := by
  induction ts generalizing column s with
  | nil => exact ⟨[], s, rfl, .gaps (by simp), h⟩
  | cons t ts ih =>
      cases h with
      | @token _ symbol gaps lexeme rest _ hgaps hlexeme hrest =>
          obtain ⟨front, back, rfl, hfront, hback⟩ := ih hrest
          refine ⟨gaps ++ (lexeme ++ front), back, by simp, .token hgaps hlexeme hfront, ?_⟩
          simpa using hback

/-- The text of a token starts in its column, between the tokens before and behind it. -/
theorem LaysOut.exists_lexeme
    (h : LaysOut column (before ++ t :: after) s) :
    ∃ front lexeme back, s = front ++ (lexeme ++ back) ∧ IsLexeme t.symbol lexeme
      ∧ t.column = columnBehind column front ∧ LaysOut column before front
      ∧ LaysOut (columnBehind column (front ++ lexeme)) after back := by
  obtain ⟨front, back, rfl, hfront, hback⟩ := h.exists_split
  cases hback with
  | @token _ _ gaps lexeme rest _ hgaps hlexeme hrest =>
      refine ⟨front ++ gaps, lexeme, rest, by simp, hlexeme, by simp, hfront.append_gaps hgaps, ?_⟩
      simpa using hrest

/-- Only gaps stand before the text of the first token. -/
theorem LaysOut.exists_first
    (h : LaysOut column (t :: after) s) :
    ∃ gaps lexeme back, s = gaps ++ (lexeme ++ back) ∧ (∀ c ∈ gaps, c ∈ gapCharacters)
      ∧ IsLexeme t.symbol lexeme ∧ LaysOut (columnBehind column (gaps ++ lexeme)) after back := by
  cases h with
  | token hgaps hlexeme hrest => exact ⟨_, _, _, rfl, hgaps, hlexeme, hrest⟩

theorem LaysOut.mem_gapCharacters
    (h : LaysOut column [] s) :
    ∀ c ∈ s, c ∈ gapCharacters := by
  cases h with
  | gaps hgaps => exact hgaps

end Layout

end Formula
end Spreadsheet
