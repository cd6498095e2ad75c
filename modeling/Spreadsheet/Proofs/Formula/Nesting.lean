import Spreadsheet.Formula.Arguments
import Spreadsheet.Proofs.Text.Trimming

/-!
# Nesting of quotes and parentheses

At every place of a text some parentheses are open, and a quote is open or not.
Parentheses inside quotes are characters like any other.  A text is balanced if no
parenthesis closes that is not open, and nothing is open at its end.

Results: blanks at the ends of a text change nothing about its nesting
(`isBalanced_trim`, `hidesCommas_trim`), and a quotation is an argument, whatever it
quotes (`isArgument_quote`).
-/

namespace Spreadsheet
namespace Formula

/-- How many parentheses are open at a place of a text, and whether a quote is. -/
structure Nesting where
  depth : Int
  inQuotes : Bool
deriving DecidableEq

namespace Nesting

/-- Outside quotes and parentheses. -/
def outside : Nesting := ⟨0, false⟩

/-- The nesting behind a character. -/
def after (n : Nesting) (c : Char) : Nesting :=
  if c = '"' then ⟨n.depth, !n.inQuotes⟩
  else if n.inQuotes then n
  else if c = '(' then ⟨n.depth + 1, false⟩
  else if c = ')' then ⟨n.depth - 1, false⟩
  else n

/-- The nesting behind a text. -/
def behind (n : Nesting) (s : List Char) : Nesting := s.foldl after n

/-- From a place on, the text closes all that is open, and never a parenthesis that is
not. -/
structure Closes (n : Nesting) (s : List Char) : Prop where
  nonneg : ∀ front, front <+: s → 0 ≤ (n.behind front).depth
  closed : n.behind s = outside

/-- From a place on, every comma of the text stands inside quotes or parentheses. -/
def HidesCommas (n : Nesting) (s : List Char) : Prop :=
  ∀ front rest, s = front ++ ',' :: rest → n.behind front ≠ outside

end Nesting

/-- Quotes and parentheses are closed where they must be. -/
def IsBalanced (s : List Char) : Prop := Nesting.outside.Closes s

/-- A balanced text without blanks around it, which no comma divides. -/
structure IsArgument (s : List Char) : Prop where
  balanced : IsBalanced s
  trimmed : Text.trim s = s
  whole : Nesting.outside.HidesCommas s

section Lemmas

theorem doubleQuotes_quote
    (s : List Char) :
    doubleQuotes ('"' :: s) = '"' :: '"' :: doubleQuotes s := rfl

theorem doubleQuotes_cons_of_ne
    {c : Char}
    (h : c ≠ '"')
    (s : List Char) :
    doubleQuotes (c :: s) = c :: doubleQuotes s := by
  simp [doubleQuotes, h]

end Lemmas

namespace Nesting

section Lemmas

variable {n : Nesting} {c : Char} {s t : List Char}

@[simp] theorem behind_nil
    (n : Nesting) :
    n.behind [] = n := rfl

@[simp] theorem behind_cons
    (n : Nesting) (c : Char) (s : List Char) :
    n.behind (c :: s) = (n.after c).behind s := rfl

@[simp] theorem behind_append
    (n : Nesting) (s t : List Char) :
    n.behind (s ++ t) = (n.behind s).behind t :=
  List.foldl_append

/-- Characters that are neither quotes nor parentheses do not change the nesting. -/
theorem behind_of_plain
    (h : ∀ c ∈ s, c ≠ '"' ∧ c ≠ '(' ∧ c ≠ ')') :
    n.behind s = n := by
  induction s with
  | nil => rfl
  | cons c s ih =>
      obtain ⟨hquote, hopen, hclose⟩ := h c List.mem_cons_self
      have hafter : n.after c = n := by simp [after, hquote, hopen, hclose]
      rw [behind_cons, hafter, ih fun d hd => h d (List.mem_cons_of_mem _ hd)]

theorem behind_of_isBlank
    (h : ∀ c ∈ s, Text.isBlank c = true) :
    n.behind s = n := by
  refine behind_of_plain fun c hc => ?_
  have hne : ∀ d : Char, Text.isBlank d = false → c ≠ d := by
    rintro d hd rfl
    rw [h c hc] at hd
    cases hd
  exact ⟨hne '"' (by decide), hne '(' (by decide), hne ')' (by decide)⟩

/-- Blanks at the ends of a text do not change where it leads. -/
theorem behind_trim
    (n : Nesting) (s : List Char) :
    n.behind (Text.trim s) = n.behind s := by
  obtain ⟨before, after, hbefore, hafter, hs⟩ := Text.exists_append_trim s
  calc
    n.behind (Text.trim s) = n.behind (before ++ Text.trim s ++ after) := by
      rw [behind_append, behind_append, behind_of_isBlank hbefore, behind_of_isBlank hafter]
    _ = n.behind s := by rw [← hs]

theorem closes_nil :
    n.Closes [] ↔ n = outside := by
  constructor
  · exact fun h => h.closed
  · rintro rfl
    refine ⟨fun front hfront => ?_, rfl⟩
    rw [List.prefix_nil.1 hfront]
    decide

theorem closes_cons :
    n.Closes (c :: s) ↔ 0 ≤ n.depth ∧ (n.after c).Closes s := by
  constructor
  · intro h
    refine ⟨h.nonneg [] (List.nil_prefix), fun front hfront => ?_, h.closed⟩
    exact h.nonneg (c :: front) (List.cons_prefix_cons.2 ⟨rfl, hfront⟩)
  · rintro ⟨hdepth, hnonneg, hclosed⟩
    refine ⟨fun front hfront => ?_, hclosed⟩
    rcases List.prefix_cons_iff.1 hfront with rfl | ⟨rest, rfl, hrest⟩
    · exact hdepth
    · exact hnonneg rest hrest

theorem Closes.depth_nonneg
    (h : n.Closes s) :
    0 ≤ n.depth :=
  h.nonneg [] List.nil_prefix

theorem Closes.append
    (hs : n.Closes s)
    (ht : outside.Closes t) :
    n.Closes (s ++ t) := by
  induction s generalizing n with
  | nil =>
      obtain rfl := closes_nil.1 hs
      exact ht
  | cons c s ih =>
      obtain ⟨hdepth, hs⟩ := closes_cons.1 hs
      exact closes_cons.2 ⟨hdepth, ih hs⟩

theorem hidesCommas_nil :
    n.HidesCommas [] := by
  intro front rest h
  simp at h

theorem hidesCommas_cons :
    n.HidesCommas (c :: s) ↔ (c = ',' → n ≠ outside) ∧ (n.after c).HidesCommas s := by
  constructor
  · intro h
    refine ⟨?_, fun front rest hs => h (c :: front) rest (by rw [hs]; rfl)⟩
    rintro rfl
    exact h [] s rfl
  · rintro ⟨hc, hs⟩ front rest h
    cases front with
    | nil => exact hc (List.cons.inj h).1
    | cons d front =>
        obtain ⟨rfl, htail⟩ := List.cons.inj h
        exact hs front rest htail

theorem hidesCommas_append :
    n.HidesCommas (s ++ t) ↔ n.HidesCommas s ∧ (n.behind s).HidesCommas t := by
  induction s generalizing n with
  | nil => simp [hidesCommas_nil]
  | cons c s ih => rw [List.cons_append, hidesCommas_cons, hidesCommas_cons, ih, behind_cons, and_assoc]

instance decidableCloses : (n : Nesting) → (s : List Char) → Decidable (n.Closes s)
  | _, [] => decidable_of_iff _ closes_nil.symm
  | n, c :: s =>
      have := decidableCloses (n.after c) s
      decidable_of_iff _ closes_cons.symm

instance decidableHidesCommas : (n : Nesting) → (s : List Char) → Decidable (n.HidesCommas s)
  | _, [] => isTrue hidesCommas_nil
  | n, c :: s =>
      have := decidableHidesCommas (n.after c) s
      decidable_of_iff _ hidesCommas_cons.symm

/-- Quotes written twice leave a quotation open. -/
theorem behind_doubleQuotes
    (h : n.inQuotes = true)
    (s : List Char) :
    n.behind (doubleQuotes s) = n := by
  obtain ⟨depth, _⟩ := n
  obtain rfl : _ = true := h
  induction s with
  | nil => rfl
  | cons c s ih =>
      by_cases hc : c = '"'
      · subst hc
        exact ih
      · have hafter : Nesting.after ⟨depth, true⟩ c = ⟨depth, true⟩ := by simp [after, hc]
        rw [doubleQuotes_cons_of_ne hc, behind_cons, hafter, ih]

theorem behind_quote
    (h : n.inQuotes = false)
    (s : List Char) :
    n.behind (quote s) = n := by
  obtain ⟨depth, _⟩ := n
  obtain rfl : _ = false := h
  have hopen : Nesting.after ⟨depth, false⟩ '"' = ⟨depth, true⟩ := rfl
  rw [quote, List.cons_append, behind_cons, behind_append, hopen, behind_doubleQuotes rfl]
  rfl

end Lemmas

end Nesting

instance decidableIsBalanced (s : List Char) : Decidable (IsBalanced s) :=
  Nesting.decidableCloses _ s

instance decidableIsArgument (s : List Char) : Decidable (IsArgument s) :=
  decidable_of_iff (IsBalanced s ∧ Text.trim s = s ∧ Nesting.outside.HidesCommas s)
    ⟨fun h => ⟨h.1, h.2.1, h.2.2⟩, fun h => ⟨h.balanced, h.trimmed, h.whole⟩⟩

section Lemmas

open Nesting

variable {s t : List Char}

theorem IsBalanced.append
    (hs : IsBalanced s)
    (ht : IsBalanced t) :
    IsBalanced (s ++ t) :=
  Closes.append hs ht

/-- Blanks at the ends of a text do not unbalance it. -/
theorem isBalanced_trim
    (h : IsBalanced s) :
    IsBalanced (Text.trim s) := by
  obtain ⟨before, after, hbefore, -, hs⟩ := Text.exists_append_trim s
  constructor
  case nonneg =>
    intro front hfront
    have hlonger : before ++ front <+: s := by
      rw [hs, List.append_assoc]
      exact List.prefix_append_right_inj _ |>.2 (hfront.trans (List.prefix_append _ _))
    have hnonneg := h.nonneg _ hlonger
    rwa [behind_append, behind_of_isBlank hbefore] at hnonneg
  case closed => rw [behind_trim, h.closed]

theorem hidesCommas_trim
    (h : outside.HidesCommas s) :
    outside.HidesCommas (Text.trim s) := by
  obtain ⟨before, after, hbefore, -, hs⟩ := Text.exists_append_trim s
  rw [hs, hidesCommas_append, hidesCommas_append, behind_of_isBlank hbefore] at h
  exact h.1.2

/-- What a comma does not divide is an argument between blanks. -/
theorem isArgument_trim
    (hbalanced : IsBalanced s)
    (hwhole : outside.HidesCommas s) :
    IsArgument (Text.trim s) :=
  ⟨isBalanced_trim hbalanced, Text.trim_trim s, hidesCommas_trim hwhole⟩

/-- A place inside a quotation is inside its quotes, or between the two quotes that stand
for one. -/
theorem nesting_within_quotes
    {front rest : List Char}
    (h : doubleQuotes s ++ ['"'] = front ++ rest)
    (hrest : rest ≠ []) :
    Nesting.behind ⟨0, true⟩ front = ⟨0, true⟩
      ∨ Nesting.behind ⟨0, true⟩ front = outside ∧ rest.head? = some '"' := by
  induction s generalizing front with
  | nil =>
      obtain ⟨rfl, -⟩ | ⟨-, hnil⟩ := List.singleton_eq_append_iff.1 h
      · exact .inl rfl
      · exact absurd hnil hrest
  | cons c s ih =>
      cases front with
      | nil => exact .inl rfl
      | cons d front =>
          by_cases hc : c = '"'
          · rw [hc, doubleQuotes_quote] at h
            obtain ⟨rfl, htail⟩ := List.cons.inj h
            cases front with
            | nil =>
                obtain rfl : _ = rest := htail
                exact .inr ⟨rfl, rfl⟩
            | cons e front =>
                obtain ⟨rfl, hsplit⟩ := List.cons.inj htail
                exact @ih front hsplit
          · rw [doubleQuotes_cons_of_ne hc] at h
            obtain ⟨rfl, htail⟩ := List.cons.inj h
            have hafter : Nesting.after ⟨0, true⟩ c = ⟨0, true⟩ := by simp [after, hc]
            rw [behind_cons, hafter]
            exact ih htail

/-- Where a quotation goes on, its quotes are open or about to be opened. -/
theorem nesting_within_quote
    {front rest : List Char}
    (h : quote s = front ++ rest)
    (hrest : rest ≠ []) :
    outside.behind front = ⟨0, true⟩
      ∨ outside.behind front = outside ∧ rest.head? = some '"' := by
  cases front with
  | nil =>
      refine .inr ⟨rfl, ?_⟩
      rw [← List.nil_append rest, ← h]
      rfl
  | cons c front =>
      obtain ⟨rfl, htail⟩ := List.cons.inj h
      exact nesting_within_quotes htail hrest

theorem isBalanced_quote
    (s : List Char) :
    IsBalanced (quote s) := by
  constructor
  case nonneg =>
    rintro front ⟨rest, h⟩
    by_cases hrest : rest = []
    · rw [← List.append_nil front, ← hrest, h, behind_quote rfl]
      decide
    · have hdepth : (outside.behind front).depth = 0 := by
        rcases nesting_within_quote h.symm hrest with hn | ⟨hn, -⟩ <;> exact congrArg depth hn
      exact Int.le_of_eq hdepth.symm
  case closed => exact behind_quote rfl s

theorem hidesCommas_quote
    (s : List Char) :
    outside.HidesCommas (quote s) := by
  intro front rest h
  rcases nesting_within_quote h (by simp) with hn | ⟨-, hhead⟩
  · rw [hn]
    decide
  · cases hhead

/-- A quotation is an argument, whatever it quotes. -/
theorem isArgument_quote
    (s : List Char) :
    IsArgument (quote s) where
  balanced := isBalanced_quote s
  trimmed := Text.trim_cons_append_singleton (by decide) (by decide) (doubleQuotes s)
  whole := hidesCommas_quote s

example : IsBalanced "IF(A1=\")\",(B2))".toList := by decide

example : ¬ IsBalanced "A1),(B2".toList := by decide

end Lemmas

end Formula
end Spreadsheet
