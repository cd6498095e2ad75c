import Spreadsheet.Proofs.Except
import Spreadsheet.Proofs.Formula.Finite
import Spreadsheet.Proofs.Formula.Quotation

/-!
# What is read as quoted text

A part of a call is read as quoted text if it starts and ends with a double quote.  In a
balanced text this is either a quotation or a span from the first of several quotations to
the last, with other text between them.  Read as a formula, either has no value.

Results: the two kinds of text between quotes (`quote_or_span`), what a span is read as
(`unquote_span`), and what is read as quoted text of all parts that arguments are cut
into (`ofText_eq_quoted_iff`).
-/

namespace Spreadsheet
namespace Formula

/-- The texts that a call takes from its arguments: each of them, and the operands of one
that is a condition. -/
inductive IsPart (arguments : List Char) : List Char → Prop
  | argument
      {args : List (List Char)} {part : List Char}
      (hargs : splitArguments arguments = .ok args)
      (hpart : part ∈ args) :
      IsPart arguments part
  | left
      {args : List (List Char)} {condition left right : List Char} {sign : Comparison}
      (hargs : splitArguments arguments = .ok args)
      (hcondition : condition ∈ args)
      (hsplit : splitComparison condition = .ok (left, sign, right)) :
      IsPart arguments left
  | right
      {args : List (List Char)} {condition left right : List Char} {sign : Comparison}
      (hargs : splitArguments arguments = .ok args)
      (hcondition : condition ∈ args)
      (hsplit : splitComparison condition = .ok (left, sign, right)) :
      IsPart arguments right

/-- Two quotations with other text between them, which belongs to neither. -/
structure IsSpan (first middle last s : List Char) : Prop where
  joined : s = quote first ++ (middle ++ quote last)
  parted : middle ≠ []
  front : middle.head? ≠ some '"'
  back : middle.getLast? ≠ some '"'

section Quotes

open Nesting

variable {s text first middle last : List Char}

theorem inQuotes_after
    (n : Nesting) (c : Char) :
    (n.after c).inQuotes = if c = '"' then !n.inQuotes else n.inQuotes := by
  unfold after
  repeat' split
  all_goals simp_all

/-- Quotes written twice neither open nor close a quotation. -/
theorem inQuotes_behind_doubleQuotes
    (n : Nesting) (s : List Char) :
    (n.behind (doubleQuotes s)).inQuotes = n.inQuotes := by
  induction s generalizing n with
  | nil => rfl
  | cons c s ih =>
      by_cases hc : c = '"'
      · subst hc
        rw [doubleQuotes_quote, behind_cons, behind_cons, ih, inQuotes_after, inQuotes_after]
        simp
      · rw [doubleQuotes_cons_of_ne hc, behind_cons, ih, inQuotes_after, if_neg hc]

theorem doubleQuotes_append
    (s t : List Char) :
    doubleQuotes (s ++ t) = doubleQuotes s ++ doubleQuotes t :=
  List.flatMap_append

theorem reverse_doubleQuotes
    (s : List Char) :
    (doubleQuotes s).reverse = doubleQuotes s.reverse := by
  induction s with
  | nil => rfl
  | cons c s ih =>
      rw [List.reverse_cons, doubleQuotes_append, ← ih]
      by_cases hc : c = '"'
      · subst hc
        simp [doubleQuotes]
      · simp [doubleQuotes, hc]

/-- The quotes at the front of a text go in pairs, up to the first that stands alone. -/
theorem exists_doubleQuotes
    (s : List Char) :
    ∃ front, s = doubleQuotes front
      ∨ ∃ rest, s = doubleQuotes front ++ '"' :: rest ∧ rest.head? ≠ some '"' := by
  fun_induction halveQuotes s with
  | case1 s ih =>
      obtain ⟨front, rfl | ⟨rest, rfl, hrest⟩⟩ := ih
      · exact ⟨'"' :: front, .inl rfl⟩
      · exact ⟨'"' :: front, .inr ⟨rest, rfl, hrest⟩⟩
  | case2 c s hpair ih =>
      by_cases hc : c = '"'
      · subst hc
        refine ⟨[], .inr ⟨s, rfl, ?_⟩⟩
        intro hhead
        obtain ⟨tail, rfl⟩ : ∃ tail, s = '"' :: tail := by
          cases s with
          | nil => cases hhead
          | cons d tail => exact ⟨tail, by rw [Option.some.inj hhead]⟩
        exact hpair tail rfl rfl
      · obtain ⟨front, rfl | ⟨rest, rfl, hrest⟩⟩ := ih
        · exact ⟨c :: front, .inl (doubleQuotes_cons_of_ne hc front).symm⟩
        · exact ⟨c :: front, .inr ⟨rest, by rw [doubleQuotes_cons_of_ne hc]; rfl, hrest⟩⟩
  | case3 => exact ⟨[], .inl rfl⟩

/-- A text between double quotes that ends outside quotes is a quotation, or a span from
one quotation to another. -/
theorem quote_or_span
    (hquoted : isQuoted s = true)
    (hclosed : (outside.behind s).inQuotes = false) :
    (∃ text, s = quote text) ∨ ∃ first middle last, IsSpan first middle last s := by
  simp only [isQuoted, Bool.and_eq_true, decide_eq_true_eq, beq_iff_eq] at hquoted
  obtain ⟨⟨hlength, hhead⟩, hlast⟩ := hquoted
  obtain ⟨tail, rfl⟩ : ∃ tail, s = '"' :: tail := List.head?_eq_some_iff.1 hhead
  have hopen : outside.after '"' = ⟨0, true⟩ := rfl
  obtain ⟨first, rfl | ⟨rest, rfl, hrest⟩⟩ := exists_doubleQuotes tail
  · -- every quote behind the first is one of a pair
    rw [behind_cons, hopen, behind_doubleQuotes rfl] at hclosed
    cases hclosed
  obtain rfl | hne := eq_or_ne rest []
  · exact .inl ⟨first, rfl⟩
  have hjoined : '"' :: (doubleQuotes first ++ '"' :: rest) = quote first ++ rest := by
    simp [quote]
  rw [hjoined, behind_append, behind_quote rfl] at hclosed
  rw [hjoined, List.getLast?_append_of_ne_nil _ hne, ← List.head?_reverse] at hlast
  obtain ⟨back, hback⟩ := List.head?_eq_some_iff.1 hlast
  obtain rfl : rest = back.reverse ++ ['"'] := by
    rw [← List.reverse_reverse rest, hback, List.reverse_cons]
  obtain ⟨last, rfl | ⟨more, rfl, hmore⟩⟩ := exists_doubleQuotes back
  · -- every quote before the last is one of a pair, so the last opens a quotation
    rw [behind_append, reverse_doubleQuotes, behind_cons, behind_nil, inQuotes_after, if_pos rfl,
      inQuotes_behind_doubleQuotes] at hclosed
    cases hclosed
  have hparts : (doubleQuotes last ++ '"' :: more).reverse ++ ['"']
      = more.reverse ++ quote last.reverse := by
    simp [quote, reverse_doubleQuotes]
  rw [hparts] at hrest
  have hparted : more.reverse ≠ [] := by
    intro hnil
    rw [hnil] at hrest
    exact hrest rfl
  refine .inr ⟨first, more.reverse, last.reverse, hjoined.trans (by rw [hparts]), hparted,
    ?_, ?_⟩
  · rwa [List.head?_append_of_ne_nil _ hparted] at hrest
  · rwa [List.getLast?_reverse]

/-- Halving undoes doubling at the front of a text. -/
theorem halveQuotes_doubleQuotes_append
    (s t : List Char) :
    halveQuotes (doubleQuotes s ++ t) = s ++ halveQuotes t := by
  induction s with
  | nil => rfl
  | cons c s ih =>
      by_cases hc : c = '"'
      · subst hc
        rw [doubleQuotes_quote, List.cons_append, List.cons_append, halveQuotes, ih]
        rfl
      · rw [doubleQuotes_cons_of_ne hc, List.cons_append, halveQuotes, ih]
        · rfl
        · exact fun _ h => absurd h hc

/-- A quote that stands alone is kept. -/
theorem halveQuotes_cons_quote
    (h : s.head? ≠ some '"') :
    halveQuotes ('"' :: s) = '"' :: halveQuotes s := by
  rw [halveQuotes]
  rintro tail - rfl
  exact h rfl

/-- Texts of which the first does not end with a quote are halved one by one. -/
theorem halveQuotes_append
    (h : s.getLast? ≠ some '"')
    (t : List Char) :
    halveQuotes (s ++ t) = halveQuotes s ++ halveQuotes t := by
  fun_induction halveQuotes s with
  | case1 s ih =>
      have hs : s.getLast? ≠ some '"' := fun hs => h (by simp [List.getLast?_cons, hs])
      rw [List.cons_append, List.cons_append, halveQuotes, ih hs, List.cons_append]
  | case2 c s hpair ih =>
      have hs : s.getLast? ≠ some '"' := fun hs => h (by simp [List.getLast?_cons, hs])
      rw [List.cons_append, halveQuotes, ih hs, List.cons_append]
      rintro tail rfl htail
      cases s with
      | nil => exact h rfl
      | cons d s =>
          obtain ⟨rfl, -⟩ := List.cons.inj htail
          exact hpair s rfl rfl
  | case3 => rfl

/-- Of an odd number of quotes at the front, one stands alone. -/
theorem halveQuotes_quote_doubleQuotes
    (s : List Char) :
    halveQuotes ('"' :: doubleQuotes s) = '"' :: s := by
  induction s with
  | nil => rfl
  | cons c s ih =>
      by_cases hc : c = '"'
      · subst hc
        rw [doubleQuotes_quote, halveQuotes, ih]
      · rw [halveQuotes_cons_quote (by rw [doubleQuotes_cons_of_ne hc]; simpa using hc),
          halveQuotes_doubleQuotes]

theorem isQuoted_span
    (h : IsSpan first middle last s) :
    isQuoted s = true := by
  have hlast : (quote first ++ (middle ++ quote last)).getLast? = some '"' := by
    rw [List.getLast?_append_of_ne_nil _ (by simp [quote]),
      List.getLast?_append_of_ne_nil _ (by simp [quote]), quote, List.getLast?_concat]
  have hlength : 2 ≤ (quote first ++ (middle ++ quote last)).length := by
    simp only [quote, List.length_append, List.length_cons]
    omega
  rw [h.joined]
  simp only [isQuoted, hlast, hlength]
  simp [quote]

/-- A span is read with its outer quotes taken away, and the inner ones kept. -/
theorem unquote_span
    (h : IsSpan first middle last s) :
    unquote s = first ++ '"' :: (halveQuotes middle ++ '"' :: last) := by
  have hinner : (s.drop 1).dropLast
      = doubleQuotes first ++ '"' :: (middle ++ '"' :: doubleQuotes last) := by
    have hsplit : s.drop 1
        = (doubleQuotes first ++ '"' :: (middle ++ '"' :: doubleQuotes last)) ++ ['"'] := by
      rw [h.joined]
      simp [quote]
    rw [hsplit, List.dropLast_concat]
  have hhead : (middle ++ '"' :: doubleQuotes last).head? ≠ some '"' := by
    rw [List.head?_append_of_ne_nil _ h.parted]
    exact h.front
  rw [unquote, hinner, halveQuotes_doubleQuotes_append, halveQuotes_cons_quote hhead,
    halveQuotes_append h.back, halveQuotes_quote_doubleQuotes]

/-- What is read as quoted text starts and ends with a quote. -/
theorem ofText_eq_quoted :
    Argument.ofText s = .ok (.quoted text) ↔ isQuoted s = true ∧ unquote s = text := by
  unfold Argument.ofText
  split
  · next hquoted => simp [hquoted, pure, Except.pure]
  · next hquoted =>
      simp only [hquoted, Bool.false_eq_true, false_and, iff_false]
      cases Number.read? s with
      | error fault => simp [bind, Except.bind]
      | ok number =>
          cases number with
          | some x => simp [bind, Except.bind, pure, Except.pure]
          | none =>
              cases Reference.parse? s with
              | error fault => simp [bind, Except.bind]
              | ok reference =>
                  cases reference with
                  | some r => simp [bind, Except.bind, pure, Except.pure]
                  | none =>
                      simp only [bind, Except.bind, pure, Except.pure]
                      split <;> simp

/-- Every part of a call ends outside quotes. -/
theorem IsPart.closed
    {arguments : List Char}
    (h : IsPart arguments s) :
    outside.behind s = outside := by
  have hcut : ∀ {args : List (List Char)} {condition left right : List Char} {sign : Comparison},
      splitArguments arguments = .ok args → condition ∈ args →
        splitComparison condition = .ok (left, sign, right) →
          outside.behind left = outside ∧ outside.behind right = outside := by
    intro args condition left right sign hargs hcondition hsplit
    have hclosed := (isArgument_of_mem hargs hcondition).balanced.closed
    obtain ⟨front, back, rfl, hfront, rfl, rfl⟩ := exists_of_splitComparison hsplit
    rw [behind_append, hfront, behind_append, behind_sign] at hclosed
    exact ⟨by rw [behind_trim, hfront], by rw [behind_trim, hclosed]⟩
  cases h with
  | argument hargs hpart => exact (isArgument_of_mem hargs hpart).balanced.closed
  | left hargs hcondition hsplit => exact (hcut hargs hcondition hsplit).1
  | right hargs hcondition hsplit => exact (hcut hargs hcondition hsplit).2

end Quotes

section Formulas

variable {s : List Char} {c : Char}

/-- A text that starts with a quote is no call and no label. -/
theorem ofBody_of_quote
    (s : List Char) :
    Shape.ofBody ('"' :: s) = .arithmetic ('"' :: s) := by
  have hlabel : Reference.splitLabel? (Text.trim ('"' :: s)) = none :=
    Reference.splitLabel?_eq_none_of_mem List.mem_cons_self (by decide) (by decide) (by decide)
  unfold Shape.ofBody
  split
  · next shape hshape =>
      obtain ⟨parts, hparts, hshape⟩ := Option.bind_eq_some_iff.1 hshape
      have hnone := ofCall?_eq_none_of_mem hparts List.mem_cons_self (by decide) (by decide)
      cases hnone.symm.trans hshape
  · rw [hlabel]

/-- What is no part of a label is left as it stands. -/
theorem exists_verbatim_of_mem
    (hc : c ∈ s)
    (hletter : Reference.isLabelLetter c = false)
    (hdigit : c.isDigit = false) :
    ∃ text, Segment.verbatim text ∈ segments s ∧ c ∈ text := by
  fun_induction segments s with
  | case1 => cases hc
  | case2 d r hnone ih =>
      rcases List.mem_cons.1 hc with rfl | hc
      · exact ⟨[c], List.mem_cons_self, List.mem_singleton_self c⟩
      · obtain ⟨text, htext, hmem⟩ := ih hc
        exact ⟨text, List.mem_cons_of_mem _ htext, hmem⟩
  | case3 d r hletters letters rest digits hdigits ih =>
      obtain ⟨text, htext, hmem⟩ := ih (mem_dropWhile hletter hc)
      exact ⟨text, List.mem_cons_of_mem _ htext, hmem⟩
  | case4 d r hletters letters rest digits hdigits ih =>
      obtain ⟨text, htext, hmem⟩ := ih (mem_dropWhile hdigit (mem_dropWhile hletter hc))
      exact ⟨text, List.mem_cons_of_mem _ htext, hmem⟩

/-- Arithmetic has no value where a quote stands in it. -/
theorem ensures_arithmetic_of_quote
    (hquote : '"' ∈ s)
    (env : Environment Bounded) :
    Ensures (fun _ => False) (env.arithmetic s) := by
  intro x hx
  obtain ⟨pieces, hpieces, hvalue⟩ := Bounded.bind_eq_ok_iff.1 hx
  obtain ⟨text, htext, hmem⟩ := exists_verbatim_of_mem hquote (by decide) (by decide)
  obtain ⟨i, hi⟩ := List.getElem?_of_mem htext
  obtain ⟨piece, hpiece, hsubstitute⟩ :=
    exists_getElem?_of_forall₂ (Bounded.mapM_eq_ok_iff.1 hpieces) hi
  obtain rfl : text = piece := Except.ok.inj (Option.some.inj hsubstitute)
  have hflat : '"' ∈ pieces.flatten := List.mem_flatten.2 ⟨text, List.mem_of_getElem? hpiece, hmem⟩
  have hunsafe : pieces.flatten.all isArithmeticChar = false :=
    List.all_eq_false.2 ⟨'"', hflat, by decide⟩
  obtain ⟨e, he, -⟩ := Bounded.bind_eq_ok_iff.1 hvalue
  rw [Expression.parse, hunsafe, Bool.not_false, Bool.or_true] at he
  cases he

/-- A formula that starts with a quote has no value. -/
theorem evaluate_of_quote
    (g : Grid) (today : Date) (s : List Char) :
    g.source.evaluate today (String.ofList ('=' :: '"' :: s)) = some (.text errorMarker) := by
  have htrim : Text.trim ('=' :: '"' :: s) = '=' :: '"' :: Text.trimRight s := by
    have hleft : Text.trim ('=' :: '"' :: s) = Text.trimRight ('=' :: '"' :: s) := rfl
    rw [hleft, trimRight_cons (by decide), trimRight_cons (by decide)]
  rcases Source.evaluate_cases (fun r hr => Grid.mem_formulas hr) today
    (String.ofList ('=' :: '"' :: s)) with ⟨bound, hbound⟩ | hmarker
  · rw [Source.recomputeText, evaluateText_eq, String.toList_ofList, htrim, Shape.ofText?,
      ofBody_of_quote] at hbound
    obtain ⟨x, hx, -⟩ := Bounded.bind_eq_ok_iff.1 hbound
    exact (ensures_arithmetic_of_quote List.mem_cons_self _ x hx).elim
  · exact hmarker

end Formulas

/-- A part of a call is read as quoted text if and only if it is a quotation or a span
from one quotation to another.  As a formula neither has a value. -/
theorem ofText_eq_quoted_iff
    {arguments part : List Char}
    (h : IsPart arguments part) :
    (∀ text, Argument.ofText part = .ok (.quoted text) ↔ part = quote text
        ∨ ∃ first middle last, IsSpan first middle last part
          ∧ text = first ++ '"' :: (halveQuotes middle ++ '"' :: last))
      ∧ (part.head? = some '"' → ∀ (g : Grid) (today : Date),
        g.source.evaluate today (String.ofList ('=' :: part)) = some (.text errorMarker)) := by
  constructor
  · intro text
    constructor
    · intro htext
      obtain ⟨hquoted, rfl⟩ := ofText_eq_quoted.1 htext
      have hclosed : (Nesting.outside.behind part).inQuotes = false := by rw [h.closed]; rfl
      rcases quote_or_span hquoted hclosed with ⟨text, rfl⟩ | ⟨first, middle, last, hspan⟩
      · exact .inl (by rw [unquote_quote])
      · exact .inr ⟨first, middle, last, hspan, unquote_span hspan⟩
    · rintro (rfl | ⟨first, middle, last, hspan, rfl⟩)
      · exact Argument.ofText_quote text
      · exact ofText_eq_quoted.2 ⟨isQuoted_span hspan, unquote_span hspan⟩
  · intro hhead g today
    obtain ⟨rest, rfl⟩ := List.head?_eq_some_iff.1 hhead
    exact evaluate_of_quote g today rest

/-- Two quotations with a sign between them. -/
def joinedQuotations : List Char := "\"a\" & \"b\"".toList

theorem isPart_joinedQuotations :
    IsPart joinedQuotations joinedQuotations := by
  have hsplit : splitArguments joinedQuotations = .ok [joinedQuotations] := by decide
  exact .argument hsplit (List.mem_singleton_self _)

theorem isSpan_joinedQuotations :
    IsSpan ['a'] [' ', '&', ' '] ['b'] joinedQuotations :=
  ⟨by decide, by decide, by decide, by decide⟩

/-- The quotes between the quotations become part of the text. -/
theorem ofText_joinedQuotations :
    Argument.ofText joinedQuotations = .ok (.quoted "a\" & \"b".toList) :=
  ((ofText_eq_quoted_iff isPart_joinedQuotations).1 _).2
    (.inr ⟨['a'], [' ', '&', ' '], ['b'], isSpan_joinedQuotations, by decide⟩)

/-- A span is no quotation and no formula with a value, and yet a join of it has one. -/
theorem evaluate_joinedQuotations :
    IsPart joinedQuotations joinedQuotations
      ∧ (¬ ∃ text, joinedQuotations = quote text)
      ∧ (∀ (g : Grid) (today : Date), g.source.evaluate today "=\"a\" & \"b\""
        = some (.text errorMarker))
      ∧ (gridOf (.int 1) []).source.evaluate ⟨2024, 3, 9, by decide⟩ "=CONCAT(\"a\" & \"b\")"
        = some (.text "a\" & \"b") := by
  refine ⟨isPart_joinedQuotations, ?_, fun g today => evaluate_of_quote g today _, ?_⟩
  · rintro ⟨text, htext⟩
    have hunquote : quote (unquote joinedQuotations) = joinedQuotations := by
      rw [htext, unquote_quote]
    exact absurd hunquote (by decide)
  · rw [Source.evaluate, Source.attempt, evaluateText_eq]
    decide +kernel

end Formula
end Spreadsheet
