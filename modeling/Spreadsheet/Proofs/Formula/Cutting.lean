import Spreadsheet.Proofs.Formula.Nesting

/-!
# Cutting at a comparison sign

A condition is cut at its first comparison sign outside quotes and parentheses.  Of the
text before the sign every character is passed, be it because of its nesting or because no
sign starts there.

Results: a text where no sign can start outside is passed as a whole (`cutFrom_append`), a
sign is read unless what follows makes it a longer one (`atFront?_sign`), and what is cut
stands around a sign outside quotes and parentheses (`exists_of_cutFrom`).  A condition is
thus cut at the sign that joins its operands, and without a sign it is refused
(`splitComparison_cuts`).
-/

namespace Spreadsheet
namespace Formula

/-- A comparison sign stands at the front of the text: every sign is one of these marks or
starts with one. -/
def StartsSign (s : List Char) : Prop :=
  ∃ mark ∈ ["<", ">", "=", "!="], mark.toList <+: s

instance (s : List Char) : Decidable (StartsSign s) :=
  inferInstanceAs (Decidable (∃ mark ∈ ["<", ">", "=", "!="], mark.toList <+: s))

namespace Nesting

/-- The scan for a comparison sign from a place with this nesting on. -/
def cutFrom (n : Nesting) (before s : List Char) : Option (List Char × Comparison × List Char) :=
  scanComparison n.depth n.inQuotes before s

/-- From a place on, every comparison sign of the text stands inside quotes or
parentheses. -/
def HidesSigns (n : Nesting) (s : List Char) : Prop :=
  ∀ front rest, s = front ++ rest → n.behind front = outside → ¬ StartsSign rest

end Nesting

/-- Where a sign meets the texts around it, no longer sign is formed. -/
structure IsPlainSeam (left : List Char) (sign : Comparison) (right : List Char) : Prop where
  equal : sign = .equal → left.getLast? ≠ some '!'
  greater : sign = .greater → right.head? ≠ some '='
  less : sign = .less → right.head? ≠ some '=' ∧ right.head? ≠ some '>'

section Lemmas

open Nesting

variable {n : Nesting} {c : Char} {sign : Comparison} {s rest left right : List Char}

/-- The first character of a sign. -/
theorem mem_of_atFront?
    (h : Comparison.atFront? (c :: s) = some (sign, rest)) :
    c = '>' ∨ c = '<' ∨ c = '!' ∨ c = '=' := by
  unfold Comparison.atFront? at h
  split at h <;> simp_all

/-- A sign is read, unless it goes on to a longer one. -/
theorem atFront?_sign
    (hgreater : sign = .greater → rest.head? ≠ some '=')
    (hless : sign = .less → rest.head? ≠ some '=' ∧ rest.head? ≠ some '>') :
    Comparison.atFront? (sign.sign.toList ++ rest) = some (sign, rest) := by
  cases sign with
  | greater =>
      cases rest with
      | nil => rfl
      | cons c rest =>
          have hc : c ≠ '=' := by simpa using hgreater rfl
          simp [Comparison.sign, Comparison.atFront?, hc]
  | less =>
      cases rest with
      | nil => rfl
      | cons c rest =>
          have hc : c ≠ '=' ∧ c ≠ '>' := by simpa using hless rfl
          simp [Comparison.sign, Comparison.atFront?, hc.1, hc.2]
  | _ => rfl

theorem eq_sign_append_of_atFront?
    (h : Comparison.atFront? s = some (sign, rest)) :
    s = sign.sign.toList ++ rest := by
  unfold Comparison.atFront? at h
  split at h <;> simp at h <;> obtain ⟨rfl, rfl⟩ := h <;> rfl

/-- A sign opens nothing and closes nothing. -/
theorem behind_sign
    (n : Nesting) (sign : Comparison) :
    n.behind sign.sign.toList = n := by
  cases sign <;> exact behind_of_plain (by simp [Comparison.sign])

/-- A character where no sign starts outside is passed. -/
theorem cutFrom_cons
    (h : n = outside → Comparison.atFront? (c :: s) = none)
    (before : List Char) :
    n.cutFrom before (c :: s) = (n.after c).cutFrom (c :: before) s := by
  obtain ⟨depth, inQuotes⟩ := n
  by_cases hquote : c = '"'
  · simp [cutFrom, scanComparison, after, hquote]
  by_cases hin : inQuotes = true
  · simp [cutFrom, scanComparison, after, hquote, hin]
  obtain rfl : inQuotes = false := by simpa using hin
  by_cases hopen : c = '('
  · simp [cutFrom, scanComparison, after, hopen]
  by_cases hclose : c = ')'
  · simp [cutFrom, scanComparison, after, hclose]
  by_cases hzero : depth = 0
  · have hnone : Comparison.atFront? (c :: s) = none := h (by rw [hzero]; rfl)
    simp [cutFrom, scanComparison, after, hquote, hopen, hclose, hzero, hnone]
  · simp [cutFrom, scanComparison, after, hquote, hopen, hclose, hzero]

/-- The first sign outside quotes and parentheses is cut at. -/
theorem cutFrom_sign
    (h : Comparison.atFront? s = some (sign, rest))
    (before : List Char) :
    outside.cutFrom before s = some (before.reverse, sign, rest) := by
  cases s with
  | nil => cases h
  | cons c s =>
      have hc := mem_of_atFront? h
      have hplain : c ≠ '"' ∧ c ≠ '(' ∧ c ≠ ')' := by
        rcases hc with rfl | rfl | rfl | rfl <;> decide
      simp [cutFrom, scanComparison, outside, hplain, h]

/-- A text where no sign starts outside quotes and parentheses is passed. -/
theorem cutFrom_append
    {piece : List Char}
    (h : ∀ front rest, piece = front ++ rest → rest ≠ [] → n.behind front = outside →
      Comparison.atFront? (rest ++ s) = none)
    (before : List Char) :
    n.cutFrom before (piece ++ s) = (n.behind piece).cutFrom (piece.reverse ++ before) s := by
  induction piece generalizing n before with
  | nil => rfl
  | cons c piece ih =>
      have hfirst : n = outside → Comparison.atFront? (c :: (piece ++ s)) = none :=
        fun hn => h [] (c :: piece) rfl (List.cons_ne_nil _ _) hn
      rw [List.cons_append, cutFrom_cons hfirst, ih, behind_cons, List.reverse_cons,
        List.append_assoc]
      · rfl
      · rintro front rest rfl hrest hfront
        exact h (c :: front) rest rfl hrest hfront

/-- What is cut stands around a sign outside quotes and parentheses. -/
theorem exists_of_cutFrom
    {before : List Char}
    (h : n.cutFrom before s = some (left, sign, right)) :
    ∃ front, left = before.reverse ++ front ∧ s = front ++ (sign.sign.toList ++ right)
      ∧ n.behind front = outside := by
  induction s generalizing n before with
  | nil => cases h
  | cons c s ih =>
      by_cases hcut : n = outside ∧ Comparison.atFront? (c :: s) ≠ none
      · obtain ⟨rfl, hfront⟩ := hcut
        obtain ⟨⟨found, rest⟩, hfound⟩ := Option.ne_none_iff_exists'.1 hfront
        rw [cutFrom_sign hfound] at h
        obtain ⟨rfl, rfl, rfl⟩ : _ = left ∧ _ = sign ∧ _ = right := by simpa using h
        exact ⟨[], (List.append_nil _).symm, eq_sign_append_of_atFront? hfound, rfl⟩
      · have hnone : n = outside → Comparison.atFront? (c :: s) = none :=
          fun hn => not_not.1 fun hsome => hcut ⟨hn, hsome⟩
        rw [cutFrom_cons hnone] at h
        obtain ⟨front, rfl, rfl, hfront⟩ := ih h
        exact ⟨c :: front, by simp, rfl, hfront⟩

/-- A condition is cut where it should be, if no sign starts in the text before the cut. -/
theorem splitComparison_append
    (hpassed : ∀ front rest, left = front ++ rest → rest ≠ [] → outside.behind front = outside →
      Comparison.atFront? (rest ++ (sign.sign.toList ++ right)) = none)
    (hclosed : outside.behind left = outside)
    (hsign : Comparison.atFront? (sign.sign.toList ++ right) = some (sign, right)) :
    splitComparison (left ++ (sign.sign.toList ++ right))
      = .ok (Text.trim left, sign, Text.trim right) := by
  have hcut : outside.cutFrom [] (left ++ (sign.sign.toList ++ right))
      = some (left, sign, right) := by
    rw [cutFrom_append hpassed, hclosed, cutFrom_sign hsign, List.append_nil,
      List.reverse_reverse]
  have hscan : scanComparison 0 false [] (left ++ (sign.sign.toList ++ right))
      = some (left, sign, right) := hcut
  rw [splitComparison, hscan]

/-- Both operands are cut around a sign outside quotes and parentheses. -/
theorem exists_of_splitComparison
    (h : splitComparison s = .ok (left, sign, right)) :
    ∃ front back, s = front ++ (sign.sign.toList ++ back) ∧ outside.behind front = outside
      ∧ left = Text.trim front ∧ right = Text.trim back := by
  unfold splitComparison at h
  split at h
  · next front found back hscan =>
      obtain ⟨rfl, rfl, rfl⟩ : _ = left ∧ _ = sign ∧ _ = right := by simpa using h
      obtain ⟨_, rfl, rfl, hfront⟩ := exists_of_cutFrom (n := outside) hscan
      exact ⟨_, back, rfl, hfront, rfl, rfl⟩
  · cases h

end Lemmas

section Signs

open Nesting

variable {n : Nesting} {sign : Comparison} {s rest left right : List Char}

theorem hidesSigns_nil :
    n.HidesSigns [] := by
  rintro front rest h -
  obtain ⟨-, rfl⟩ := List.append_eq_nil_iff.1 h.symm
  decide

theorem hidesSigns_cons
    {c : Char} :
    n.HidesSigns (c :: s) ↔
      (n = outside → ¬ StartsSign (c :: s)) ∧ (n.after c).HidesSigns s := by
  constructor
  · intro h
    exact ⟨h [] (c :: s) rfl, fun front rest hs => h (c :: front) rest (by rw [hs]; rfl)⟩
  · rintro ⟨hfirst, hs⟩ front rest h
    cases front with
    | nil =>
        obtain rfl : c :: s = rest := h
        exact hfirst
    | cons d front =>
        obtain ⟨rfl, htail⟩ := List.cons.inj h
        exact hs front rest htail

instance decidableHidesSigns : (n : Nesting) → (s : List Char) → Decidable (n.HidesSigns s)
  | _, [] => isTrue hidesSigns_nil
  | n, c :: s =>
      have := decidableHidesSigns (n.after c) s
      decidable_of_iff _ hidesSigns_cons.symm

instance decidableIsPlainSeam
    (left : List Char) (sign : Comparison) (right : List Char) :
    Decidable (IsPlainSeam left sign right) :=
  decidable_of_iff ((sign = .equal → left.getLast? ≠ some '!')
      ∧ (sign = .greater → right.head? ≠ some '=')
      ∧ (sign = .less → right.head? ≠ some '=' ∧ right.head? ≠ some '>'))
    ⟨fun h => ⟨h.1, h.2.1, h.2.2⟩, fun h => ⟨h.equal, h.greater, h.less⟩⟩

theorem startsSign_sign
    (sign : Comparison) :
    StartsSign sign.sign.toList := by
  cases sign <;> decide

theorem StartsSign.append
    (h : StartsSign s)
    (rest : List Char) :
    StartsSign (s ++ rest) := by
  obtain ⟨mark, hmark, hfront⟩ := h
  exact ⟨mark, hmark, hfront.trans (List.prefix_append _ _)⟩

/-- A sign that is read stands at the front. -/
theorem atFront?_eq_none
    (h : ¬ StartsSign s) :
    Comparison.atFront? s = none := by
  refine Option.eq_none_iff_forall_ne_some.2 fun ⟨found, behind⟩ hfound => h ?_
  rw [eq_sign_append_of_atFront? hfound]
  exact (startsSign_sign found).append behind

/-- A sign that begins in a text without one at its front, and ends behind it, is an
exclamation mark before an equals sign. -/
theorem bang_of_startsSign_append
    (hrest : rest ≠ [])
    (hhides : ¬ StartsSign rest)
    (hsign : StartsSign (rest ++ s)) :
    rest = ['!'] ∧ s.head? = some '=' := by
  obtain ⟨c, more, rfl⟩ := List.exists_cons_of_ne_nil hrest
  obtain ⟨mark, hmark, hprefix⟩ := hsign
  have hlonger : ¬ mark.toList <+: c :: more := fun h => hhides ⟨mark, hmark, h⟩
  have hsingle : ∀ d : Char, ¬ [d] <+: c :: more → ¬ [d] <+: c :: more ++ s := by
    intro d hnot hlong
    obtain ⟨rfl, -⟩ := List.cons_prefix_cons.1 hlong
    exact hnot (List.cons_prefix_cons.2 ⟨rfl, List.nil_prefix⟩)
  simp only [List.mem_cons, List.not_mem_nil, or_false] at hmark
  rcases hmark with rfl | rfl | rfl | rfl
  · exact absurd hprefix (hsingle '<' hlonger)
  · exact absurd hprefix (hsingle '>' hlonger)
  · exact absurd hprefix (hsingle '=' hlonger)
  · obtain ⟨rfl, hequals⟩ := List.cons_prefix_cons.1 hprefix
    cases more with
    | nil =>
        obtain ⟨tail, rfl⟩ := hequals
        exact ⟨rfl, rfl⟩
    | cons d more =>
        obtain ⟨rfl, -⟩ := List.cons_prefix_cons.1 hequals
        exact absurd ⟨more, rfl⟩ hlonger

/-- No sign starts in a text that hides its signs, if the seam behind it is plain. -/
theorem atFront?_of_hidesSigns
    (hhides : outside.HidesSigns left)
    (hseam : IsPlainSeam left sign right)
    {front : List Char}
    (hleft : left = front ++ rest)
    (hrest : rest ≠ [])
    (hfront : outside.behind front = outside) :
    Comparison.atFront? (rest ++ (sign.sign.toList ++ right)) = none := by
  refine atFront?_eq_none fun hstarts => ?_
  obtain ⟨rfl, hequals⟩ :=
    bang_of_startsSign_append hrest (hhides front rest hleft hfront) hstarts
  have hlast : left.getLast? = some '!' := by rw [hleft, List.getLast?_concat]
  have hsign : sign = .equal := by
    cases sign <;> simp_all [Comparison.sign]
  exact hseam.equal hsign hlast

/-- Without a sign outside quotes and parentheses nothing is cut. -/
theorem cutFrom_of_hidesSigns
    (h : n.HidesSigns s)
    (before : List Char) :
    n.cutFrom before s = none := by
  induction s generalizing n before with
  | nil => rfl
  | cons c s ih =>
      obtain ⟨hfirst, hs⟩ := hidesSigns_cons.1 h
      rw [cutFrom_cons fun hn => atFront?_eq_none (hfirst hn)]
      exact ih hs _

/-- A condition is cut at the sign that joins its operands: the left one is balanced and
hides every sign of its own, the right one is any text, and where they meet no longer sign
is formed.  A text that hides every sign is refused, balanced or not. -/
theorem splitComparison_cuts :
    (∀ (left right : List Char) (sign : Comparison), IsBalanced left →
        outside.HidesSigns left → IsPlainSeam left sign right →
        splitComparison (left ++ (sign.sign.toList ++ right))
          = .ok (Text.trim left, sign, Text.trim right))
      ∧ ∀ s : List Char, outside.HidesSigns s →
        splitComparison s = .error (.missingComparison (String.ofList s)) := by
  constructor
  · intro left right sign hbalanced hhides hseam
    refine splitComparison_append (fun front rest hleft hrest hfront => ?_) hbalanced.closed
      (atFront?_sign hseam.greater hseam.less)
    exact atFront?_of_hidesSigns hhides hseam hleft hrest hfront
  · intro s hhides
    have hscan : scanComparison 0 false [] s = none := cutFrom_of_hidesSigns hhides []
    rw [splitComparison, hscan]

/-- Signs inside quotes and calls, an exclamation mark before the sign, and signs in the
right operand. -/
theorem splitComparison_cuts_protected :
    splitComparison " IF(A1>=1,\"<>\",B1)!<>\"=\"=2 ".toList
        = .ok ("IF(A1>=1,\"<>\",B1)!".toList, .unequal, "\"=\"=2".toList)
      ∧ splitComparison "(A1=1)!".toList = .error (.missingComparison "(A1=1)!") :=
  ⟨splitComparison_cuts.1 " IF(A1>=1,\"<>\",B1)!".toList "\"=\"=2 ".toList .unequal
    (by decide) (by decide) (by decide),
    splitComparison_cuts.2 "(A1=1)!".toList (by decide)⟩

end Signs

end Formula
end Spreadsheet
