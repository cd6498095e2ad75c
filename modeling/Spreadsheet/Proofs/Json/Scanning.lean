import Mathlib.Data.List.Infix
import Spreadsheet.Json.Token

/-!
# What scanning takes from a text

Scanning a token takes it from the front of a text and leaves the end of it.  A token that
is an integer is written there in digits, whether these are too many or not.

Results: scanning leaves an end of the text (`scanToken_suffix`), and every integer among
the tokens of a text is written in it (`isWrittenIn_of_mem_tokens`).
-/

namespace Spreadsheet
namespace Json

/-- The token is an integer, of too many digits or not. -/
def Token.IsInteger : Token → Prop
  | .number (.int _) | .tooLong => True
  | _ => False

/-- The token is a number whose digits stand in the text. -/
def Token.IsWrittenIn (s : List Char) (token : Token) : Prop :=
  ∃ n : Numeral, token = numberToken n ∧ n.whole <:+: s ∧ ∀ c ∈ n.whole, c.isDigit = true

section Lemmas

variable {s rest : List Char} {token : Token}

theorem Token.IsWrittenIn.mono
    {s' : List Char}
    (h : token.IsWrittenIn s)
    (hpart : s <:+: s') :
    token.IsWrittenIn s' := by
  obtain ⟨n, htoken, hwhole, hdigit⟩ := h
  exact ⟨n, htoken, hwhole.trans hpart, hdigit⟩

theorem scanText_suffix
    {done text : List Char}
    (h : scanText done s = some (text, rest)) :
    rest <:+ s := by
  fun_induction scanText done s with
  | case1 | case3 | case6 | case8 | case10 | case11 => cases h
  | case2 done s =>
      obtain ⟨-, rfl⟩ := Prod.mk.inj (Option.some.inj h)
      exact List.suffix_cons _ _
  | case5 done a b c d e f g t s _ _ _ _ _ ih =>
      exact (ih h).trans (List.suffix_append ['\\', 'u', a, b, c, d] _)
  | case4 | case7 | case9 | case12 =>
      rename_i ih
      simp only [List.suffix_cons_iff, ih h, or_true]

/-- The digits of a whole number stand at the front of the text. -/
theorem eq_append_of_scanWhole?
    {whole : List Char}
    (h : scanWhole? s = some (whole, rest)) :
    s = whole ++ rest ∧ ∀ c ∈ whole, c.isDigit = true := by
  unfold scanWhole? at h
  split at h
  · obtain ⟨rfl, rfl⟩ := Prod.mk.inj (Option.some.inj h)
    exact ⟨rfl, by simp⟩
  · next c s _ =>
      split at h
      · next hc =>
          obtain ⟨rfl, rfl⟩ := Prod.mk.inj (Option.some.inj h)
          refine ⟨by simp, fun d hd => ?_⟩
          rcases List.mem_cons.1 hd with rfl | hd
          · exact hc
          · exact List.all_eq_true.1 List.all_takeWhile d hd
      · cases h
  · cases h

theorem scanFraction_suffix
    (s : List Char) :
    (scanFraction s).2 <:+ s := by
  unfold scanFraction
  split
  · next c s =>
      split
      · exact (List.dropWhile_suffix _).trans (List.suffix_append ['.', c] s)
      · exact List.suffix_rfl
  · exact List.suffix_rfl

theorem scanSign_suffix
    (s : List Char) :
    (Numeral.scanSign s).2 <:+ s := by
  unfold Numeral.scanSign
  split
  · exact List.suffix_cons _ _
  · exact List.suffix_cons _ _
  · exact List.suffix_rfl

theorem scanPower_suffix
    (s : List Char) :
    (scanPower s).2 <:+ s := by
  have hdigits : ∀ t, (Numeral.scanSign t).2.dropWhile Char.isDigit <:+ t :=
    fun t => (List.dropWhile_suffix _).trans (scanSign_suffix t)
  unfold scanPower
  split
  case h_3 => exact List.suffix_rfl
  all_goals
    next t =>
      simp only
      split
      · exact List.suffix_rfl
      · exact (hdigits t).trans (List.suffix_cons _ t)

/-- A number is scanned from its digits on, and leaves an end of the text. -/
theorem scanNumber?_eq_some
    {negative : Bool}
    (h : scanNumber? negative s = some (token, rest)) :
    token.IsWrittenIn s ∧ rest <:+ s := by
  unfold scanNumber? at h
  split at h
  · cases h
  · next whole more hwhole =>
      obtain ⟨rfl, hdigit⟩ := eq_append_of_scanWhole? hwhole
      obtain ⟨rfl, rfl⟩ := Prod.mk.inj (Option.some.inj h)
      refine ⟨⟨_, rfl, (List.prefix_append whole more).isInfix, hdigit⟩, ?_⟩
      exact ((scanPower_suffix _).trans (scanFraction_suffix _)).trans
        (List.suffix_append whole more)

/-- Scanning leaves an end of the text. -/
theorem scanToken_suffix
    (s : List Char) :
    (scanToken s).2 <:+ s := by
  have hnumber : ∀ negative s, ((scanNumber? negative s).getD (.stray, [])).2 <:+ s := by
    intro negative s
    cases h : scanNumber? negative s with
    | none => exact List.nil_suffix
    | some scanned => exact (scanNumber?_eq_some h).2
  unfold scanToken
  split
  case h_1 =>
      split
      · next htext => exact (scanText_suffix htext).trans (List.suffix_cons _ _)
      · exact List.nil_suffix
  case h_14 => exact (hnumber _ _).trans (List.suffix_cons _ _)
  case h_15 => exact hnumber _ _
  all_goals simp only [List.suffix_cons_iff, List.suffix_rfl, or_true]

/-- An integer at the front of a text is written there. -/
theorem isWrittenIn_of_scanToken
    (h : (scanToken s).1.IsInteger) :
    (scanToken s).1.IsWrittenIn s := by
  have hnumber : ∀ negative s, ((scanNumber? negative s).getD (.stray, [])).1.IsInteger →
      ((scanNumber? negative s).getD (.stray, [])).1.IsWrittenIn s := by
    intro negative s h
    cases hscan : scanNumber? negative s with
    | none =>
        rw [hscan] at h
        cases h
    | some scanned => exact (scanNumber?_eq_some hscan).1
  unfold scanToken at h ⊢
  split at h
  case h_1 => split at h <;> cases h
  case h_14 => exact (hnumber _ _ h).mono (List.suffix_cons _ _).isInfix
  case h_15 => exact hnumber _ _ h
  all_goals cases h

/-- Every integer among the tokens of a text is written in it. -/
theorem isWrittenIn_of_mem_tokens
    (h : token ∈ tokens s)
    (hinteger : token.IsInteger) :
    token.IsWrittenIn s := by
  fun_induction tokens s with
  | case1 => cases h
  | case2 c r hgap ih => exact (ih h).mono (List.suffix_cons c r).isInfix
  | case3 c r hgap first rest hscan hlength ih =>
      rcases List.mem_cons.1 h with rfl | h
      · have hfirst : (scanToken (c :: r)).1 = token := by rw [hscan]
        subst hfirst
        exact isWrittenIn_of_scanToken hinteger
      · have hrest := scanToken_suffix (c :: r)
        rw [hscan] at hrest
        exact (ih h).mono hrest.isInfix
  | case4 c r hgap first rest hscan hlength =>
      rw [List.mem_singleton.1 h] at hinteger
      cases hinteger

end Lemmas

end Json
end Spreadsheet
