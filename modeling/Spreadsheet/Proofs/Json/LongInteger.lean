import Spreadsheet.Proofs.Json.Scanning
import Spreadsheet.Proofs.Json.Spelling
import Spreadsheet.Proofs.Json.Step

/-!
# Integers of too many digits

An integer of too many digits is not converted.  It ends the reading of a structured value
as soon as the reading gets to it, whatever stands behind it, and that is no malformed
value: what was read before could still have been completed.

Results: reading ends so exactly where it gets to such an integer
(`parse_eq_tooManyDigits_iff`), and it is one only of as many digits in a row of the text
(`hasTooManyDigits_of_mem_tokens`).
-/

namespace Spreadsheet
namespace Json

open Numeral

/-- Reading gets to an integer of too many digits: with another value in its place, what
stands before it begins a structured value. -/
def MeetsLongInteger (ts : List Token) : Prop :=
  ∃ before after, ts = before ++ .tooLong :: after
    ∧ ∃ back value, readFrom [] .value (before ++ .null :: back) = .ok value

/-- So many digits stand in a row that no integer is made of them. -/
def HasTooManyDigits (s : List Char) : Prop :=
  ∃ digits, digits <:+: s ∧ (∀ c ∈ digits, c.isDigit = true) ∧ digitLimit < digits.length

section Reading

variable {stack : List Opened} {expected : Expected}

theorem takesValue_of_readFrom_null
    {back : List Token} {value : Json}
    (h : readFrom stack expected (.null :: back) = .ok value) :
    expected.TakesValue := by
  rcases step_or_error stack expected .null with ⟨stack', expected', hstep⟩
    | ⟨-, hvalue⟩ | herror
  · cases hstep with
    | single hvalue => exact hvalue
  · exact hvalue
  · cases (herror back).symm.trans h

/-- Reading ends at an integer of too many digits exactly where it gets to one. -/
theorem readFrom_eq_tooManyDigits_iff
    {ts : List Token} :
    readFrom stack expected ts = .error .tooManyDigits
      ↔ ∃ before after, ts = before ++ .tooLong :: after
        ∧ ∃ back value, readFrom stack expected (before ++ .null :: back) = .ok value := by
  -- By induction on the tokens from any state, since a step leads to another one: the token
  -- makes a step, or is the integer itself, or ends the reading for another reason.
  induction ts generalizing stack expected with
  | nil =>
      constructor
      · intro h
        unfold readFrom at h
        split at h
        · split at h <;> cases h
        · cases h
        · rename_i hnil
          cases hnil
      · rintro ⟨before, after, hnil, -⟩
        cases before <;> cases hnil
  | cons token rest ih =>
      rcases step_or_error stack expected token with ⟨stack', expected', hstep⟩
        | ⟨rfl, hvalue⟩ | herror
      · rw [hstep.readFrom_cons, ih]
        constructor
        · rintro ⟨before, after, rfl, back, value, h⟩
          exact ⟨token :: before, after, rfl, back, value, (hstep.readFrom_cons _).trans h⟩
        · rintro ⟨before, after, hcons, back, value, h⟩
          cases before with
          | nil =>
              -- An integer of too many digits makes no step.
              obtain ⟨rfl, rfl⟩ := List.cons.inj hcons
              cases hstep with
              | single _ hdone => cases hdone
          | cons first before =>
              obtain ⟨rfl, rfl⟩ := List.cons.inj hcons
              exact ⟨before, after, rfl, back, value, (hstep.readFrom_cons _).symm.trans h⟩
      · refine iff_of_true (readFrom_tooLong hvalue rest) ?_
        obtain ⟨back, value, hback⟩ := exists_closing stack .null
        have hnull : Step stack expected .null stack (.separator .null) := .single hvalue rfl
        exact ⟨[], rest, rfl, back, value, (hnull.readFrom_cons back).trans hback⟩
      · refine iff_of_false (by rw [herror]; simp) ?_
        rintro ⟨before, after, hcons, back, value, h⟩
        cases before with
        | nil =>
            obtain ⟨rfl, rfl⟩ := List.cons.inj hcons
            have hvalue := takesValue_of_readFrom_null h
            cases (herror rest).symm.trans (readFrom_tooLong hvalue rest)
        | cons first before =>
            obtain ⟨rfl, rfl⟩ := List.cons.inj hcons
            cases (herror _).symm.trans h

/-- Reading a text ends at an integer of too many digits exactly where it gets to one. -/
theorem parse_eq_tooManyDigits_iff
    {s : String} :
    parse s = .error .tooManyDigits ↔ MeetsLongInteger (tokens s.toList) :=
  readFrom_eq_tooManyDigits_iff

end Reading

section Digits

theorem digitLimit_lt_of_numberToken
    {n : Numeral}
    (h : numberToken n = .tooLong) :
    digitLimit < n.whole.length := by
  unfold numberToken at h
  split at h
  · split at h
    · cases h
    · next hfault =>
        unfold integer at hfault
        split at hfault
        · assumption
        · cases hfault
  · cases h

/-- An integer of too many digits is a token only of a text with as many in a row. -/
theorem hasTooManyDigits_of_mem_tokens
    {s : List Char}
    (h : .tooLong ∈ tokens s) :
    HasTooManyDigits s := by
  obtain ⟨n, htoken, hwhole, hdigit⟩ := isWrittenIn_of_mem_tokens h trivial
  exact ⟨n.whole, hwhole, hdigit, digitLimit_lt_of_numberToken htoken.symm⟩

/-- Too many digits, and nothing else, are one integer of too many digits. -/
theorem tokens_of_tooManyDigits
    {digits : List Char}
    (hdigits : IsDigits digits)
    (hfirst : digits.head? ≠ some '0')
    (hlong : digitLimit < digits.length) :
    tokens digits = [.tooLong] := by
  have hplain : IsPlain ⟨false, digits, none, none⟩ :=
    ⟨hdigits, .inr hfirst, fun _ h => (by cases h), fun _ _ h => (by cases h)⟩
  have hscan := scanToken_text hplain endsNumber_nil
  have htext : Binary64.signText false ++ Numeral.text ⟨false, digits, none, none⟩ ++ []
      = digits ++ [] := by
    simp [Binary64.signText, Numeral.text]
  have hnumber : numberToken ⟨false, digits, none, none⟩ = .tooLong := by
    simp [numberToken, integer, hlong]
  rw [htext, hnumber] at hscan
  obtain ⟨c, s, rfl⟩ := List.exists_cons_of_ne_nil hdigits.1
  have hgap : isGap c = false := by
    cases hc : isGap c with
    | false => rfl
    | true =>
        rw [List.cons_append, scanToken_gap hc] at hscan
        cases hscan
  have htokens := tokens_scanToken hgap hscan
  rwa [List.append_nil, tokens] at htokens

end Digits

end Json
end Spreadsheet
