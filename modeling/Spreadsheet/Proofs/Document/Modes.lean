import Spreadsheet.Document.Opening
import Spreadsheet.Proofs.Json.LongInteger

/-!
# Strict and lenient opening

A text is opened strictly, and then a malformed document is an error, or leniently, and then
the initial document and a warning stand in for it.  Apart from that report the two agree,
unless reading gets to an integer of too many digits: such a text counts as no malformed
document and cannot be opened at all.

Result: strict and lenient opening agree on every text but those (`modesAgree_iff`).
-/

namespace Spreadsheet
namespace Document

/-- The event warns of a malformed document. -/
def WarnsOfDocument (e : Event) : Prop := e.level = .warning ∧ e.kind = .documentInvalid

/-- Opening strictly finds the document malformed. -/
def IsRefused (source : Json) (text : String) : Prop :=
  ∃ cause, openText true source text = .error (.document cause)

/-- Lenient opening gives a document.  Strict opening gives the same one or finds it
malformed, the latter where the lenient one warns of that and gives the initial document. -/
def ModesAgree (source : Json) (text : String) : Prop :=
  ∃ d events, openText false source text = .ok (d, events)
    ∧ (openText true source text = .ok (d, []) ∨ IsRefused source text)
    ∧ (IsRefused source text ↔ (∃ e ∈ events, WarnsOfDocument e) ∧ d = initial)

section Lemmas

variable {source : Json} {text : String}

/-- A text stores a document, or a malformed one, or is not read for an integer of too many
digits. -/
theorem parse_cases
    (text : String) :
    (∃ d, parse text = .ok d) ∨ (∃ cause, parse text = .error (.document cause))
      ∨ parse text = .error .tooManyDigits := by
  unfold parse
  split
  · unfold ofRecord
    simp only
    split
    · exact .inl ⟨_, rfl⟩
    · exact .inr (.inl ⟨_, rfl⟩)
  · exact .inr (.inl ⟨_, rfl⟩)
  · exact .inr (.inr rfl)

theorem parse_eq_tooManyDigits_iff :
    parse text = .error .tooManyDigits ↔ Json.MeetsLongInteger (Json.tokens text.toList) := by
  rw [← Json.parse_eq_tooManyDigits_iff]
  unfold parse
  split
  · next hread =>
      simp only [hread, reduceCtorEq, iff_false]
      unfold ofRecord
      simp only
      split <;> simp
  · next hread => simp [hread]
  · next hread => simp [hread]

/-- A malformed document is reported in either mode. -/
theorem openText_of_cause
    {cause : DocumentFault}
    (h : parse text = .error (.document cause))
    (source : Json) :
    openText false source text = .ok (initial, [cause.warning source])
      ∧ openText true source text = .error (.document cause) := by
  constructor
  · simp [openText, readLenient_of_error h, bind, Except.bind, pure, Except.pure]
  · rw [openText_strict, h]
    rfl

/-- An integer of too many digits is an error in either mode. -/
theorem openText_of_tooManyDigits
    (h : parse text = .error .tooManyDigits)
    (strict : Bool) (source : Json) :
    openText strict source text = .error .tooManyDigits := by
  cases strict <;> simp [openText, readLenient, h, bind, Except.bind]

theorem modesAgree_of_parse
    {d : Document}
    (h : parse text = .ok d)
    (source : Json) :
    ModesAgree source text := by
  have hstrict := openText_of_parse true source h
  refine ⟨d, [], openText_of_parse false source h, .inl hstrict, ?_⟩
  constructor
  · rintro ⟨cause, hcause⟩
    cases hstrict.symm.trans hcause
  · rintro ⟨⟨e, he, -⟩, -⟩
    cases he

theorem modesAgree_of_cause
    {cause : DocumentFault}
    (h : parse text = .error (.document cause))
    (source : Json) :
    ModesAgree source text := by
  obtain ⟨hlenient, hstrict⟩ := openText_of_cause h source
  refine ⟨initial, _, hlenient, .inr ⟨cause, hstrict⟩, ?_⟩
  exact iff_of_true ⟨cause, hstrict⟩ ⟨⟨_, List.mem_singleton_self _, rfl, rfl⟩, rfl⟩

theorem not_modesAgree
    (h : parse text = .error .tooManyDigits) :
    ¬ ModesAgree source text := by
  rintro ⟨d, events, hlenient, -⟩
  cases (openText_of_tooManyDigits h false source).symm.trans hlenient

/-- Strict and lenient opening agree on every text but those whose reading gets to an integer
of too many digits, which are an error in either mode. -/
theorem modesAgree_iff
    (source : Json) (text : String) :
    (ModesAgree source text ↔ ¬ Json.MeetsLongInteger (Json.tokens text.toList))
      ∧ (Json.MeetsLongInteger (Json.tokens text.toList)
        ↔ Json.HasTooManyDigits text.toList
          ∧ ∀ strict, openText strict source text = .error .tooManyDigits) := by
  rw [← parse_eq_tooManyDigits_iff]
  rcases parse_cases text with ⟨d, h⟩ | ⟨cause, h⟩ | h
  · have hagree := modesAgree_of_parse h source
    have hne : ¬ parse text = .error .tooManyDigits := by simp [h]
    refine ⟨iff_of_true hagree hne, iff_of_false hne ?_⟩
    rintro ⟨-, herror⟩
    cases (openText_of_parse true source h).symm.trans (herror true)
  · have hagree := modesAgree_of_cause h source
    have hne : ¬ parse text = .error .tooManyDigits := by simp [h]
    refine ⟨iff_of_true hagree hne, iff_of_false hne ?_⟩
    rintro ⟨-, herror⟩
    cases (openText_of_cause h source).2.symm.trans (herror true)
  · refine ⟨iff_of_false (not_modesAgree h) (not_not_intro h), iff_of_true h ⟨?_, ?_⟩⟩
    · obtain ⟨before, after, htokens, -⟩ := parse_eq_tooManyDigits_iff.1 h
      refine Json.hasTooManyDigits_of_mem_tokens ?_
      rw [htokens]
      exact List.mem_append_right _ List.mem_cons_self
    · exact fun strict => openText_of_tooManyDigits h strict source

end Lemmas

/-- A text that is an integer of one digit too many. -/
def longInteger : String := String.ofList (List.replicate (digitLimit + 1) '1')

/-- Neither mode reports such an integer as a malformed document. -/
theorem not_modesAgree_longInteger :
    longInteger.toList.length = 4301
      ∧ openText false .null longInteger = .error .tooManyDigits
      ∧ openText true .null longInteger = .error .tooManyDigits
      ∧ ¬ ModesAgree .null longInteger := by
  have hlist : longInteger.toList = List.replicate (digitLimit + 1) '1' := String.toList_ofList
  have htokens : Json.tokens longInteger.toList = [.tooLong] := by
    rw [hlist]
    refine Json.tokens_of_tooManyDigits ⟨by simp, ?_⟩ ?_ ?_
    · intro c hc
      rw [List.eq_of_mem_replicate hc]
      rfl
    · rw [List.replicate_succ, List.head?_cons]
      decide
    · rw [List.length_replicate]
      exact Nat.lt_succ_self _
  have hparse : parse longInteger = .error .tooManyDigits := by
    rw [parse_eq_tooManyDigits_iff, htokens]
    exact ⟨[], [], rfl, [], .null, by simp [Json.readFrom, Json.Token.value?]⟩
  refine ⟨by rw [hlist, List.length_replicate]; rfl, ?_, ?_, not_modesAgree hparse⟩
  · exact openText_of_tooManyDigits hparse false .null
  · exact openText_of_tooManyDigits hparse true .null

end Document
end Spreadsheet
