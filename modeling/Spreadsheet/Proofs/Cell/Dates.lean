import Spreadsheet.Display
import Spreadsheet.Proofs.Cell.Typing
import Spreadsheet.Proofs.Formula.Quotation

/-!
# Dates that are typed again

A cell that holds a date shows it month first, and the formula of the current day returns it in
the same form.  Typed into a cell, that text is no checkbox, formula, amount or number, so it is
a date again if it is read as one: as the same day if its year has four digits, and else as a
day of another century or as mere words.

Results: the cell of a date that is typed again (`Cell.ofInput?_format`), and that it is of the
same day exactly if the year has four digits (`Cell.shown_dates_retype`).
-/

namespace Spreadsheet

namespace Cell

/-- The cell holds a text that is the date. -/
def IsDateOf (d : Date) (c : Cell) : Prop :=
  ∃ words format, c = .plain (.text words) .date format ∧ Date.parse? words.toList = some d

section Lemmas

variable {d : Date} {c : Cell}

/-- A date is no formula. -/
theorem source?_of_isDateOf
    (h : c.IsDateOf d) :
    c.source? = none := by
  obtain ⟨words, format, rfl, hparse⟩ := h
  obtain ⟨first, rest, htrim, hne⟩ := Date.exists_cons_of_parse? hparse
  obtain ⟨before, after, hblank, -, hwords⟩ := Text.exists_append_trim words.toList
  rw [source?, if_neg]
  intro hfront
  rw [String.front?_eq, hwords, htrim] at hfront
  cases before with
  | nil =>
      exact hne (Option.some.inj hfront)
  | cons c before =>
      obtain rfl := Option.some.inj hfront
      exact absurd (hblank '=' List.mem_cons_self) (by decide)

theorem display_of_isDateOf
    (h : c.IsDateOf d)
    (src : Formula.Source) (today : Date) (symbol : Option String) :
    c.display src today symbol = .ok d.format := by
  have hsource := source?_of_isDateOf h
  obtain ⟨words, format, rfl, hparse⟩ := h
  unfold display
  rw [hsource]
  simp only [displayPlain, hparse]
  rfl

/-- A written date is typed as a date or as words. -/
theorem ofInput?_format
    (d : Date) :
    ofInput? d.format = .ok (some (.plain (.text d.format)
      (if (Date.parse? d.format.toList).isSome then .date else .text) none)) := by
  obtain ⟨first, rest, hformat, hdigit⟩ := Date.exists_cons_format d
  have hslash : '/' ∈ d.format.toList := by simp [Date.toList_format]
  have hread := Entry.read?_of_not_isNumeralMark hslash (by decide)
  have hwords : Entry.ofText d.format = .ok (Entry.ofWords d.format d.format.toList) := by
    have htrim := (Date.trim_format d).trans hformat
    rw [Entry.ofText_of_number htrim (.inl hdigit), ← hformat, bind_of_eq_ok hread,
      Option.elim_none]
    rfl
  rw [ofInput?, bind_of_eq_ok hwords, Entry.ofWords, String.ofList_toList]
  split
  · rfl
  · rfl

theorem exists_isDateOf_iff
    (d : Date) :
    (∃ c, ofInput? d.format = .ok (some c) ∧ c.IsDateOf d) ↔ 1000 ≤ d.year := by
  rw [← Date.parse?_format_eq_some_iff, ofInput?_format]
  constructor
  · rintro ⟨c, hc, words, format, rfl, hparse⟩
    obtain ⟨hsame, -, -⟩ := Cell.plain.inj (Option.some.inj (Except.ok.inj hc))
    rwa [Scalar.text.inj hsame]
  · intro hparse
    refine ⟨_, rfl, d.format, none, ?_, hparse⟩
    rw [hparse]
    rfl

/-- The formula of the current day returns the day as it is written. -/
theorem evaluate_of_today
    {formula : String}
    (h : Formula.Shape.ofText? (Text.trim formula.toList) = some .today)
    (src : Formula.Source) (today : Date) :
    src.evaluate today formula = some (.text today.format) := by
  refine Formula.Source.evaluate_of_pure ?_
  rw [Formula.evaluateText_eq, h]
  rfl

/-- What a cell of a date shows, and what the formula of the day returns, is the written date.
It is read as the same day, and typed as a date of that day, exactly if the year has four
digits. -/
theorem shown_dates_retype
    (d : Date) :
    (∀ c : Cell, c.IsDateOf d → ∀ (src : Formula.Source) (today : Date) (symbol : Option String),
        c.display src today symbol = .ok d.format)
      ∧ (∀ (src : Formula.Source) (formula : String),
        Formula.Shape.ofText? (Text.trim formula.toList) = some .today →
        src.evaluate d formula = some (.text d.format))
      ∧ (Date.parse? d.format.toList = some d ↔ 1000 ≤ d.year)
      ∧ ((∃ c, ofInput? d.format = .ok (some c) ∧ c.IsDateOf d) ↔ 1000 ≤ d.year) :=
  ⟨fun _ hc => display_of_isDateOf hc, fun src _ hformula => evaluate_of_today hformula src d,
    Date.parse?_format_eq_some_iff d, exists_isDateOf_iff d⟩

/-- A leap day typed with a year of two digits is shown with all four, and typed again as such. -/
theorem shown_dates_retype_leapDay :
    ∃ d : Date, (d.year, d.month, d.day) = (2024, 2, 29)
      ∧ (Cell.plain (.text " 02/29/24") .date none).IsDateOf d
      ∧ (Cell.plain (.text " 02/29/24") .date none).display
          ⟨.int 1, 0, fun _ => none, []⟩ d none = .ok "2/29/2024"
      ∧ Formula.Shape.ofText? (Text.trim "=TODAY( )".toList) = some .today
      ∧ (⟨.int 1, 0, fun _ => none, []⟩ : Formula.Source).evaluate d "=TODAY( )"
          = some (.text "2/29/2024")
      ∧ ∃ c, ofInput? "2/29/2024" = .ok (some c) ∧ c.IsDateOf d := by
  obtain ⟨hdisplay, hformula, -, hretypes⟩ := shown_dates_retype ⟨2024, 2, 29, by decide⟩
  have hdate : (Cell.plain (.text " 02/29/24") .date none).IsDateOf ⟨2024, 2, 29, by decide⟩ :=
    ⟨_, _, rfl, by decide⟩
  have htoday : Formula.Shape.ofText? (Text.trim "=TODAY( )".toList) = some .today := by decide
  exact ⟨⟨2024, 2, 29, by decide⟩, rfl, hdate, hdisplay _ hdate _ _ _, htoday,
    hformula _ _ htoday, hretypes.2 (by decide)⟩

/-- Not every date that is read is read again as the same day: the year 99 becomes 1999. -/
theorem not_parse?_format_of_year99 :
    ¬ ∀ (text : String) (d : Date), Date.parse? text.toList = some d →
      Date.parse? d.format.toList = some d := by
  intro hclaim
  have hread : Date.parse? "0099-01-02".toList = some ⟨99, 1, 2, by decide⟩ := by decide
  have hyear := (Date.parse?_format_eq_some_iff _).1 (hclaim _ _ hread)
  exact absurd hyear (by decide)

end Lemmas

end Cell
end Spreadsheet
