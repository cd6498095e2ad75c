import Spreadsheet.Display
import Spreadsheet.Grid.Export
import Spreadsheet.Proofs.Binary64.Interval
import Spreadsheet.Proofs.Except
import Spreadsheet.Proofs.Number.Digits

/-!
# Texts of typed cells

A number has a text in each of its forms, unless it is an integer of too many
digits.  Such an integer cannot be typed in, since it could not be read; a
formula that was typed in may compute one.

Results: what a number needs to have a plain and a grouped text
(`exists_plain_iff`, `exists_grouped_iff`), what is typed is one of a few kinds
of cells (`isTyped_of_ofInput?`), and such a cell can be shown, exported and
edited if what its formula computes has a text (`IsTyped.exists_display_iff`,
`IsTyped.exists_exportText_iff`, `IsTyped.exists_inputText`).
-/

namespace Spreadsheet

/-- The number can be written out, as all can but integers of too many digits. -/
def Number.HasText : Number → Prop
  | .int i => IsWritable i
  | .float _ => True

/-- The scalar can be written out. -/
def Scalar.HasText : Scalar → Prop
  | .number x => x.HasText
  | _ => True

/-- The cell is one of those that typed texts store. -/
inductive Cell.IsTyped : Cell → Prop
  | formula
      (source : String) (h : source ≠ "") :
      IsTyped (.formula source h none)
  | checkbox
      (checked : Bool) :
      IsTyped (.plain (.bool checked) .checkbox none)
  | amount
      (x : Binary64) (format : Option String) :
      IsTyped (.plain (.number (.float x)) .currency format)
  | number
      {x : Number}
      (hx : x.HasText) :
      IsTyped (.plain (.number x) .number none)
  | words
      (text : String) (kind : Kind) :
      IsTyped (.plain (.text text) kind none)

/-- What the formula of the cell computes can be written out, if it has one. -/
def Cell.ComputesText (src : Formula.Source) (today : Date) (c : Cell) : Prop :=
  ∀ formula ∈ c.source?, ∀ value ∈ src.evaluate today formula, value.HasText

section Lemmas

namespace Number

/-- A whole number in the binary format is far from having too many digits. -/
theorem isWritable_of_toInt?
    {x : Binary64} {i : Int}
    (h : x.toInt? = some i) :
    IsWritable i := by
  cases x with
  | nan => simp [Binary64.toInt?] at h
  | infinite negative => simp [Binary64.toInt?] at h
  | finite negative units fits =>
      simp only [Binary64.toInt?, Option.ite_none_right_eq_some, Option.some.injEq] at h
      refine isWritable_of_lt_pow 309 (by decide) ?_
      rw [← h.2, Binary64.natAbs_signedUnits, Nat.div_lt_iff_lt_mul Binary64.unitsPerOne_pos]
      exact Nat.lt_of_lt_of_le fits.1 Binary64.limit_le

theorem exists_plain_iff
    (x : Number) :
    (∃ text, x.plain = .ok text) ↔ x.HasText := by
  cases x with
  | int i =>
      rw [plain, integerText, HasText]
      split <;> simp [*]
  | float x =>
      rw [plain, HasText]
      split <;> simp

theorem exists_grouped_iff
    (x : Number) :
    (∃ text, x.grouped = .ok text) ↔ x.HasText := by
  cases x with
  | int i =>
      rw [grouped, groupedInteger, HasText]
      split <;> simp [*]
  | float x =>
      rw [grouped, HasText]
      cases hx : x.toInt? with
      | none => simp
      | some i => simp [groupedInteger, isWritable_of_toInt? hx]

/-- An amount in the binary format has a text whatever its size. -/
theorem exists_currency
    (symbol : String) (x : Binary64) :
    ∃ text, currency symbol (.float x) = .ok text :=
  ⟨_, rfl⟩

/-- An integer of digits that can be read can be written. -/
theorem isWritable_of_integer
    {negative : Bool} {digits : List Char} {i : Int}
    (h : Numeral.integer negative digits = .ok i) :
    IsWritable i := by
  unfold Numeral.integer at h
  split at h
  · simp at h
  · next hlength =>
      have habs : i.natAbs = Text.decimalNat digits := by
        rw [← Except.ok.inj h]
        split <;> simp
      refine isWritable_of_lt_pow digits.length (Nat.not_lt.1 hlength) ?_
      rw [habs]
      exact Text.decimalNat_lt digits

theorem hasText_of_value?
    {n : Numeral} {x : Number}
    (h : n.value? = .ok (some x)) :
    x.HasText := by
  unfold Numeral.value? at h
  split at h
  · obtain ⟨i, hi, h⟩ := bind_eq_ok_iff.1 h
    obtain rfl := Option.some.inj (Except.ok.inj h)
    exact isWritable_of_integer hi
  · have hx := Except.ok.inj h
    split at hx
    · obtain rfl := Option.some.inj hx
      trivial
    · simp at hx

/-- What is read can be written. -/
theorem hasText_of_read?
    {s : List Char} {x : Number}
    (h : read? s = .ok (some x)) :
    x.HasText := by
  unfold read? at h
  split at h
  · exact hasText_of_value? h
  · exact hasText_of_value? h
  · simp [pure, Except.pure] at h

end Number

theorem exists_displayValue_iff
    (value : Option Scalar) (symbol : Option String) :
    (∃ text, displayValue value none symbol = .ok text) ↔ ∀ x ∈ value, x.HasText := by
  cases value with
  | none => simp [displayValue, pure, Except.pure]
  | some x =>
      cases x with
      | number x => simpa [displayValue, currencySymbol?, Scalar.HasText] using x.exists_grouped_iff
      | bool b => simp [displayValue, Scalar.HasText, pure, Except.pure]
      | text s => simp [displayValue, Scalar.HasText, pure, Except.pure]

theorem exists_exportValue_iff
    (value : Option Scalar) :
    (∃ text, Grid.exportValue value = .ok text) ↔ ∀ x ∈ value, x.HasText := by
  cases value with
  | none => simp [Grid.exportValue, pure, Except.pure]
  | some x =>
      cases x with
      | number x => simpa [Grid.exportValue, Scalar.plain, Scalar.HasText] using x.exists_plain_iff
      | bool b => simp [Grid.exportValue, Scalar.plain, Scalar.HasText, pure, Except.pure]
      | text s => simp [Grid.exportValue, Scalar.plain, Scalar.HasText, pure, Except.pure]

namespace Entry

theorem exists_of_currency?
    {s : List Char} {entry : Entry}
    (h : currency? s = some entry) :
    ∃ symbol x, entry = .currency symbol x := by
  cases s with
  | nil => simp [currency?] at h
  | cons symbol s =>
      simp only [currency?] at h
      split at h
      · obtain ⟨x, -, rfl⟩ := Option.map_eq_some_iff.1 h
        exact ⟨symbol, x, rfl⟩
      · simp at h

/-- A text is an entry of a number only if that can be written again. -/
theorem hasText_of_ofText
    {raw : String} {x : Number}
    (h : ofText raw = .ok (.number x)) :
    x.HasText := by
  simp only [ofText] at h
  split at h
  case h_7 =>
    split at h
    · next hcurrency =>
        obtain ⟨symbol, amount, rfl⟩ := exists_of_currency? hcurrency
        simp [pure, Except.pure] at h
    · obtain ⟨number, hnumber, h⟩ := bind_eq_ok_iff.1 h
      cases number with
      | none =>
          have hwords := Except.ok.inj h
          unfold ofWords at hwords
          split at hwords <;> simp at hwords
      | some y =>
          obtain rfl := Entry.number.inj (Except.ok.inj h)
          exact Number.hasText_of_read? hnumber
  all_goals simp [pure, Except.pure] at h

theorem isFinite_of_amount?
    {s : List Char} {x : Binary64}
    (h : amount? s = some x) :
    x.isFinite = true := by
  simp only [amount?, Option.ite_none_left_eq_some, Option.ite_none_right_eq_some,
    Option.some.injEq] at h
  obtain ⟨-, -, hfinite, rfl⟩ := h
  exact hfinite

/-- A number that is typed is finite, an amount of money too. -/
theorem isFinite_of_ofText
    {raw : String} {entry : Entry} {x : Number}
    (h : ofText raw = .ok entry)
    (hx : entry.value? = some (.number x)) :
    x.isFinite = true := by
  simp only [ofText] at h
  split at h
  case h_7 =>
    split at h
    · next hcurrency =>
        obtain rfl := Except.ok.inj h
        unfold currency? at hcurrency
        split at hcurrency
        · split at hcurrency
          · obtain ⟨amount, hamount, rfl⟩ := Option.map_eq_some_iff.1 hcurrency
            obtain rfl := Scalar.number.inj (Option.some.inj hx)
            exact isFinite_of_amount? hamount
          · cases hcurrency
        · cases hcurrency
    · obtain ⟨number, hnumber, h⟩ := bind_eq_ok_iff.1 h
      cases number with
      | none =>
          obtain rfl := Except.ok.inj h
          unfold ofWords at hx
          split at hx <;> cases hx
      | some y =>
          obtain rfl := Except.ok.inj h
          obtain rfl := Scalar.number.inj (Option.some.inj hx)
          exact Number.read?_isFinite hnumber
  all_goals
    obtain rfl := Except.ok.inj h
    cases hx

end Entry

namespace Cell

theorem isTyped_of_ofTyped?
    {entry : Entry} {c : Cell}
    (hnumber : ∀ x, entry = .number x → x.HasText)
    (h : ofTyped? entry = some c) :
    c.IsTyped := by
  cases entry with
  | nothing => simp [ofTyped?] at h
  | checkbox checked =>
      obtain rfl := Option.some.inj h
      exact .checkbox checked
  | formula source =>
      obtain ⟨hsource, h⟩ := Option.dite_none_left_eq_some.1 h
      obtain rfl := Option.some.inj h
      exact .formula source hsource
  | currency symbol x =>
      obtain rfl := Option.some.inj h
      exact .amount x _
  | number x =>
      obtain rfl := Option.some.inj h
      exact .number (hnumber x rfl)
  | date words =>
      obtain rfl := Option.some.inj h
      exact .words words .date
  | text raw =>
      obtain rfl := Option.some.inj h
      exact .words raw .text

/-- What is typed stores one of a few kinds of cells. -/
theorem isTyped_of_ofInput?
    {raw : String} {cell : Option Cell}
    (h : ofInput? raw = .ok cell) :
    ∀ c ∈ cell, c.IsTyped := by
  obtain ⟨entry, hentry, h⟩ := bind_eq_ok_iff.1 h
  obtain rfl := Except.ok.inj h
  intro c hc
  refine isTyped_of_ofTyped? ?_ hc
  rintro x rfl
  exact Entry.hasText_of_ofText hentry

/-- The cell of an entry holds its value. -/
theorem value?_of_ofTyped?
    {entry : Entry} {c : Cell}
    (h : ofTyped? entry = some c) :
    c.value? = entry.value? := by
  cases entry with
  | nothing => cases h
  | formula source =>
      obtain ⟨_, h⟩ := Option.dite_none_left_eq_some.1 h
      obtain rfl := Option.some.inj h
      rfl
  | _ =>
      obtain rfl := Option.some.inj h
      rfl

/-- A typed cell equals itself: it never holds the undefined number. -/
theorem equalContents_of_ofInput?
    {raw : String} {cell : Option Cell}
    (h : ofInput? raw = .ok cell) :
    equalContents cell cell = true := by
  obtain ⟨entry, hentry, h⟩ := bind_eq_ok_iff.1 h
  obtain rfl := Except.ok.inj h
  cases hcell : ofTyped? entry with
  | none => rfl
  | some c =>
      refine equal_self fun hnan => ?_
      cases Entry.isFinite_of_ofText hentry (value?_of_ofTyped? hcell ▸ hnan)

/-- What begins with the sign of a formula, and ends in no blank, is stored as it
is. -/
theorem ofInput?_of_equals
    {text : List Char}
    (hlast : ∀ c ∈ text.getLast?, Text.isBlank c = false) :
    ∃ h, ofInput? (String.ofList ('=' :: text))
      = .ok (some (.formula (String.ofList ('=' :: text)) h none)) := by
  have hequals : Text.isBlank '=' = false := by decide
  have htrim : Text.trim (String.ofList ('=' :: text)).toList = '=' :: text := by
    rw [String.toList_ofList]
    refine Text.trim_of_ends ?_ ?_
    · rintro c ⟨⟩
      exact hequals
    · intro c hc
      rw [List.getLast?_cons, Option.mem_some_iff] at hc
      rw [← hc]
      cases hend : text.getLast? with
      | none => exact hequals
      | some d => exact hlast d hend
  have hentry : Entry.ofText (String.ofList ('=' :: text))
      = .ok (.formula (String.ofList ('=' :: text))) := by
    unfold Entry.ofText
    rw [htrim]
    rfl
  have hne : String.ofList ('=' :: text) ≠ "" := by simp
  exact ⟨hne, bind_eq_ok_iff.2 ⟨_, hentry, by simp [ofTyped?, pure, Except.pure]⟩⟩

section Texts

variable {src : Formula.Source} {today : Date} {c : Cell}

theorem computesText_of_source?_eq_none
    (h : c.source? = none) :
    c.ComputesText src today := by
  intro formula hformula
  rw [h] at hformula
  simp at hformula

theorem computesText_iff
    {formula : String}
    (h : c.source? = some formula) :
    c.ComputesText src today ↔ ∀ value ∈ src.evaluate today formula, value.HasText := by
  simp [ComputesText, h]

theorem display_of_source?
    {formula : String} {symbol : Option String}
    (h : c.source? = some formula) :
    c.display src today symbol = displayValue (src.evaluate today formula) c.format? symbol := by
  unfold display
  rw [h]

theorem display_plain
    {value : Scalar} {kind : Kind} {format symbol : Option String}
    (h : (plain value kind format).source? = none) :
    (plain value kind format).display src today symbol
      = displayPlain value kind format symbol := by
  unfold display
  rw [h]

/-- A typed cell can be shown if what its formula computes has a text. -/
theorem IsTyped.exists_display_iff
    (h : c.IsTyped)
    (symbol : Option String) :
    (∃ text, c.display src today symbol = .ok text) ↔ c.ComputesText src today := by
  cases hsource : c.source? with
  | some formula =>
      have hformat : c.format? = none := by
        cases h with
        | amount => simp [source?] at hsource
        | _ => rfl
      rw [display_of_source? hsource, hformat, computesText_iff hsource]
      exact exists_displayValue_iff _ symbol
  | none =>
      refine iff_of_true ?_ (computesText_of_source?_eq_none hsource)
      cases h with
      | formula source => simp [source?] at hsource
      | checkbox checked => exact ⟨_, rfl⟩
      | amount x format => exact Number.exists_currency _ x
      | @number x hx => exact x.exists_grouped_iff.2 hx
      | words text kind =>
          rw [display_plain hsource]
          cases kind <;> exact ⟨_, rfl⟩

/-- A typed cell can be exported if what its formula computes has a text. -/
theorem IsTyped.exists_exportText_iff
    (h : c.IsTyped) :
    (∃ text, Grid.exportText src today (some c) = .ok text) ↔ c.ComputesText src today := by
  cases hsource : c.source? with
  | some formula =>
      simp only [Grid.exportText, hsource]
      rw [computesText_iff hsource]
      exact exists_exportValue_iff _
  | none =>
      refine iff_of_true ?_ (computesText_of_source?_eq_none hsource)
      simp only [Grid.exportText, hsource]
      rw [exists_exportValue_iff]
      cases h with
      | @number x hx =>
          rintro _ ⟨⟩
          exact hx
      | _ =>
          rintro _ ⟨⟩
          trivial

/-- A typed cell offers a text for editing, whatever its formula computes. -/
theorem IsTyped.exists_inputText
    (h : c.IsTyped) :
    ∃ text, c.inputText = .ok text := by
  cases h with
  | formula => exact ⟨_, rfl⟩
  | checkbox => exact ⟨_, rfl⟩
  | words => exact ⟨_, rfl⟩
  | amount x format =>
      obtain ⟨text, htext⟩ := (Number.float x).exists_plain_iff.2 trivial
      exact ⟨_, bind_of_eq_ok htext _⟩
  | @number x hx =>
      obtain ⟨text, htext⟩ := x.exists_plain_iff.2 hx
      exact ⟨_, bind_of_eq_ok htext _⟩

end Texts

end Cell

end Lemmas

end Spreadsheet
