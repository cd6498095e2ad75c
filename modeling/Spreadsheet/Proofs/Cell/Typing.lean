import Spreadsheet.Proofs.Cell.Retyping
import Spreadsheet.Proofs.Date
import Spreadsheet.Proofs.Number.LongInteger

/-!
# Texts that can be typed

Any text can be typed into a cell and offers arithmetic a number, unless it is an integer of
too many digits, or begins with one.  A number of a point or a power of ten that is too large
stays a text, as does what stands behind a currency symbol and is no amount.

Results: typing a text fails on integers of too many digits only (`ofText_eq_error_iff`), what
has no usable value stays a text (`ofText_of_isUnusable`), and what becomes of every text
(`types_and_coerces`).
-/

namespace Spreadsheet

open Numeral

/-- The text is an integer of too many digits. -/
def IsLongInteger (raw : String) : Prop :=
  ∃ rest, (rest = [] ∨ rest = ['\n'])
    ∧ HasLongInteger (Number.withoutCommas (Text.trim raw.toList)) rest

/-- An integer of too many digits stands at the front of the text. -/
def StartsLongInteger (raw : String) : Prop :=
  ∃ rest, HasLongInteger (Number.bare raw.toList) rest ∧ EndsInteger rest

/-- The text has the form of a number that is too large, or stands behind a currency symbol
and is no amount. -/
inductive Entry.IsUnusable (raw : String) : Prop
  | number
      {n : Numeral} {rest : List Char}
      (hscan : scan? (Number.withoutCommas (Text.trim raw.toList)) = some (n, rest))
      (hrest : rest = [] ∨ rest = ['\n'])
      (hbinary : n.IsBinary)
      (hlarge : n.toBinary64.isFinite = false)
  | amount
      {symbol : Char} {s : List Char}
      (htrim : Text.trim raw.toList = symbol :: s)
      (hsymbol : symbol ∈ Number.currencySymbols)
      (hamount : Entry.amount? s = none)

/-- The number is zero or stands at the front of the text. -/
def IsLeading (raw : String) (x : Number) : Prop :=
  x = .int 0 ∨ ∃ front rest, Number.bare raw.toList = front ++ rest
    ∧ Number.read? front = .ok (some x)

section Lemmas

variable {s rest : List Char} {c : Char} {n : Numeral} {raw : String} {fault : Fault}

/-! The characters of dates. -/

namespace Date

theorem ofSlashes?_of_not_mem
    (h : '/' ∉ s) :
    ofSlashes? s = none := by
  rw [ofSlashes?, List.splitOn_eq_singleton h]

/-- No month begins with a currency symbol. -/
theorem ofSlashes?_of_symbol
    (h : c ∈ Number.currencySymbols)
    (s : List Char) :
    ofSlashes? (c :: s) = none :=
  ofSlashes?_eq_none (month?_of_mark (.inr (Number.mem_currencySymbols_iff.1 h))) s

/-- A text with a character that no date with hyphens has is no date, if it is none with
slashes. -/
theorem parse?_eq_none
    (hc : c ∈ Text.trim s)
    (h : ¬ IsDateMark c)
    (hslashes : ofSlashes? (Text.trim s) = none) :
    parse? s = none := by
  have hhyphens : ofHyphens? (Text.trim s) = none := by
    rw [← Option.not_isSome_iff_eq_none]
    exact fun hsome => h (isDateMark_of_ofHyphens? hsome hc)
  rw [parse?, hhyphens, hslashes]
  rfl

end Date

/-! The characters of numbers. -/

namespace Numeral

/-- A character that may stand in a number, or between its digits, or behind it. -/
def IsNumeralMark (c : Char) : Prop :=
  c = ',' ∨ IsNumberMark c ∨ c = 'e' ∨ c = 'E' ∨ c = '\n'

instance (c : Char) : Decidable (IsNumeralMark c) :=
  inferInstanceAs (Decidable (_ ∨ _))

theorem isNumeralMark_of_scan?
    (hscan : scan? (Number.withoutCommas s) = some (n, rest))
    (hrest : rest = [] ∨ rest = ['\n'])
    (hc : c ∈ s) :
    IsNumeralMark c := by
  by_cases hcomma : c = ','
  · exact .inl hcomma
  have hkept : c ∈ Number.withoutCommas s := List.mem_filter.2 ⟨hc, bne_iff_ne.2 hcomma⟩
  rcases mem_cases_of_scan? hscan hkept with hmark | hletter | hletter | hmem
  · exact .inr (.inl hmark)
  · exact .inr (.inr (.inl hletter))
  · exact .inr (.inr (.inr (.inl hletter)))
  · rcases hrest with rfl | rfl
    · cases hmem
    · exact .inr (.inr (.inr (.inr (List.mem_singleton.1 hmem))))

/-- A number with a point or a power of ten is written with a character that no date with
hyphens has. -/
theorem exists_not_isDateMark
    (hscan : scan? s = some (n, rest))
    (hbinary : n.IsBinary) :
    ∃ c ∈ s, ¬ Date.IsDateMark c := by
  obtain ⟨sign, -, hsign, -⟩ := exists_mem_signs s
  have hwhole := (exists_digits (scanSign s).2).1
  have hmem : ∀ c ∈ (scanDigits (scanSign s).2).2, c ∈ s := by
    intro c hc
    rw [hsign, hwhole]
    exact List.mem_append_right _ (List.mem_append_right _ hc)
  by_cases hpoint : ∃ t, (scanDigits (scanSign s).2).2 = '.' :: t
  · obtain ⟨t, hpoint⟩ := hpoint
    exact ⟨'.', hmem '.' (by rw [hpoint]; exact List.mem_cons_self), by decide⟩
  · rw [scan?_of_ne_point (not_exists.1 hpoint)] at hscan
    split at hscan
    · cases hscan
    obtain ⟨rfl, -⟩ := Prod.mk.inj (Option.some.inj hscan)
    have hpower := hbinary.resolve_left (not_not_intro rfl)
    have hstarts : StartsPower (scanDigits (scanSign s).2).2 := by
      by_contra hnone
      rw [scanPower_of_not_startsPower hnone] at hpower
      exact hpower rfl
    obtain ⟨letter, _, _, _, hletter, -, -, htail⟩ := hstarts
    refine ⟨letter, hmem letter (by rw [htail]; exact List.mem_cons_self), ?_⟩
    rcases hletter with rfl | rfl <;> decide

end Numeral

namespace Entry

variable {entry : Entry}

theorem ofWords_of_not_isDateMark
    (hc : c ∈ Text.trim raw.toList)
    (h : ¬ Date.IsDateMark c)
    (hslashes : Date.ofSlashes? (Text.trim raw.toList) = none) :
    ofWords raw (Text.trim raw.toList) = .text raw := by
  rw [← Text.trim_trim] at hc hslashes
  rw [ofWords, Date.parse?_eq_none hc h hslashes]
  rfl

/-- A text of a number has no symbol in front, and is that number or words. -/
theorem ofText_of_scan?
    (hscan : scan? (Number.withoutCommas (Text.trim raw.toList)) = some (n, rest))
    (hrest : rest = [] ∨ rest = ['\n']) :
    ofText raw = do
      match ← n.value? with
      | some x => return .number x
      | none => return ofWords raw (Text.trim raw.toList) := by
  have hread := Number.read?_of_scan? hrest hscan
  cases htrim : Text.trim raw.toList with
  | nil =>
      rw [htrim] at hscan
      cases hscan
  | cons c s =>
      have hmark : Numeral.IsNumeralMark c :=
        Numeral.isNumeralMark_of_scan? hscan hrest (by rw [htrim]; exact List.mem_cons_self)
      have hother : ∀ d : Char, ¬ Numeral.IsNumeralMark d → c ≠ d := by
        rintro d hd rfl
        exact hd hmark
      have hcurrency : currency? (c :: s) = none := by
        have hsymbol : c ∉ Number.currencySymbols := by
          simp [Number.mem_currencySymbols_iff, hother '$' (by decide), hother '€' (by decide),
            hother '£' (by decide)]
        simp [currency?, hsymbol]
      have hentry := ofText_of_head htrim (hother '[' (by decide)) (hother '=' (by decide))
      rw [hcurrency, ← htrim, hread, htrim] at hentry
      exact hentry

/-- A text that is not the text of a number is read as none. -/
theorem read?_of_not_isNumeralMark
    (hc : c ∈ s)
    (h : ¬ Numeral.IsNumeralMark c) :
    Number.read? s = .ok none := by
  unfold Number.read?
  split
  · next hscan => exact absurd (Numeral.isNumeralMark_of_scan? hscan (.inl rfl) hc) h
  · next hscan => exact absurd (Numeral.isNumeralMark_of_scan? hscan (.inr rfl) hc) h
  · rfl

/-- Typing a text fails on integers of too many digits only. -/
theorem ofText_eq_error_iff :
    ofText raw = .error fault ↔ fault = .tooManyDigits ∧ IsLongInteger raw := by
  constructor
  · intro h
    unfold ofText at h
    simp only at h
    split at h
    case h_7 =>
      split at h
      · cases h
      · cases hread : Number.read? (Text.trim raw.toList) with
        | error cause =>
            rw [hread] at h
            obtain rfl := Except.error.inj h
            exact Number.read?_eq_error_iff.1 hread
        | ok x =>
            rw [hread] at h
            cases x <;> cases h
    all_goals cases h
  · rintro ⟨rfl, rest, hrest, hlong⟩
    obtain ⟨n, hscan, hvalue⟩ :=
      exists_error_iff.2 ⟨rfl, hlong, Number.endsInteger_of_mem hrest⟩
    rw [ofText_of_scan? hscan hrest, hvalue]
    rfl

/-- A text without a usable value stays a text. -/
theorem ofText_of_isUnusable
    (h : IsUnusable raw) :
    ofText raw = .ok (.text raw) := by
  cases h with
  | @number n rest hscan hrest hbinary hlarge =>
      have hvalue : n.value? = .ok none := by
        have hinteger : ¬ (n.fraction.isNone && n.power.isNone) = true := by
          rw [Bool.and_eq_true, Option.isNone_iff_eq_none, Option.isNone_iff_eq_none, not_and_or]
          exact hbinary
        rw [Numeral.value?, if_neg hinteger]
        simp only [hlarge]
        rfl
      obtain ⟨c, hc, hdate⟩ := Numeral.exists_not_isDateMark hscan hbinary
      rw [ofText_of_scan? hscan hrest, hvalue]
      have hslash : '/' ∉ Text.trim raw.toList := fun hmem =>
        absurd (Numeral.isNumeralMark_of_scan? hscan hrest hmem) (by decide)
      exact congrArg Except.ok (ofWords_of_not_isDateMark (List.mem_filter.1 hc).1 hdate
        (Date.ofSlashes?_of_not_mem hslash))
  | @amount symbol s htrim hsymbol hamount =>
      obtain ⟨hbracket, hequals, hnumber, hdate⟩ : symbol ≠ '[' ∧ symbol ≠ '='
          ∧ ¬ Numeral.IsNumeralMark symbol ∧ ¬ Date.IsDateMark symbol := by
        rcases Number.mem_currencySymbols_iff.1 hsymbol with rfl | rfl | rfl <;> decide
      have hmem : symbol ∈ Text.trim raw.toList := by
        rw [htrim]
        exact List.mem_cons_self
      have hcurrency : currency? (symbol :: s) = none := by simp [currency?, hamount]
      have hwords := ofWords_of_not_isDateMark hmem hdate
        (by rw [htrim]; exact Date.ofSlashes?_of_symbol hsymbol s)
      have hread := read?_of_not_isNumeralMark hmem hnumber
      rw [htrim] at hwords hread
      rw [ofText_of_head htrim hbracket hequals, hcurrency, hread]
      exact congrArg Except.ok hwords

end Entry

theorem exists_eq_ok_iff_not
    {α : Type} {x : Except Fault α} {p : Prop}
    (h : ∀ fault, x = .error fault ↔ fault = .tooManyDigits ∧ p) :
    (∃ a, x = .ok a) ↔ ¬ p := by
  cases x with
  | ok a => exact iff_of_true ⟨a, rfl⟩ fun hp => by cases (h _).2 ⟨rfl, hp⟩
  | error fault => exact iff_of_false (by rintro ⟨_, ⟨⟩⟩) (not_not_intro ((h fault).1 rfl).2)

/-- Every text can be typed and offers arithmetic a number, but for integers of too many
digits.  What is read of it is a number only if it is finite, and a text where it has no
usable value; what it offers arithmetic is finite, and zero or the number at its front. -/
theorem types_and_coerces
    (raw : String) :
    ((∃ entry, Entry.ofText raw = .ok entry) ↔ ¬ IsLongInteger raw)
      ∧ ((∃ cell, Cell.ofInput? raw = .ok cell) ↔ ¬ IsLongInteger raw)
      ∧ ((∃ x, Number.coerceText raw.toList = .ok x) ↔ ¬ StartsLongInteger raw)
      ∧ (∀ entry, Entry.ofText raw = .ok entry →
        (∀ x, entry.value? = some (.number x) → x.isFinite = true)
          ∧ (Entry.IsUnusable raw → entry = .text raw))
      ∧ ∀ x, Number.coerceText raw.toList = .ok x → x.isFinite = true ∧ IsLeading raw x := by
  have htyped : (∃ entry, Entry.ofText raw = .ok entry) ↔ ¬ IsLongInteger raw :=
    exists_eq_ok_iff_not fun _ => Entry.ofText_eq_error_iff
  refine ⟨htyped, ?_, exists_eq_ok_iff_not fun _ => Number.coerceText_eq_error_iff, ?_, ?_⟩
  · rw [← htyped, Cell.ofInput?, exists_bind_eq_ok_iff]
    exact exists_congr fun entry => and_iff_left ⟨_, rfl⟩
  · intro entry hentry
    refine ⟨fun x hx => Entry.isFinite_of_ofText hentry hx, fun hunusable => ?_⟩
    exact Except.ok.inj (hentry.symm.trans (Entry.ofText_of_isUnusable hunusable))
  · exact fun x hx => ⟨Number.isFinite_coerceText hx, Number.exists_front_of_coerceText hx⟩

/-- A number that is too large for the binary format is typed as a text. -/
theorem types_and_coerces_tooLarge :
    Entry.ofText " 1,000e400" = .ok (.text " 1,000e400")
      ∧ ∃ x, Number.coerceText " 1,000e400".toList = .ok x ∧ x.isFinite = true
        ∧ IsLeading " 1,000e400" x := by
  obtain ⟨-, -, -, hentries, hnumbers⟩ := types_and_coerces " 1,000e400"
  obtain ⟨entry, hentry⟩ := exists_eq_ok
    (show (Entry.ofText " 1,000e400").isOk = true by decide +kernel)
  obtain ⟨x, hx⟩ := exists_eq_ok
    (show (Number.coerceText " 1,000e400".toList).isOk = true by decide +kernel)
  have hscan : scan? (Number.withoutCommas (Text.trim " 1,000e400".toList))
      = some (⟨false, ['1', '0', '0', '0'], none, some (false, ['4', '0', '0'])⟩, []) := by
    decide +kernel
  have hunusable : Entry.IsUnusable " 1,000e400" :=
    .number hscan (.inl rfl) (.inr (by decide)) (by decide +kernel)
  exact ⟨(hentries entry hentry).2 hunusable ▸ hentry, x, hx, hnumbers x hx⟩

/-! Integers of digits alone. -/

section Digits

variable {digits : List Char} (hdigits : ∀ c ∈ digits, c.isDigit = true)

include hdigits

theorem trim_of_digits :
    Text.trim digits = digits :=
  Text.trim_of_ends
    (fun c hc => Text.not_isBlank_of_isDigit (hdigits c (List.mem_of_mem_head? hc)))
    fun c hc => Text.not_isBlank_of_isDigit (hdigits c (List.mem_of_getLast? hc))

theorem hasLongInteger_of_digits
    (hlong : digitLimit < digits.length) :
    HasLongInteger digits [] :=
  ⟨[], by decide, digits, (List.append_nil digits).symm,
    fun c hc => isDecimal_of_isDigit (hdigits c hc), hlong⟩

theorem isLongInteger_of_digits
    (hlong : digitLimit < digits.length) :
    IsLongInteger (String.ofList digits) := by
  refine ⟨[], .inl rfl, ?_⟩
  rw [String.toList_ofList, trim_of_digits hdigits,
    Number.withoutCommas_of_not_mem fun hc => absurd (hdigits ',' hc) (by decide)]
  exact hasLongInteger_of_digits hdigits hlong

theorem startsLongInteger_of_digits
    (hlong : digitLimit < digits.length) :
    StartsLongInteger (String.ofList digits) := by
  refine ⟨[], ?_, Number.endsInteger_of_mem (.inl rfl)⟩
  have hkept : (digits.filter fun c => !(Number.currencySymbols.contains c || c == ',')) = digits :=
    List.filter_eq_self.2 fun c hc => Number.isKept_of_isDigit (hdigits c hc)
  rw [Number.bare, String.toList_ofList, trim_of_digits hdigits, hkept, trim_of_digits hdigits]
  exact hasLongInteger_of_digits hdigits hlong

end Digits

/-- An integer of one digit too many. -/
def longOnes : String := String.ofList (List.replicate (digitLimit + 1) '1')

/-- An integer of one digit too many is neither typed nor taken for a number. -/
theorem not_types_longOnes :
    Entry.ofText longOnes = .error .tooManyDigits
      ∧ Cell.ofInput? longOnes = .error .tooManyDigits
      ∧ Number.coerceText longOnes.toList = .error .tooManyDigits := by
  have hdigits : ∀ c ∈ List.replicate (digitLimit + 1) '1', c.isDigit = true := by
    intro c hc
    rw [List.eq_of_mem_replicate hc]
    decide
  have hlong : digitLimit < (List.replicate (digitLimit + 1) '1').length := by
    rw [List.length_replicate]
    exact Nat.lt_succ_self digitLimit
  have hentry : Entry.ofText longOnes = .error .tooManyDigits :=
    Entry.ofText_eq_error_iff.2 ⟨rfl, isLongInteger_of_digits hdigits hlong⟩
  refine ⟨hentry, ?_, ?_⟩
  · rw [Cell.ofInput?, hentry]
    rfl
  · exact Number.coerceText_eq_error_iff.2 ⟨rfl, startsLongInteger_of_digits hdigits hlong⟩

end Lemmas

end Spreadsheet
