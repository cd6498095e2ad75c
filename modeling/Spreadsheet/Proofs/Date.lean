import Mathlib.Data.List.Basic
import Spreadsheet.Date
import Spreadsheet.Proofs.Number.Digits
import Spreadsheet.Proofs.Text.Trimming

/-!
# Written dates that read back

A date is written without leading zeros, and so is its year.  A month and a day are read back
whether they have one digit or two, but only a year of four digits is read as itself: one of
two digits is taken for a year of the current hundred, and one of one or three is none.

Results: what a written date is read as (`parse?_format`), and that it is the same day exactly
if its year has four digits (`parse?_format_eq_some_iff`).
-/

namespace Spreadsheet
namespace Date

/-- The year that a year written without leading zeros is read as. -/
def yearRead? (year : Nat) : Option Nat :=
  if 1000 ≤ year then some year
  else if 10 ≤ year ∧ year ≤ 99 then some (if year ≤ 68 then 2000 + year else 1900 + year)
  else none

/-- A character that a date with hyphens is written with. -/
def IsDateMark (c : Char) : Prop :=
  c.isDigit = true ∨ c = '-'

instance (c : Char) : Decidable (IsDateMark c) :=
  inferInstanceAs (Decidable (_ ∨ _))

section Lemmas

variable {d : Date} {s : List Char}

/-! The characters of dates. -/

theorem isDateMark_of_ofHyphens?
    {c : Char}
    (h : (ofHyphens? s).isSome = true)
    (hc : c ∈ s) :
    IsDateMark c := by
  unfold ofHyphens? at h
  split at h
  · split at h
    · next hdigits =>
        by_cases hhyphen : c = '-'
        · exact .inr hhyphen
        · refine .inl (List.all_eq_true.1 hdigits c ?_)
          simpa [hhyphen] using hc
    · cases h
  · cases h

theorem isDigit_of_ofHyphens?
    {c : Char}
    (h : (ofHyphens? (c :: s)).isSome = true) :
    c.isDigit = true := by
  unfold ofHyphens? at h
  split at h
  · next heq =>
      obtain ⟨rfl, -⟩ := List.cons.inj heq
      split at h
      · next hdigits => exact List.all_eq_true.1 hdigits c List.mem_cons_self
      · cases h
  · cases h

/-- Neither an equals sign nor a currency symbol begins a month. -/
theorem month?_of_mark
    {c : Char}
    (hc : c = '=' ∨ c = '$' ∨ c = '€' ∨ c = '£')
    (s : List Char) :
    month? (c :: s) = none := by
  rcases hc with rfl | rfl | rfl | rfl <;> rcases s with _ | ⟨d, _ | ⟨e, s⟩⟩ <;> rfl

/-- What begins like no month is no date with slashes. -/
theorem ofSlashes?_eq_none
    {c : Char}
    (hmonth : ∀ s, month? (c :: s) = none)
    (s : List Char) :
    ofSlashes? (c :: s) = none := by
  rw [← Option.not_isSome_iff_eq_none]
  intro h
  unfold ofSlashes? at h
  split at h
  · next m day y hsplit =>
      obtain ⟨d, hd⟩ := Option.isSome_iff_exists.1 h
      obtain ⟨year, -, hd⟩ := Option.bind_eq_some_iff.1 hd
      obtain ⟨month, hm, -⟩ := Option.bind_eq_some_iff.1 hd
      rw [List.splitOn_cons_eq_if_modifyHead] at hsplit
      split at hsplit
      · obtain ⟨rfl, -⟩ := List.cons.inj hsplit
        cases hm
      · cases hrest : s.splitOn '/' with
        | nil =>
            rw [hrest] at hsplit
            cases hsplit
        | cons first others =>
            rw [hrest] at hsplit
            rw [← (List.cons.inj hsplit).1, hmonth] at hm
            cases hm
  · cases h

/-- What is read as a date does not begin with an equals sign, blanks apart. -/
theorem exists_cons_of_parse?
    (h : parse? s = some d) :
    ∃ c rest, Text.trim s = c :: rest ∧ c ≠ '=' := by
  rw [parse?, Option.or_eq_some_iff] at h
  cases htrim : Text.trim s with
  | nil =>
      rw [htrim] at h
      rcases h with h | ⟨-, h⟩ <;> cases h
  | cons c rest =>
      rw [htrim] at h
      refine ⟨c, rest, rfl, ?_⟩
      rintro rfl
      rcases h with h | ⟨-, h⟩
      · cases isDigit_of_ofHyphens? (Option.isSome_of_eq_some h)
      · rw [ofSlashes?_eq_none (month?_of_mark (.inl rfl))] at h
        cases h

/-! The parts of a written date. -/

theorem month?_toDigits
    {month : Nat}
    (hleast : 1 ≤ month)
    (hgreatest : month ≤ 12) :
    month? (Nat.toDigits 10 month) = some month := by
  have hall : ∀ m < 13, 1 ≤ m → month? (Nat.toDigits 10 m) = some m := by decide
  exact hall month (by omega) hleast

theorem day?_toDigits
    {day : Nat}
    (hleast : 1 ≤ day)
    (hgreatest : day ≤ 31) :
    day? (Nat.toDigits 10 day) = some day := by
  have hall : ∀ n < 32, 1 ≤ n → day? (Nat.toDigits 10 n) = some n := by decide
  exact hall day (by omega) hleast

theorem year?_toDigits
    {year : Nat}
    (h : year ≤ 9999) :
    year? (Nat.toDigits 10 year) = yearRead? year := by
  have hdigits : (Nat.toDigits 10 year).all Text.isDecimal = true := by
    rw [List.all_eq_true]
    intro c hc
    rw [Text.isDecimal, Text.decimalValue?_ascii (Text.isDigit_of_mem_toDigits hc)]
    rfl
  have hlength : ∀ k, 0 < k → ((Nat.toDigits 10 year).length ≤ k ↔ year < 10 ^ k) :=
    fun k hk => Nat.length_toDigits_le_iff (by decide) hk
  have hone := hlength 1 (by decide)
  have htwo := hlength 2 (by decide)
  have hthree := hlength 3 (by decide)
  have hfour := hlength 4 (by decide)
  rw [year?, if_pos hdigits, Text.decimalNat_toDigits, yearRead?]
  dsimp only
  by_cases hlong : 1000 ≤ year
  · have hcount : (Nat.toDigits 10 year).length = 4 := by omega
    rw [hcount, if_pos hlong]
    rfl
  by_cases hshort : 10 ≤ year ∧ year ≤ 99
  · have hcount : (Nat.toDigits 10 year).length = 2 := by omega
    rw [hcount, if_neg hlong, if_pos hshort]
    rfl
  · rw [if_neg hlong, if_neg hshort]
    split
    · omega
    · omega
    · rfl

/-! The whole date. -/

theorem daysInMonth_le
    (year month : Nat) :
    daysInMonth year month ≤ 31 := by
  unfold daysInMonth
  split
  · split <;> decide
  all_goals decide

theorem month_le_of_isDay
    {year month day : Nat}
    (h : IsDay year month day) :
    1 ≤ month ∧ month ≤ 12 := by
  obtain ⟨-, -, hfirst, hlast⟩ := h
  unfold daysInMonth at hlast
  split at hlast <;> omega

theorem toList_format
    (d : Date) :
    d.format.toList = Nat.toDigits 10 d.month ++ '/' ::
      (Nat.toDigits 10 d.day ++ '/' :: Nat.toDigits 10 d.year) := by
  simp [format, Nat.toList_repr]

theorem toDigits_ne_nil
    (n : Nat) :
    Nat.toDigits 10 n ≠ [] :=
  List.ne_nil_of_length_pos Nat.length_toDigits_pos

/-- A written date begins with a digit. -/
theorem exists_cons_format
    (d : Date) :
    ∃ c rest, d.format.toList = c :: rest ∧ c.isDigit = true := by
  obtain ⟨c, digits, hdigits⟩ := List.exists_cons_of_ne_nil (toDigits_ne_nil d.month)
  refine ⟨c, _, by rw [toList_format, hdigits, List.cons_append], ?_⟩
  exact Text.isDigit_of_mem_toDigits (hdigits ▸ List.mem_cons_self)

theorem trim_format
    (d : Date) :
    Text.trim d.format.toList = d.format.toList := by
  refine Text.trim_of_ends (fun c hc => ?_) fun c hc => ?_
  · obtain ⟨first, rest, hformat, hdigit⟩ := exists_cons_format d
    rw [hformat] at hc
    obtain rfl := Option.some.inj hc
    exact Text.not_isBlank_of_isDigit hdigit
  · have hlast : d.format.toList.getLast? = (Nat.toDigits 10 d.year).getLast? := by
      rw [toList_format, List.append_cons, ← List.append_assoc, List.append_cons,
        List.getLast?_append_of_ne_nil _ (toDigits_ne_nil d.year)]
    rw [hlast] at hc
    exact Text.not_isBlank_of_isDigit
      (Text.isDigit_of_mem_toDigits (List.mem_of_mem_getLast? hc))

theorem slash_notMem_toDigits
    (n : Nat) :
    '/' ∉ Nat.toDigits 10 n :=
  fun h => absurd (Text.isDigit_of_mem_toDigits h) (by decide)

theorem splitOn_format
    (d : Date) :
    d.format.toList.splitOn '/'
      = [Nat.toDigits 10 d.month, Nat.toDigits 10 d.day, Nat.toDigits 10 d.year] := by
  rw [toList_format, List.splitOn_append_cons_self_of_not_mem (slash_notMem_toDigits _),
    List.splitOn_append_cons_self_of_not_mem (slash_notMem_toDigits _),
    List.splitOn_eq_singleton (slash_notMem_toDigits _)]

theorem ofHyphens?_format
    (d : Date) :
    ofHyphens? d.format.toList = none := by
  rw [← Option.not_isSome_iff_eq_none]
  intro hsome
  have hslash : '/' ∈ d.format.toList := by simp [toList_format]
  exact absurd (isDateMark_of_ofHyphens? hsome hslash) (by decide)

/-- A written date is read as a day of the year that its year is read as. -/
theorem parse?_format
    (d : Date) :
    parse? d.format.toList = (yearRead? d.year).bind fun year => ofParts? year d.month d.day := by
  obtain ⟨hmonth, hmonth'⟩ := month_le_of_isDay d.isDay
  obtain ⟨-, hyear, hday, hday'⟩ := d.isDay
  have hlast := daysInMonth_le d.year d.month
  rw [parse?, trim_format, ofHyphens?_format, Option.none_or, ofSlashes?, splitOn_format]
  dsimp only
  rw [year?_toDigits hyear, month?_toDigits hmonth hmonth', day?_toDigits hday (by omega)]
  rfl

/-- A written date is read as the same day exactly if its year has four digits. -/
theorem parse?_format_eq_some_iff
    (d : Date) :
    parse? d.format.toList = some d ↔ 1000 ≤ d.year := by
  rw [parse?_format, yearRead?]
  split
  · next hlong =>
      refine iff_of_true ?_ hlong
      exact dif_pos d.isDay
  · next hshort =>
      refine iff_of_false (fun h => ?_) hshort
      obtain ⟨year, hyear, hparts⟩ := Option.bind_eq_some_iff.1 h
      have hsame : year = d.year := by
        unfold ofParts? at hparts
        split at hparts
        · exact congrArg Date.year (Option.some.inj hparts)
        · cases hparts
      split at hyear
      · next htwo =>
          obtain rfl := Option.some.inj hyear
          split at hsame <;> omega
      · cases hyear

end Lemmas

end Date
end Spreadsheet
