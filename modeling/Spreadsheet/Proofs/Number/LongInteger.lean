import Spreadsheet.Proofs.Number.Capitals
import Spreadsheet.Proofs.Number.Finite
import Spreadsheet.Proofs.Number.Plain
import Spreadsheet.Proofs.Text.Trimming

/-!
# Integers that are too long

A number with a point or a power of ten is rounded, or is none if it is too large for that.
An integer is exact, and one of more digits than are read is a fault.  At the front of a text
the digits of an integer end where neither a digit nor a point nor a power of ten follows.

Results: reading a number fails on integers of too many digits and on nothing else
(`read?_eq_error_iff`), and so does taking the number at the front of a text
(`coerceText_eq_error_iff`), which otherwise is zero or what a front part of the text is read
as (`exists_front_of_coerceText`).
-/

namespace Spreadsheet
namespace Numeral

/-- The texts of a sign, which may be left out. -/
def signs : List (List Char) := [[], ['+'], ['-']]

/-- A power of ten stands at the front of the text. -/
def StartsPower (s : List Char) : Prop :=
  ∃ letter sign digit rest, (letter = 'e' ∨ letter = 'E') ∧ sign ∈ signs
    ∧ Text.isDecimal digit = true ∧ s = letter :: (sign ++ digit :: rest)

/-- The digits in front of the text are all there is of a number. -/
structure EndsInteger (rest : List Char) : Prop where
  digit : ∀ c ∈ rest.head?, Text.isDecimal c = false
  point : rest.head? ≠ some '.'
  power : ¬ StartsPower rest

/-- In front of the rest of the text stand a sign and too many digits. -/
def HasLongInteger (s rest : List Char) : Prop :=
  ∃ sign ∈ signs, ∃ digits, s = sign ++ (digits ++ rest)
    ∧ (∀ c ∈ digits, Text.isDecimal c = true) ∧ digitLimit < digits.length

section Lemmas

variable {s rest digits sign : List Char} {n : Numeral} {fault : Fault}

/-! The parts of a number, each scanned in front of a rest. -/

theorem exists_mem_signs
    (s : List Char) :
    ∃ sign ∈ signs, s = sign ++ (scanSign s).2 ∧ (scanSign s).1 = decide (sign = ['-']) := by
  unfold scanSign
  split
  · exact ⟨['-'], by decide, rfl, rfl⟩
  · exact ⟨['+'], by decide, rfl, rfl⟩
  · exact ⟨[], by decide, rfl, rfl⟩

theorem scanSign_append
    (hsign : sign ∈ signs)
    (hrest : ∀ c ∈ rest.head?, Text.isDecimal c = true ∨ c = '.') :
    scanSign (sign ++ rest) = (decide (sign = ['-']), rest) := by
  simp only [signs, List.mem_cons, List.not_mem_nil, or_false] at hsign
  rcases hsign with rfl | rfl | rfl
  · rw [List.nil_append]
    unfold scanSign
    split
    · exact absurd (hrest '-' rfl) (by decide)
    · exact absurd (hrest '+' rfl) (by decide)
    · rfl
  · rfl
  · rfl

theorem head?_append_of_isDecimal
    (hdigits : ∀ c ∈ digits, Text.isDecimal c = true)
    (hne : digits ≠ [])
    (rest : List Char) :
    ∀ c ∈ (digits ++ rest).head?, Text.isDecimal c = true := by
  intro c hc
  rw [List.head?_append_of_ne_nil _ hne] at hc
  exact hdigits c (List.mem_of_mem_head? hc)

theorem scanPower_append
    {letter : Char}
    (hletter : letter = 'e' ∨ letter = 'E')
    (hsign : sign ∈ signs)
    (hdigits : ∀ c ∈ digits, Text.isDecimal c = true)
    (hne : digits ≠ [])
    (hrest : ∀ c ∈ rest.head?, Text.isDecimal c = false) :
    scanPower (letter :: (sign ++ (digits ++ rest)))
      = (some (decide (sign = ['-']), digits), rest) := by
  have hscan := scanSign_append hsign fun c hc =>
    .inl (head?_append_of_isDecimal hdigits hne rest c hc)
  rw [scanPower_of_letter hletter, hscan, scanDigits_append_of_isDecimal hdigits hrest,
    if_neg (by simpa using hne)]

theorem head?_scanDigits
    (s : List Char) :
    ∀ c ∈ (scanDigits s).2.head?, Text.isDecimal c = false := by
  intro c hc
  have hfind : s.find? (fun c => !Text.isDecimal c) = some c :=
    (List.find?_not_eq_head?_dropWhile Text.isDecimal s).trans hc
  simpa using List.find?_some hfind

theorem scanPower_of_not_startsPower
    (h : ¬ StartsPower s) :
    scanPower s = (none, s) := by
  cases s with
  | nil => rfl
  | cons letter s =>
      by_cases hletter : letter = 'e' ∨ letter = 'E'
      · rw [scanPower_of_letter hletter]
        refine if_pos (by_contra fun hsome => h ?_)
        obtain ⟨sign, hmem, hsign, -⟩ := exists_mem_signs s
        obtain ⟨hdigits, hdecimals⟩ := exists_digits (scanSign s).2
        obtain ⟨digit, more, hmore⟩ := List.exists_cons_of_ne_nil
          (show (scanDigits (scanSign s).2).1 ≠ [] by simpa using hsome)
        rw [hmore] at hdigits hdecimals
        exact ⟨letter, sign, digit, more ++ (scanDigits (scanSign s).2).2, hletter, hmem,
          hdecimals digit List.mem_cons_self,
          congrArg (letter :: ·) (hsign.trans (congrArg (sign ++ ·) hdigits))⟩
      · exact scanPower_of_ne hletter s

/-- A power of ten is scanned alike where nothing follows it. -/
theorem exists_of_startsPower
    (h : StartsPower s) :
    ∃ power found rest, s = power ++ rest ∧ scanPower s = (some found, rest)
      ∧ scanPower power = (some found, []) ∧ ∀ c ∈ power.head?, c = 'e' ∨ c = 'E' := by
  obtain ⟨letter, sign, digit, tail, hletter, hsign, hdigit, rfl⟩ := h
  have hdigits := (exists_digits (digit :: tail)).1
  have hdecimals := (exists_digits (digit :: tail)).2
  have hrest := head?_scanDigits (digit :: tail)
  have hne : (scanDigits (digit :: tail)).1 ≠ [] := by simp [scanDigits, hdigit]
  generalize (scanDigits (digit :: tail)).1 = digits at hdigits hdecimals hne
  generalize (scanDigits (digit :: tail)).2 = rest at hdigits hrest
  have hnone : ∀ c ∈ ([] : List Char).head?, Text.isDecimal c = false := by simp
  have halone := scanPower_append hletter hsign hdecimals hne hnone
  rw [List.append_nil] at halone
  refine ⟨letter :: (sign ++ digits), (decide (sign = ['-']), digits), rest, ?_, ?_, halone, ?_⟩
  · rw [hdigits, List.cons_append, List.append_assoc]
  · rw [hdigits]
    exact scanPower_append hletter hsign hdecimals hne hrest
  · rintro c ⟨⟩
    exact hletter

theorem exists_power_alone
    (s : List Char) :
    ∃ power, s = power ++ (scanPower s).2 ∧ scanPower power = ((scanPower s).1, [])
      ∧ ∀ c ∈ power.head?, c = 'e' ∨ c = 'E' := by
  by_cases h : StartsPower s
  · obtain ⟨power, found, rest, hs, hscan, halone, hhead⟩ := exists_of_startsPower h
    rw [hscan]
    exact ⟨power, hs, halone, hhead⟩
  · rw [scanPower_of_not_startsPower h]
    exact ⟨[], rfl, rfl, by simp⟩

/-- A sign and digits are scanned in front of what is no digit. -/
theorem scan_sign_digits
    (hsign : sign ∈ signs)
    (hdigits : ∀ c ∈ digits, Text.isDecimal c = true)
    (hrest : ∀ c ∈ rest.head?, Text.isDecimal c = false)
    (hne : digits ≠ [] ∨ rest.head? = some '.') :
    scanSign (sign ++ (digits ++ rest)) = (decide (sign = ['-']), digits ++ rest)
      ∧ scanDigits (digits ++ rest) = (digits, rest) := by
  refine ⟨scanSign_append hsign fun c hc => ?_, scanDigits_append_of_isDecimal hdigits hrest⟩
  cases digits with
  | cons d digits =>
      exact .inl (head?_append_of_isDecimal hdigits (List.cons_ne_nil d digits) _ c hc)
  | nil =>
      have hpoint := hne.resolve_left (not_not_intro rfl)
      exact .inr (Option.some.inj (hc.symm.trans hpoint))

/-! Numbers that are integers. -/

theorem scan?_of_endsInteger
    (hsign : sign ∈ signs)
    (hdigits : ∀ c ∈ digits, Text.isDecimal c = true)
    (hne : digits ≠ [])
    (hrest : EndsInteger rest) :
    scan? (sign ++ (digits ++ rest)) = some (⟨decide (sign = ['-']), digits, none, none⟩, rest) := by
  obtain ⟨hscanned, hscan⟩ := scan_sign_digits hsign hdigits hrest.digit (.inl hne)
  have hpoint : ∀ t, (scanDigits (scanSign (sign ++ (digits ++ rest))).2).2 ≠ '.' :: t := by
    intro t ht
    rw [hscanned, hscan] at ht
    exact hrest.point (congrArg List.head? ht)
  rw [scan?_of_ne_point hpoint, hscanned, hscan, scanPower_of_not_startsPower hrest.power,
    if_neg (by simpa using hne)]

/-- Without a point and a power of ten, a number is a sign and digits. -/
theorem exists_of_scan?
    (h : scan? s = some (n, rest))
    (hfraction : n.fraction = none)
    (hpower : n.power = none) :
    EndsInteger rest ∧ ∃ sign ∈ signs, s = sign ++ (n.whole ++ rest)
      ∧ ∀ c ∈ n.whole, Text.isDecimal c = true := by
  obtain ⟨sign, hmem, hsign, -⟩ := exists_mem_signs s
  obtain ⟨hdigits, hdecimals⟩ := exists_digits (scanSign s).2
  by_cases hpoint : ∃ t, (scanDigits (scanSign s).2).2 = '.' :: t
  · obtain ⟨t, hpoint⟩ := hpoint
    rw [scan?_of_point hpoint] at h
    split at h
    · cases h
    · obtain ⟨rfl, -⟩ := Prod.mk.inj (Option.some.inj h)
      cases hfraction
  · have hnone : ∀ t, (scanDigits (scanSign s).2).2 ≠ '.' :: t := not_exists.1 hpoint
    rw [scan?_of_ne_point hnone] at h
    split at h
    · cases h
    · obtain ⟨rfl, hrest⟩ := Prod.mk.inj (Option.some.inj h)
      have hstarts : ¬ StartsPower (scanDigits (scanSign s).2).2 := by
        intro hstarts
        obtain ⟨_, _, _, -, hscan, -⟩ := exists_of_startsPower hstarts
        rw [hscan] at hpower
        cases hpower
      rw [scanPower_of_not_startsPower hstarts] at hrest
      subst hrest
      refine ⟨⟨head?_scanDigits _, fun hhead => ?_, hstarts⟩, sign, hmem, ?_, hdecimals⟩
      · obtain ⟨t, ht⟩ := List.head?_eq_some_iff.1 hhead
        exact hnone t ht
      · rw [← hdigits]
        exact hsign

theorem value?_eq_error_iff :
    n.value? = .error fault
      ↔ fault = .tooManyDigits ∧ n.fraction = none ∧ n.power = none
        ∧ digitLimit < n.whole.length := by
  unfold value? integer
  split
  · next hinteger =>
      simp only [Bool.and_eq_true, Option.isNone_iff_eq_none] at hinteger
      split
      · next hlong =>
          simp [bind, Except.bind, hinteger, hlong, eq_comm]
      · next hshort => simp [bind, Except.bind, pure, Except.pure, hshort]
  · next hbinary =>
      simp only [Bool.and_eq_true, Option.isNone_iff_eq_none, not_and] at hbinary
      simp only [pure, Except.pure, reduceCtorEq, false_iff]
      rintro ⟨-, hfraction, hpower, -⟩
      exact hbinary hfraction hpower

/-- The number at the front of a text is a fault where it is an integer of too many digits. -/
theorem exists_error_iff :
    (∃ n, scan? s = some (n, rest) ∧ n.value? = .error fault)
      ↔ fault = .tooManyDigits ∧ HasLongInteger s rest ∧ EndsInteger rest := by
  constructor
  · rintro ⟨n, hscan, hvalue⟩
    obtain ⟨rfl, hfraction, hpower, hlong⟩ := value?_eq_error_iff.1 hvalue
    obtain ⟨hrest, sign, hsign, rfl, hdigits⟩ := exists_of_scan? hscan hfraction hpower
    exact ⟨rfl, ⟨sign, hsign, n.whole, rfl, hdigits, hlong⟩, hrest⟩
  · rintro ⟨rfl, ⟨sign, hsign, digits, rfl, hdigits, hlong⟩, hrest⟩
    have hne : digits ≠ [] := List.ne_nil_of_length_pos (Nat.zero_lt_of_lt hlong)
    exact ⟨_, scan?_of_endsInteger hsign hdigits hne hrest,
      value?_eq_error_iff.2 ⟨rfl, rfl, rfl, hlong⟩⟩

/-- The number at the front of a text is scanned alike where nothing follows it. -/
theorem exists_front_of_scan?
    (h : scan? s = some (n, rest)) :
    ∃ front, s = front ++ rest ∧ scan? front = some (n, []) := by
  obtain ⟨sign, hmem, hsign, hnegative⟩ := exists_mem_signs s
  obtain ⟨hwhole, hwholes⟩ := exists_digits (scanSign s).2
  have hends : ∀ {c : Char}, c = 'e' ∨ c = 'E' → Text.isDecimal c = false := by
    rintro c (rfl | rfl) <;> decide
  by_cases hpoint : ∃ t, (scanDigits (scanSign s).2).2 = '.' :: t
  · obtain ⟨t, hpoint⟩ := hpoint
    obtain ⟨hfraction, hfractions⟩ := exists_digits t
    obtain ⟨power, hpower, halone, hletter⟩ := exists_power_alone (scanDigits t).2
    rw [scan?_of_point hpoint] at h
    split at h
    · cases h
    next hsome =>
    obtain ⟨rfl, rfl⟩ := Prod.mk.inj (Option.some.inj h)
    have hs : s = sign ++ ((scanDigits (scanSign s).2).1
        ++ '.' :: ((scanDigits t).1 ++ (power ++ (scanPower (scanDigits t).2).2))) := by
      rw [← hpower, ← hfraction, ← hpoint, ← hwhole]
      exact hsign
    have hbehind : ∀ c ∈ ('.' :: ((scanDigits t).1 ++ power)).head?, Text.isDecimal c = false := by
      rintro c ⟨⟩
      decide
    obtain ⟨hfront, hdigits⟩ := scan_sign_digits hmem hwholes hbehind (.inr rfl)
    have hmore := scanDigits_append_of_isDecimal hfractions fun c hc => hends (hletter c hc)
    refine ⟨sign ++ ((scanDigits (scanSign s).2).1 ++ '.' :: ((scanDigits t).1 ++ power)), ?_, ?_⟩
    · simpa using hs
    · rw [scan?_of_point (by rw [hfront, hdigits]), hfront, hdigits, hmore, halone, if_neg hsome,
        hnegative]
  · have hnone : ∀ t, (scanDigits (scanSign s).2).2 ≠ '.' :: t := not_exists.1 hpoint
    obtain ⟨power, hpower, halone, hletter⟩ := exists_power_alone (scanDigits (scanSign s).2).2
    rw [scan?_of_ne_point hnone] at h
    split at h
    · cases h
    next hsome =>
    obtain ⟨rfl, rfl⟩ := Prod.mk.inj (Option.some.inj h)
    have hne : (scanDigits (scanSign s).2).1 ≠ [] := by simpa using hsome
    obtain ⟨hfront, hdigits⟩ :=
      scan_sign_digits hmem hwholes (fun c hc => hends (hletter c hc)) (.inl hne)
    have hbehind : ∀ t, (scanDigits (scanSign
        (sign ++ ((scanDigits (scanSign s).2).1 ++ power))).2).2 ≠ '.' :: t := by
      intro t ht
      rw [hfront, hdigits] at ht
      have hmark := hletter '.' (congrArg List.head? ht)
      exact absurd hmark (by decide)
    refine ⟨sign ++ ((scanDigits (scanSign s).2).1 ++ power), ?_, ?_⟩
    · rw [List.append_assoc, List.append_assoc, ← hpower, ← hwhole]
      exact hsign
    · rw [scan?_of_ne_point hbehind, hfront, hdigits, halone, if_neg hsome, hnegative]

end Lemmas

end Numeral

namespace Number

/-- The text less the blanks around it, its currency symbols and its commas. -/
def bare (s : List Char) : List Char :=
  Text.trim ((Text.trim s).filter fun c => !(currencySymbols.contains c || c == ','))

section Lemmas

open Numeral

variable {s rest : List Char} {x : Number} {fault : Fault}

theorem endsInteger_of_mem
    (h : rest = [] ∨ rest = ['\n']) :
    EndsInteger rest := by
  have hpower : ¬ StartsPower rest := by
    rintro ⟨letter, sign, digit, tail, hletter, -, -, htail⟩
    rcases h with rfl | rfl
    · cases htail
    · obtain ⟨rfl, -⟩ := List.cons.inj htail
      exact absurd hletter (by decide)
  rcases h with rfl | rfl
  · exact ⟨by simp, by simp, hpower⟩
  · refine ⟨?_, by simp, hpower⟩
    rintro c ⟨⟩
    decide

theorem exists_scan?_of_read?_error
    (h : read? s = .error fault) :
    ∃ rest n, (rest = [] ∨ rest = ['\n']) ∧ scan? (withoutCommas s) = some (n, rest)
      ∧ n.value? = .error fault := by
  unfold read? at h
  split at h
  · next n hscan => exact ⟨[], n, .inl rfl, hscan, h⟩
  · next n hscan => exact ⟨['\n'], n, .inr rfl, hscan, h⟩
  · cases h

theorem read?_of_scan?
    {n : Numeral}
    (hrest : rest = [] ∨ rest = ['\n'])
    (hscan : scan? (withoutCommas s) = some (n, rest)) :
    read? s = n.value? := by
  unfold read?
  rcases hrest with rfl | rfl <;> simp only [hscan]

/-- Reading a number fails on integers of too many digits only. -/
theorem read?_eq_error_iff :
    read? s = .error fault
      ↔ fault = .tooManyDigits
        ∧ ∃ rest, (rest = [] ∨ rest = ['\n']) ∧ HasLongInteger (withoutCommas s) rest := by
  constructor
  · intro h
    obtain ⟨rest, n, hrest, hscan, hvalue⟩ := exists_scan?_of_read?_error h
    obtain ⟨hfault, hlong, -⟩ := exists_error_iff.1 ⟨n, hscan, hvalue⟩
    exact ⟨hfault, rest, hrest, hlong⟩
  · rintro ⟨rfl, rest, hrest, hlong⟩
    obtain ⟨n, hscan, hvalue⟩ := exists_error_iff.2 ⟨rfl, hlong, endsInteger_of_mem hrest⟩
    rw [read?_of_scan? hrest hscan, hvalue]

theorem coerceText_eq
    (s : List Char) :
    coerceText s
      = match scan? (bare s) with
        | some (n, _) => do return (← n.value?).getD (.int 0)
        | none => return .int 0 := rfl

/-- Taking the number at the front of a text fails on integers of too many digits only. -/
theorem coerceText_eq_error_iff :
    coerceText s = .error fault
      ↔ fault = .tooManyDigits ∧ ∃ rest, HasLongInteger (bare s) rest ∧ EndsInteger rest := by
  rw [coerceText_eq]
  constructor
  · intro h
    split at h
    · next n rest hscan =>
        cases hvalue : n.value? with
        | ok value =>
            rw [hvalue] at h
            cases h
        | error cause =>
            rw [hvalue] at h
            obtain rfl := Except.error.inj h
            obtain ⟨hfault, hlong⟩ := exists_error_iff.1 ⟨n, hscan, hvalue⟩
            exact ⟨hfault, rest, hlong⟩
    · cases h
  · rintro ⟨rfl, rest, hlong⟩
    obtain ⟨n, hscan, hvalue⟩ := exists_error_iff.2 ⟨rfl, hlong⟩
    simp only [hscan, hvalue]
    rfl

theorem withoutCommas_of_bare
    {front : List Char}
    (h : bare s = front ++ rest) :
    withoutCommas front = front := by
  refine withoutCommas_of_not_mem fun hcomma => ?_
  have hmem : ',' ∈ bare s := h ▸ List.mem_append_left rest hcomma
  have hkept := (List.mem_filter.1 ((Text.mem_trim_iff (by decide)).1 hmem)).2
  simp at hkept

/-- The number that a text offers is zero, or what a front part of it is read as. -/
theorem exists_front_of_coerceText
    (h : coerceText s = .ok x) :
    x = .int 0 ∨ ∃ front rest, bare s = front ++ rest ∧ read? front = .ok (some x) := by
  rw [coerceText_eq] at h
  split at h
  · next n rest hscan =>
      obtain ⟨front, hfront, halone⟩ := exists_front_of_scan? hscan
      have hread : read? front = n.value? := by
        refine read?_of_scan? (.inl rfl) ?_
        rw [withoutCommas_of_bare hfront, halone]
      obtain ⟨value, hvalue, h⟩ := bind_eq_ok_iff.1 h
      cases value with
      | none => exact .inl (Except.ok.inj h).symm
      | some y =>
          obtain rfl : y = x := Except.ok.inj h
          exact .inr ⟨front, rest, hfront, hread.trans hvalue⟩
  · exact .inl (Except.ok.inj h).symm

end Lemmas

end Number
end Spreadsheet
