import Mathlib.Data.List.TakeWhile
import Spreadsheet.Number.Reader
import Spreadsheet.Proofs.Text.Capitals

/-!
# Numbers in capitals

The only letter of a number is the one that marks its power of ten, in either case.  It
stands behind a digit or a point.

Results: a text is the same number in capitals (`read?_capitals`), and where no such letter
follows a digit or a point, a number has no letters (`isNumberMark_of_scan?`).
-/

namespace Spreadsheet

open Text (capitals toUpper_eq_iff)

/-- No digit and no point is followed by a letter that could mark a power of ten. -/
def HasNoPower (s : List Char) : Prop :=
  ∀ c d, [c, d] <:+: s → Text.isDecimal c = true ∨ c = '.' → d ≠ 'e' ∧ d ≠ 'E'

/-- A character of a number that is not a letter. -/
def IsNumberMark (c : Char) : Prop :=
  Text.isDecimal c = true ∨ c = '-' ∨ c = '+' ∨ c = '.'

instance (c : Char) : Decidable (IsNumberMark c) :=
  inferInstanceAs (Decidable (_ ∨ _))

namespace Numeral

theorem scanSign_capitals
    (s : List Char) :
    scanSign (capitals s) = ((scanSign s).1, capitals (scanSign s).2) := by
  cases s with
  | nil => rfl
  | cons c s =>
      by_cases hminus : c = '-'
      · rw [hminus]
        rfl
      by_cases hplus : c = '+'
      · rw [hplus]
        rfl
      · have hnone : ∀ {d : Char} {t : List Char}, d ≠ '-' → d ≠ '+' →
            scanSign (d :: t) = (false, d :: t) := by
          intro d t hminus hplus
          unfold scanSign
          split
          · next h => exact absurd (List.cons.inj h).1 hminus
          · next h => exact absurd (List.cons.inj h).1 hplus
          · rfl
        have hsign : ('-' : Char).isAlpha = false ∧ ('+' : Char).isAlpha = false := by decide
        rw [Text.capitals_cons, hnone (by rwa [ne_eq, toUpper_eq_iff hsign.1])
          (by rwa [ne_eq, toUpper_eq_iff hsign.2]), hnone hminus hplus]
        rfl

theorem scanDigits_capitals
    (s : List Char) :
    scanDigits (capitals s) = ((scanDigits s).1, capitals (scanDigits s).2) := by
  have hdigits : capitals (s.takeWhile Text.isDecimal) = s.takeWhile Text.isDecimal :=
    Text.capitals_eq_self fun c hc => Text.toUpper_of_isDecimal (List.mem_takeWhile_imp hc)
  rw [scanDigits, Text.takeWhile_capitals Text.isDecimal_toUpper,
    Text.dropWhile_capitals Text.isDecimal_toUpper, hdigits, scanDigits]

/-- Only the two letters that mark a power of ten become the capital one. -/
theorem toUpper_eq_mark
    {c : Char}
    (h : c.toUpper = 'e' ∨ c.toUpper = 'E') :
    c = 'e' ∨ c = 'E' := by
  rcases Text.toUpper_cases c with hsame | ⟨⟨hfrom, hto⟩, hcapital⟩
  · rwa [hsame] at h
  · rcases h with h | h
    · rw [h] at hcapital
      have hmark : 'e'.toNat = 101 := rfl
      omega
    · rw [h] at hcapital
      have hmark : 'E'.toNat + 32 = 'e'.toNat := rfl
      exact .inl (Char.toNat_inj.1 (hcapital.symm.trans hmark))

theorem toLower_eq_mark
    {c : Char}
    (h : c.toLower = 'e' ∨ c.toLower = 'E') :
    c = 'e' ∨ c = 'E' := by
  have hcapital : c.toUpper = 'E' := by
    rw [← Text.toUpper_toLower]
    rcases h with h | h <;> rw [h] <;> rfl
  exact toUpper_eq_mark (.inr hcapital)

theorem scanPower_of_ne
    {c : Char}
    (h : ¬ (c = 'e' ∨ c = 'E'))
    (s : List Char) :
    scanPower (c :: s) = (none, c :: s) := by
  unfold scanPower
  split
  · next heq => exact absurd (.inl (List.cons.inj heq).1) h
  · next heq => exact absurd (.inr (List.cons.inj heq).1) h
  · rfl

theorem scanPower_of_letter
    {c : Char}
    (h : c = 'e' ∨ c = 'E')
    (s : List Char) :
    scanPower (c :: s)
      = if (scanDigits (scanSign s).2).1.isEmpty then (none, c :: s)
        else (some ((scanSign s).1, (scanDigits (scanSign s).2).1),
          (scanDigits (scanSign s).2).2) := by
  rcases h with rfl | rfl <;> rfl

/-- A power of ten may be marked by either letter. -/
theorem scanPower_capitals
    (s : List Char) :
    scanPower (capitals s) = ((scanPower s).1, capitals (scanPower s).2) := by
  cases s with
  | nil => rfl
  | cons c s =>
      by_cases hmark : c = 'e' ∨ c = 'E'
      · have hcapital : c.toUpper = 'E' := by rcases hmark with rfl | rfl <;> rfl
        rw [Text.capitals_cons, hcapital]
        rcases hmark with rfl | rfl
        all_goals
          simp only [scanPower, scanSign_capitals, scanDigits_capitals]
          split <;> rfl
      · rw [Text.capitals_cons, scanPower_of_ne fun h => hmark (toUpper_eq_mark h),
          scanPower_of_ne hmark]
        rfl

theorem scan?_of_point
    {s rest : List Char}
    (h : (scanDigits (scanSign s).2).2 = '.' :: rest) :
    scan? s
      = if (scanDigits (scanSign s).2).1.isEmpty && (scanDigits rest).1.isEmpty then none
        else some (⟨(scanSign s).1, (scanDigits (scanSign s).2).1, some (scanDigits rest).1,
          (scanPower (scanDigits rest).2).1⟩, (scanPower (scanDigits rest).2).2) := by
  unfold scan?
  simp only [h]

theorem scan?_of_ne_point
    {s : List Char}
    (h : ∀ rest, (scanDigits (scanSign s).2).2 ≠ '.' :: rest) :
    scan? s
      = if (scanDigits (scanSign s).2).1.isEmpty then none
        else some (⟨(scanSign s).1, (scanDigits (scanSign s).2).1, none,
          (scanPower (scanDigits (scanSign s).2).2).1⟩,
          (scanPower (scanDigits (scanSign s).2).2).2) := by
  unfold scan?
  simp only

/-- A number is the same in either case, and leaves the same text. -/
theorem scan?_capitals
    (s : List Char) :
    scan? (capitals s) = (scan? s).map (Prod.map id capitals) := by
  have hrest : (scanDigits (scanSign (capitals s)).2).2
      = capitals (scanDigits (scanSign s).2).2 := by
    rw [scanSign_capitals, scanDigits_capitals]
  by_cases hpoint : ∃ rest, (scanDigits (scanSign s).2).2 = '.' :: rest
  · obtain ⟨rest, hpoint⟩ := hpoint
    have hcapital : capitals ('.' :: rest) = '.' :: capitals rest := rfl
    rw [hpoint, hcapital] at hrest
    rw [scan?_of_point hrest, scan?_of_point hpoint, scanSign_capitals, scanDigits_capitals,
      scanDigits_capitals, scanPower_capitals]
    split <;> rfl
  · have hnone : ∀ rest, (scanDigits (scanSign s).2).2 ≠ '.' :: rest :=
      fun rest h => hpoint ⟨rest, h⟩
    have hcapital : ∀ rest, (scanDigits (scanSign (capitals s)).2).2 ≠ '.' :: rest := by
      intro rest h
      rw [hrest] at h
      obtain ⟨c, others, heq, hc, -⟩ := List.map_eq_cons_iff.1 h
      rw [toUpper_eq_iff (by decide)] at hc
      exact hnone others (hc ▸ heq)
    rw [scan?_of_ne_point hcapital, scan?_of_ne_point hnone, scanSign_capitals, scanDigits_capitals,
      scanPower_capitals]
    split <;> rfl

theorem exists_sign
    (s : List Char) :
    ∃ sign, s = sign ++ (scanSign s).2 ∧ ∀ c ∈ sign, IsNumberMark c := by
  unfold scanSign
  split
  · exact ⟨['-'], rfl, by simp [IsNumberMark]⟩
  · exact ⟨['+'], rfl, by simp [IsNumberMark]⟩
  · exact ⟨[], rfl, by simp⟩

theorem exists_digits
    (s : List Char) :
    s = (scanDigits s).1 ++ (scanDigits s).2 ∧ ∀ c ∈ (scanDigits s).1, Text.isDecimal c = true :=
  ⟨List.takeWhile_append_dropWhile.symm, fun _ hc => List.mem_takeWhile_imp hc⟩

/-- A power of ten is its letter and marks. -/
theorem exists_power
    (s : List Char) :
    ∃ power, s = power ++ (scanPower s).2
      ∧ (power = [] ∨ ∃ letter more, power = letter :: more ∧ (letter = 'e' ∨ letter = 'E')
        ∧ ∀ c ∈ more, IsNumberMark c) := by
  cases s with
  | nil => exact ⟨[], rfl, .inl rfl⟩
  | cons c s =>
      by_cases hletter : c = 'e' ∨ c = 'E'
      · rw [scanPower_of_letter hletter]
        split
        · exact ⟨[], rfl, .inl rfl⟩
        · obtain ⟨sign, hsign, hsigns⟩ := exists_sign s
          obtain ⟨hdigits, hdecimals⟩ := exists_digits (scanSign s).2
          refine ⟨c :: (sign ++ (scanDigits (scanSign s).2).1), ?_, .inr ⟨c, _, rfl, hletter, ?_⟩⟩
          · rw [List.cons_append, List.append_assoc, ← hdigits, ← hsign]
          · exact List.forall_mem_append.2 ⟨hsigns, fun d hd => .inl (hdecimals d hd)⟩
      · rw [scanPower_of_ne hletter]
        exact ⟨[], rfl, .inl rfl⟩

/-- A number ends in a digit or a point, and its power of ten stands behind that. -/
theorem exists_parts_of_scan?
    {s rest : List Char} {n : Numeral}
    (h : scan? s = some (n, rest)) :
    ∃ front last power, s = front ++ last :: (power ++ rest)
      ∧ (∀ c ∈ front, IsNumberMark c) ∧ (Text.isDecimal last = true ∨ last = '.')
      ∧ (power = [] ∨ ∃ letter more, power = letter :: more ∧ (letter = 'e' ∨ letter = 'E')
        ∧ ∀ c ∈ more, IsNumberMark c) := by
  obtain ⟨sign, hsign, hsigns⟩ := exists_sign s
  obtain ⟨hwhole, hwholes⟩ := exists_digits (scanSign s).2
  have hmarks : ∀ c ∈ sign ++ (scanDigits (scanSign s).2).1, IsNumberMark c :=
    List.forall_mem_append.2 ⟨hsigns, fun c hc => .inl (hwholes c hc)⟩
  by_cases hpoint : ∃ r, (scanDigits (scanSign s).2).2 = '.' :: r
  · obtain ⟨r, hpoint⟩ := hpoint
    obtain ⟨hfraction, hfractions⟩ := exists_digits r
    obtain ⟨power, hpower, hcases⟩ := exists_power (scanDigits r).2
    rw [scan?_of_point hpoint] at h
    split at h
    · cases h
    obtain ⟨-, rfl⟩ := Prod.mk.inj (Option.some.inj h)
    have hs : s = sign ++ ((scanDigits (scanSign s).2).1
        ++ '.' :: ((scanDigits r).1 ++ (power ++ (scanPower (scanDigits r).2).2))) := by
      rw [← hpower, ← hfraction, ← hpoint, ← hwhole]
      exact hsign
    rcases List.eq_nil_or_concat (scanDigits r).1 with hnone | ⟨before, last, hlast⟩
    · rw [hnone, List.nil_append, ← List.append_assoc] at hs
      exact ⟨_, '.', power, hs, hmarks, .inr rfl, hcases⟩
    · rw [hlast, List.concat_eq_append] at hs hfractions
      obtain ⟨hbefore, hdecimal⟩ := List.forall_mem_append.1 hfractions
      refine ⟨sign ++ (scanDigits (scanSign s).2).1 ++ '.' :: before, last, power, ?_, ?_,
        .inl (hdecimal last (by simp)), hcases⟩
      · simpa using hs
      · refine List.forall_mem_append.2 ⟨hmarks, List.forall_mem_cons.2 ⟨?_, ?_⟩⟩
        · exact .inr (.inr (.inr rfl))
        · exact fun c hc => .inl (hbefore c hc)
  · have hnone : ∀ r, (scanDigits (scanSign s).2).2 ≠ '.' :: r := fun r hr => hpoint ⟨r, hr⟩
    obtain ⟨power, hpower, hcases⟩ := exists_power (scanDigits (scanSign s).2).2
    rw [scan?_of_ne_point hnone] at h
    split at h
    · cases h
    next hsome =>
    obtain ⟨-, rfl⟩ := Prod.mk.inj (Option.some.inj h)
    rcases List.eq_nil_or_concat (scanDigits (scanSign s).2).1 with hempty | ⟨before, last, hlast⟩
    · rw [hempty] at hsome
      exact absurd rfl hsome
    · have hs : s = sign ++ ((scanDigits (scanSign s).2).1
          ++ (power ++ (scanPower (scanDigits (scanSign s).2).2).2)) := by
        rw [← hpower, ← hwhole]
        exact hsign
      rw [hlast, List.concat_eq_append] at hs hmarks hwholes
      refine ⟨sign ++ before, last, power, ?_, ?_, .inl (hwholes last (by simp)), hcases⟩
      · simpa using hs
      · rw [← List.append_assoc] at hmarks
        exact (List.forall_mem_append.1 hmarks).1

/-- A scanned number holds marks and the letters of a power of ten only. -/
theorem mem_cases_of_scan?
    {s rest : List Char} {n : Numeral} {c : Char}
    (h : scan? s = some (n, rest))
    (hc : c ∈ s) :
    IsNumberMark c ∨ c = 'e' ∨ c = 'E' ∨ c ∈ rest := by
  obtain ⟨front, last, power, rfl, hfront, hlast, hpower⟩ := exists_parts_of_scan? h
  rcases List.mem_append.1 hc with hc | hc
  · exact .inl (hfront c hc)
  rcases List.mem_cons.1 hc with rfl | hc
  · exact .inl (hlast.imp_right fun hpoint => .inr (.inr hpoint))
  rcases List.mem_append.1 hc with hc | hc
  · rcases hpower with rfl | ⟨letter, more, rfl, hletter, hmore⟩
    · cases hc
    rcases List.mem_cons.1 hc with rfl | hc
    · exact .inr (hletter.imp_right .inl)
    · exact .inl (hmore c hc)
  · exact .inr (.inr (.inr hc))

/-- Where no power of ten can stand, a scanned number holds marks only. -/
theorem isNumberMark_of_scan?
    {s rest : List Char} {n : Numeral} {c : Char}
    (h : scan? s = some (n, rest))
    (hpowers : HasNoPower s)
    (hc : c ∈ s) :
    IsNumberMark c ∨ c ∈ rest := by
  obtain ⟨front, last, power, rfl, hfront, hlast, hpower⟩ := exists_parts_of_scan? h
  rcases hpower with rfl | ⟨letter, more, rfl, hletter, -⟩
  · rw [List.nil_append] at hc
    rcases List.mem_append.1 hc with hc | hc
    · exact .inl (hfront c hc)
    rcases List.mem_cons.1 hc with rfl | hc
    · exact .inl (hlast.imp_right fun hpoint => .inr (.inr hpoint))
    · exact .inr hc
  · have hpart : [last, letter] <:+: front ++ last :: (letter :: more ++ rest) :=
      ⟨front, more ++ rest, by simp⟩
    obtain ⟨hsmall, hcapital⟩ := hpowers last letter hpart hlast
    exact (hletter.elim hsmall hcapital).elim

end Numeral

theorem IsNumberMark.toUpper_eq
    {c : Char}
    (h : IsNumberMark c) :
    c.toUpper = c := by
  rcases h with hdecimal | rfl | rfl | rfl
  · exact Text.toUpper_of_isDecimal hdecimal
  all_goals rfl

/-- A number is scanned up to the end of its text, or up to a last line feed. -/
theorem Number.exists_of_read?
    {s : List Char} {x : Number}
    (h : Number.read? s = .ok (some x)) :
    ∃ n rest, Numeral.scan? (Number.withoutCommas s) = some (n, rest)
      ∧ ∀ c ∈ rest, c = '\n' := by
  unfold Number.read? at h
  split at h
  · next n hscan => exact ⟨n, [], hscan, by simp⟩
  · next n hscan => exact ⟨n, ['\n'], hscan, by simp⟩
  · cases h

/-- A text is the same number in either case. -/
theorem Number.read?_capitals
    (s : List Char) :
    Number.read? (capitals s) = Number.read? s := by
  have hcomma : ∀ c : Char, (c.toUpper != ',') = (c != ',') :=
    fun c => congrArg not (Text.toUpper_beq (by decide) c)
  have hplain : Number.withoutCommas (capitals s) = capitals (Number.withoutCommas s) :=
    Text.filter_capitals hcomma s
  rw [Number.read?, hplain, Numeral.scan?_capitals, Number.read?]
  cases Numeral.scan? (Number.withoutCommas s) with
  | none => rfl
  | some scanned =>
      obtain ⟨n, _ | ⟨c, _ | ⟨d, rest⟩⟩⟩ := scanned
      · rfl
      · by_cases hfeed : c = '\n'
        · rw [hfeed]
          rfl
        · have hcapital : c.toUpper ≠ '\n' := by rwa [ne_eq, toUpper_eq_iff (by decide)]
          simp [Prod.map, hfeed, hcapital]
      · simp [Prod.map]

end Spreadsheet
