import Spreadsheet.Json.Printer
import Spreadsheet.Json.Token

/-!
# Texts between quotes

A text is written with some of its characters escaped, and read by undoing the
escapes.  Two escapes in a row may make up one character; this cannot go wrong,
since an escape that is written on its own is never the first half of a pair.

Result: a written text is read as itself (`scanText_flatMap_escape`).
-/

namespace Spreadsheet
namespace Json

section Lemmas

theorem hexDigit?_digitChar :
    ∀ d, d < 16 → hexDigit? d.digitChar = some d := by
  decide

/-- Four hexadecimal digits write the number they were made from. -/
theorem hexUnit?_hexDigits
    {n : Nat}
    (hn : n < 0x10000) :
    ∃ a b c d, Text.hexDigits 4 n = [a, b, c, d] ∧ hexUnit? a b c d = some n := by
  refine ⟨_, _, _, _, rfl, ?_⟩
  have hlt : ∀ m, m % 16 < 16 := fun m => Nat.mod_lt m (by decide)
  unfold hexUnit?
  simp only [hexDigit?_digitChar _ (hlt _), Option.bind_eq_bind, Option.bind_some, Option.pure_def,
    Option.some.injEq]
  omega

/-- What follows an escape is no damaged one. -/
def IsSound (s : List Char) : Prop :=
  ∀ a b c d r, s = '\\' :: 'u' :: a :: b :: c :: d :: r → (hexUnit? a b c d).isSome = true

theorem scanText_unitEscape
    {n : Nat} {done s : List Char}
    (hn : n < 0x10000)
    (hhigh : isHighUnit n = false)
    (hs : IsSound s) :
    scanText done (unitEscape n ++ s) = scanText (charOfCode n :: done) s := by
  obtain ⟨a, b, c, d, hdigits, hunit⟩ := hexUnit?_hexDigits hn
  simp only [unitEscape, hdigits, List.cons_append, List.nil_append]
  rw [scanText.eq_def]
  split
  · simp_all
  · simp_all
  · next h =>
      simp only [List.cons.injEq, true_and] at h
      obtain ⟨rfl, rfl, rfl, rfl, rfl⟩ := h
      obtain ⟨low, hlow⟩ := Option.isSome_iff_exists.1 (hs _ _ _ _ _ rfl)
      simp only [hunit, hlow, hhigh, Bool.false_and, Bool.false_eq_true, if_false]
  · next h =>
      simp only [List.cons.injEq, true_and] at h
      obtain ⟨rfl, rfl, rfl, rfl, rfl⟩ := h
      simp only [hunit]
  · next hne h =>
      simp only [List.cons.injEq, true_and] at h
      obtain ⟨rfl, rfl⟩ := h
      exact absurd rfl (hne _ _ _ _ _ rfl)
  · next hne h =>
      obtain ⟨rfl, rfl⟩ := List.cons.inj h
      exact absurd rfl (hne _ _ rfl)

theorem scanText_pair
    {high low : Nat} {done s : List Char}
    (hhigh : isHighUnit high = true)
    (hlow : isLowUnit low = true) :
    scanText done (unitEscape high ++ (unitEscape low ++ s))
      = scanText (charOfCode (0x10000 + (high - 0xd800) * 0x400 + (low - 0xdc00)) :: done) s := by
  have hhigh' : high < 0x10000 := by
    simp only [isHighUnit, Bool.and_eq_true, decide_eq_true_eq] at hhigh
    omega
  have hlow' : low < 0x10000 := by
    simp only [isLowUnit, Bool.and_eq_true, decide_eq_true_eq] at hlow
    omega
  obtain ⟨a, b, c, d, hdigits, hunit⟩ := hexUnit?_hexDigits hhigh'
  obtain ⟨a', b', c', d', hdigits', hunit'⟩ := hexUnit?_hexDigits hlow'
  simp only [unitEscape, hdigits, hdigits', List.cons_append, List.nil_append]
  rw [scanText]
  simp only [hunit, hunit', hhigh, hlow, Bool.and_self, if_true]

theorem charOfCode_toNat
    (c : Char) :
    charOfCode c.toNat = c := by
  have hvalid : c.toNat.isValidChar := c.valid
  rw [charOfCode, if_pos hvalid, Char.ofNat_toNat]

theorem isHighUnit_toNat
    (c : Char) :
    isHighUnit c.toNat = false := by
  have hvalid : c.toNat.isValidChar := c.valid
  unfold Nat.isValidChar at hvalid
  simp only [isHighUnit, Bool.and_eq_false_iff, decide_eq_false_iff_not]
  omega

theorem scanText_wideEscape
    {c : Char} {done s : List Char}
    (hs : IsSound s) :
    scanText done (wideEscape c.toNat ++ s) = scanText (c :: done) s := by
  have hvalid : c.toNat.isValidChar := c.valid
  unfold Nat.isValidChar at hvalid
  unfold wideEscape
  split
  · next h => rw [scanText_unitEscape h (isHighUnit_toNat c) hs, charOfCode_toNat]
  · next h =>
      have hhigh : isHighUnit (0xd800 + (c.toNat - 0x10000) / 0x400) = true := by
        simp only [isHighUnit, Bool.and_eq_true, decide_eq_true_eq]
        omega
      have hlow : isLowUnit (0xdc00 + (c.toNat - 0x10000) % 0x400) = true := by
        simp only [isLowUnit, Bool.and_eq_true, decide_eq_true_eq]
        omega
      have hcode : 0x10000 + (0xd800 + (c.toNat - 0x10000) / 0x400 - 0xd800) * 0x400
          + (0xdc00 + (c.toNat - 0x10000) % 0x400 - 0xdc00) = c.toNat := by
        omega
      rw [List.append_assoc, scanText_pair hhigh hlow, hcode, charOfCode_toNat]

theorem scanText_escaped
    {c e : Char} {done s : List Char}
    (he : escaped? e = some c)
    (hu : e ≠ 'u') :
    scanText done ('\\' :: e :: s) = scanText (c :: done) s := by
  rw [scanText.eq_def]
  split
  · simp_all
  · simp_all
  · next h =>
      simp only [List.cons.injEq, true_and] at h
      exact absurd h.1 hu
  · next h =>
      simp only [List.cons.injEq, true_and] at h
      exact absurd h.1 hu
  · next h =>
      simp only [List.cons.injEq, true_and] at h
      obtain ⟨rfl, rfl⟩ := h
      rw [he]
  · next hne h =>
      obtain ⟨rfl, rfl⟩ := List.cons.inj h
      exact absurd rfl (hne _ _ rfl)

theorem scanText_plain
    {c : Char} {done s : List Char}
    (hq : c ≠ '"')
    (hb : c ≠ '\\')
    (hc : 0x20 ≤ c.toNat) :
    scanText done (c :: s) = scanText (c :: done) s := by
  rw [scanText.eq_def]
  split
  · simp_all
  · simp_all
  · simp_all
  · simp_all
  · simp_all
  · next h =>
      obtain ⟨rfl, rfl⟩ := List.cons.inj h
      rw [if_neg (Nat.not_lt.2 hc)]

/-- The ways in which a character is written. -/
theorem escape_cases
    (asciiOnly : Bool) (c : Char) :
    (∃ e, escape asciiOnly c = ['\\', e] ∧ escaped? e = some c ∧ e ≠ 'u')
      ∨ escape asciiOnly c = wideEscape c.toNat
      ∨ escape asciiOnly c = [c] ∧ c ≠ '"' ∧ c ≠ '\\' ∧ 0x20 ≤ c.toNat
        ∧ (asciiOnly = true → c.toNat < 0x7f) := by
  unfold escape
  split
  · next h => exact .inl ⟨_, rfl, by rw [h]; rfl, by decide⟩
  split
  · next h => exact .inl ⟨_, rfl, by rw [h]; rfl, by decide⟩
  split
  · next h => exact .inl ⟨_, rfl, by rw [h]; rfl, by decide⟩
  split
  · next h => exact .inl ⟨_, rfl, by rw [h]; rfl, by decide⟩
  split
  · next h => exact .inl ⟨_, rfl, by rw [h]; rfl, by decide⟩
  split
  · next h => exact .inl ⟨_, rfl, by rw [h]; rfl, by decide⟩
  split
  · next h => exact .inl ⟨_, rfl, by rw [h]; rfl, by decide⟩
  split
  · next h =>
      right
      left
      rw [wideEscape, if_pos (by omega)]
  · next hq hb _ _ _ _ _ hc =>
      right
      split
      · exact .inl rfl
      · next hwide =>
          refine .inr ⟨rfl, hq, hb, Nat.not_lt.1 hc, fun hascii => ?_⟩
          rw [hascii, Bool.true_and, decide_eq_true_eq] at hwide
          exact Nat.not_le.1 hwide

/-- A written character is read as itself. -/
theorem scanText_escape
    {asciiOnly : Bool} {c : Char} {done s : List Char}
    (hs : IsSound s) :
    scanText done (escape asciiOnly c ++ s) = scanText (c :: done) s := by
  rcases escape_cases asciiOnly c with ⟨e, h, he, hu⟩ | h | ⟨h, hq, hb, hc, -⟩
  · rw [h]
    exact scanText_escaped he hu
  · rw [h]
    exact scanText_wideEscape hs
  · rw [h]
    exact scanText_plain hq hb hc

theorem isSound_unitEscape
    {n : Nat}
    (hn : n < 0x10000)
    (s : List Char) :
    IsSound (unitEscape n ++ s) := by
  obtain ⟨a, b, c, d, hdigits, hunit⟩ := hexUnit?_hexDigits hn
  intro a' b' c' d' r h
  simp only [unitEscape, hdigits, List.cons_append, List.nil_append, List.cons.injEq,
    true_and] at h
  obtain ⟨rfl, rfl, rfl, rfl, -⟩ := h
  rw [hunit]
  rfl

theorem isSound_wideEscape
    (c : Char) (s : List Char) :
    IsSound (wideEscape c.toNat ++ s) := by
  have hvalid : c.toNat.isValidChar := c.valid
  unfold Nat.isValidChar at hvalid
  unfold wideEscape
  split
  · next h => exact isSound_unitEscape h s
  · rw [List.append_assoc]
    exact isSound_unitEscape (by omega) _

theorem isSound_of_ne
    {c : Char}
    (hc : c ≠ '\\')
    (s : List Char) :
    IsSound (c :: s) := by
  intro a b c' d r h
  exact absurd (List.cons.inj h).1 hc

theorem isSound_escape
    (asciiOnly : Bool) (c : Char) (s : List Char) :
    IsSound (escape asciiOnly c ++ s) := by
  rcases escape_cases asciiOnly c with ⟨e, h, -, hu⟩ | h | ⟨h, -, hb, -⟩
  · rw [h]
    intro a b c' d r hr
    exact absurd (List.cons.inj (List.cons.inj hr).2).1 hu
  · rw [h]
    exact isSound_wideEscape c s
  · rw [h]
    exact isSound_of_ne hb s

theorem isSound_flatMap_escape
    (asciiOnly : Bool) (cs rest : List Char) :
    IsSound (cs.flatMap (escape asciiOnly) ++ '"' :: rest) := by
  cases cs with
  | nil => exact isSound_of_ne (by decide) rest
  | cons c cs =>
      rw [List.flatMap_cons, List.append_assoc]
      exact isSound_escape asciiOnly c _

/-- A written text is read as itself. -/
theorem scanText_flatMap_escape
    (asciiOnly : Bool) (cs done rest : List Char) :
    scanText done (cs.flatMap (escape asciiOnly) ++ '"' :: rest)
      = some (done.reverse ++ cs, rest) := by
  induction cs generalizing done with
  | nil =>
      rw [List.flatMap_nil, List.nil_append, scanText, List.append_nil]
  | cons c cs ih =>
      rw [List.flatMap_cons, List.append_assoc,
        scanText_escape (isSound_flatMap_escape asciiOnly cs rest), ih]
      simp

end Lemmas

end Json
end Spreadsheet
