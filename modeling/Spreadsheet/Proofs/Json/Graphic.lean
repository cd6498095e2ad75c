import Spreadsheet.Json.Printer
import Spreadsheet.Proofs.Except
import Spreadsheet.Proofs.Json.Number
import Spreadsheet.Proofs.Json.Text
import Spreadsheet.Text.Lines

/-!
# Values on one line

A value that is written on one line, with all characters beyond ASCII escaped, is made of
graphic characters: spaces and the visible characters of ASCII.  No line ends within it,
whatever texts and keys it holds, and each of its characters takes one byte.

Result: a value written in such a layout is graphic (`isGraphic_write`), and so no character
of it is a line end (`Text.IsGraphic.isBreak_eq_false`).
-/

namespace Spreadsheet

/-- A space or a visible character of ASCII. -/
def Text.IsGraphic (c : Char) : Prop := 0x20 ≤ c.toNat ∧ c.toNat < 0x7f

instance (c : Char) : Decidable (Text.IsGraphic c) :=
  inferInstanceAs (Decidable (_ ∧ _))

section Lemmas

namespace Text

theorem IsGraphic.isBreak_eq_false
    {c : Char}
    (h : IsGraphic c) :
    isBreak c = false := by
  obtain ⟨hlow, hhigh⟩ := h
  simp only [isBreak, Bool.or_eq_false_iff, Bool.and_eq_false_iff, decide_eq_false_iff_not,
    beq_eq_false_iff_ne]
  omega

theorem IsGraphic.utf8Size_eq_one
    {c : Char}
    (h : IsGraphic c) :
    c.utf8Size = 1 := by
  rw [Char.utf8Size_eq_one_iff, UInt32.le_iff_toNat_le]
  exact Nat.le_of_lt h.2

theorem isGraphic_of_all
    {s : List Char}
    (h : s.all (fun c => decide (IsGraphic c)) = true) :
    ∀ c ∈ s, IsGraphic c :=
  fun c hc => of_decide_eq_true (List.all_eq_true.1 h c hc)

theorem isGraphic_of_isDigit
    {c : Char}
    (h : c.isDigit = true) :
    IsGraphic c := by
  obtain ⟨hlow, hhigh⟩ := Char.isDigit_iff_toNat.1 h
  exact ⟨Nat.le_trans (by decide) hlow, Nat.lt_of_le_of_lt hhigh (by decide)⟩

theorem isGraphic_digitChar :
    ∀ d, d < 16 → IsGraphic d.digitChar := by
  decide

theorem isGraphic_hexDigits
    (width n : Nat) :
    ∀ c ∈ hexDigits width n, IsGraphic c := by
  induction width generalizing n with
  | zero => simp [hexDigits]
  | succ width ih =>
      rw [hexDigits, List.forall_mem_append, List.forall_mem_singleton]
      exact ⟨ih _, isGraphic_digitChar _ (Nat.mod_lt n (by decide))⟩

end Text

/-- The characters of a numeral are digits, a point, and the marks of its power of ten. -/
theorem Numeral.IsPlain.isGraphic
    {n : Numeral}
    (h : n.IsPlain) :
    ∀ c ∈ Binary64.signText n.negative ++ n.text, Text.IsGraphic c := by
  intro c hc
  rw [Numeral.text, List.mem_append, List.mem_append, List.mem_append] at hc
  rcases hc with hsign | (hwhole | hfraction) | hpower
  · rw [Binary64.eq_of_mem_signText hsign]
    decide
  · exact Text.isGraphic_of_isDigit (h.whole.2 c hwhole)
  · cases hdigits : n.fraction with
    | none => simp [hdigits] at hfraction
    | some digits =>
        rw [hdigits, Option.elim_some, List.mem_cons] at hfraction
        rcases hfraction with rfl | hc
        · decide
        · exact Text.isGraphic_of_isDigit ((h.fraction digits hdigits).2 c hc)
  · cases hdigits : n.power with
    | none => simp [hdigits] at hpower
    | some power =>
        obtain ⟨sign, digits⟩ := power
        rw [hdigits, Option.elim_some, List.mem_cons, List.mem_cons] at hpower
        rcases hpower with rfl | rfl | hc
        · decide
        · cases sign
          · exact (by decide : Text.IsGraphic '+')
          · exact (by decide : Text.IsGraphic '-')
        · exact Text.isGraphic_of_isDigit ((h.power sign digits hdigits).2 c hc)

namespace Json

open Text (IsGraphic)

theorem isGraphic_unitEscape
    (n : Nat) :
    ∀ c ∈ unitEscape n, IsGraphic c := by
  rw [unitEscape, List.forall_mem_cons, List.forall_mem_cons]
  exact ⟨by decide, by decide, Text.isGraphic_hexDigits 4 n⟩

theorem isGraphic_wideEscape
    (n : Nat) :
    ∀ c ∈ wideEscape n, IsGraphic c := by
  unfold wideEscape
  split
  · exact isGraphic_unitEscape n
  · exact List.forall_mem_append.2 ⟨isGraphic_unitEscape _, isGraphic_unitEscape _⟩

/-- What follows a backslash is graphic. -/
theorem isGraphic_of_escaped?
    {e c : Char}
    (h : escaped? e = some c) :
    IsGraphic e := by
  unfold escaped? at h
  split at h
  any_goals decide
  cases h

/-- A character that is not graphic is escaped. -/
theorem isGraphic_escape
    (c : Char) :
    ∀ d ∈ escape true c, IsGraphic d := by
  rcases escape_cases true c with ⟨e, h, he, -⟩ | h | ⟨h, -, -, hlow, hhigh⟩
  · rw [h]
    exact List.forall_mem_cons.2
      ⟨by decide, List.forall_mem_singleton.2 (isGraphic_of_escaped? he)⟩
  · rw [h]
    exact isGraphic_wideEscape c.toNat
  · rw [h]
    exact List.forall_mem_singleton.2 ⟨hlow, hhigh rfl⟩

theorem isGraphic_quotedText
    (s : String) :
    ∀ c ∈ (quotedText true s).toList, IsGraphic c := by
  intro c hc
  rw [quotedText, String.toList_ofList, List.mem_append, List.mem_cons, List.mem_singleton,
    List.mem_flatMap] at hc
  rcases hc with (rfl | ⟨d, -, hc⟩) | rfl
  · decide
  · exact isGraphic_escape d c hc
  · decide

theorem isGraphic_numberText
    {layout : Layout} {x : Number} {text : String}
    (h : numberText layout x = .ok text) :
    ∀ c ∈ text.toList, IsGraphic c := by
  cases x with
  | int i =>
      obtain ⟨-, rfl⟩ := integerText_eq_ok h
      rw [toList_repr]
      exact (isPlain_integer i).isGraphic
  | float x =>
      rw [numberText] at h
      split at h
      · cases h
      · obtain rfl := Except.ok.inj h
        rw [String.toList_ofList]
        cases hx : x.isFinite with
        | true =>
            have hending : numberStyle.wholeEnding = ".0" := rfl
            obtain ⟨n, hplain, -, hnumeral, -⟩ := Binary64.exists_numeral hx (.inl hending)
            rw [hnumeral]
            exact hplain.isGraphic
        | false =>
            cases x with
            | finite negative units fits => simp [Binary64.isFinite] at hx
            | infinite negative => cases negative <;> exact Text.isGraphic_of_all (by decide)
            | nan => exact Text.isGraphic_of_all (by decide)

/-- Parts with a text between them. -/
theorem isGraphic_intercalate
    {separator : List Char} {parts : List (List Char)}
    (hseparator : ∀ c ∈ separator, IsGraphic c)
    (hparts : ∀ part ∈ parts, ∀ c ∈ part, IsGraphic c) :
    ∀ c ∈ separator.intercalate parts, IsGraphic c := by
  induction parts with
  | nil => simp
  | cons part parts ih =>
      have hpart := hparts part List.mem_cons_self
      have hrest := ih fun other hother => hparts other (List.mem_cons_of_mem _ hother)
      cases parts with
      | nil =>
          rw [List.intercalate_singleton]
          exact hpart
      | cons second parts =>
          rw [List.intercalate_cons_cons, List.forall_mem_append, List.forall_mem_append]
          exact ⟨⟨hpart, hseparator⟩, hrest⟩

/-- Parts between brackets stay on their line. -/
theorem isGraphic_bracket
    {layout : Layout} {depth : Nat} {opening closing : String} {parts : List String}
    (hline : layout.indent = none)
    (hopening : ∀ c ∈ opening.toList, IsGraphic c)
    (hclosing : ∀ c ∈ closing.toList, IsGraphic c)
    (hparts : ∀ part ∈ parts, ∀ c ∈ part.toList, IsGraphic c) :
    ∀ c ∈ (bracket layout depth opening closing parts).toList, IsGraphic c := by
  have hinner : ∀ c ∈ [',', ' '].intercalate (parts.map String.toList), IsGraphic c := by
    refine isGraphic_intercalate (Text.isGraphic_of_all (by decide)) fun part hpart => ?_
    obtain ⟨text, htext, rfl⟩ := List.mem_map.1 hpart
    exact hparts text htext
  unfold bracket
  rw [hline]
  split
  · rw [String.toList_append, List.forall_mem_append]
    exact ⟨hopening, hclosing⟩
  · rw [String.toList_append, String.toList_append, String.toList_intercalate,
      List.forall_mem_append, List.forall_mem_append]
    exact ⟨⟨hopening, hinner⟩, hclosing⟩

mutual

/-- A value written on one line is graphic. -/
theorem isGraphic_write
    {layout : Layout} {depth : Nat} {value : Json} {text : String}
    (hline : layout.indent = none)
    (hascii : layout.asciiOnly = true)
    (h : write layout depth value = .ok text) :
    ∀ c ∈ text.toList, IsGraphic c := by
  cases value with
  | null =>
      obtain rfl := Except.ok.inj h
      exact Text.isGraphic_of_all (by decide)
  | bool b =>
      cases b with
      | true =>
          obtain rfl := Except.ok.inj h
          exact Text.isGraphic_of_all (by decide)
      | false =>
          obtain rfl := Except.ok.inj h
          exact Text.isGraphic_of_all (by decide)
  | number x => exact isGraphic_numberText h
  | text s =>
      obtain rfl := Except.ok.inj h
      rw [hascii]
      exact isGraphic_quotedText s
  | array items =>
      rw [write] at h
      obtain ⟨texts, htexts, h⟩ := bind_eq_ok_iff.1 h
      obtain rfl := Except.ok.inj h
      have hparts := isGraphic_writeItems hline hascii htexts
      exact isGraphic_bracket hline (Text.isGraphic_of_all (by decide))
        (Text.isGraphic_of_all (by decide)) hparts
  | object fields =>
      rw [write] at h
      obtain ⟨texts, htexts, h⟩ := bind_eq_ok_iff.1 h
      obtain rfl := Except.ok.inj h
      have hparts := isGraphic_writeFields hline hascii htexts
      exact isGraphic_bracket hline (Text.isGraphic_of_all (by decide))
        (Text.isGraphic_of_all (by decide)) hparts

theorem isGraphic_writeItems
    {layout : Layout} {depth : Nat} {items : List Json} {texts : List String}
    (hline : layout.indent = none)
    (hascii : layout.asciiOnly = true)
    (h : writeItems layout depth items = .ok texts) :
    ∀ text ∈ texts, ∀ c ∈ text.toList, IsGraphic c := by
  cases items with
  | nil =>
      obtain rfl := Except.ok.inj h
      simp
  | cons item items =>
      rw [writeItems] at h
      obtain ⟨text, htext, h⟩ := bind_eq_ok_iff.1 h
      obtain ⟨rest, hrest, h⟩ := bind_eq_ok_iff.1 h
      obtain rfl := Except.ok.inj h
      exact List.forall_mem_cons.2
        ⟨isGraphic_write hline hascii htext, isGraphic_writeItems hline hascii hrest⟩

theorem isGraphic_writeFields
    {layout : Layout} {depth : Nat} {fields : List (String × Json)} {texts : List String}
    (hline : layout.indent = none)
    (hascii : layout.asciiOnly = true)
    (h : writeFields layout depth fields = .ok texts) :
    ∀ text ∈ texts, ∀ c ∈ text.toList, IsGraphic c := by
  cases fields with
  | nil =>
      obtain rfl := Except.ok.inj h
      simp
  | cons field fields =>
      obtain ⟨key, value⟩ := field
      rw [writeFields] at h
      obtain ⟨text, htext, h⟩ := bind_eq_ok_iff.1 h
      obtain ⟨rest, hrest, h⟩ := bind_eq_ok_iff.1 h
      obtain rfl := Except.ok.inj h
      refine List.forall_mem_cons.2 ⟨?_, isGraphic_writeFields hline hascii hrest⟩
      rw [hascii, String.toList_append, String.toList_append, List.forall_mem_append,
        List.forall_mem_append]
      exact ⟨⟨isGraphic_quotedText key, Text.isGraphic_of_all (by decide)⟩,
        isGraphic_write hline hascii htext⟩

end

end Json

end Lemmas

end Spreadsheet
