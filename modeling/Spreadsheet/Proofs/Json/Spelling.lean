import Spreadsheet.Proofs.Except
import Spreadsheet.Proofs.Json.Number
import Spreadsheet.Proofs.Json.Text

/-!
# The tokens of a written value

However a value is laid out, on one line or indented, its text is made of the
same tokens.

Result: the tokens of a written value are those that spell it (`spells_write`).
-/

namespace Spreadsheet
namespace Json

mutual

/-- The tokens that spell a value. -/
def spelling : Json → List Token
  | .null => [.null]
  | .bool b => [.bool b]
  | .number x => [.number x]
  | .text s => [.text s]
  | .array items => .openArray :: ([Token.comma].intercalate (itemSpellings items) ++ [.closeArray])
  | .object fields =>
      .openObject :: ([Token.comma].intercalate (fieldSpellings fields) ++ [.closeObject])

/-- The tokens of each item of an array. -/
def itemSpellings : List Json → List (List Token)
  | [] => []
  | item :: rest => spelling item :: itemSpellings rest

/-- The tokens of each field of an object. -/
def fieldSpellings : List (String × Json) → List (List Token)
  | [] => []
  | (key, value) :: rest => (.text key :: .colon :: spelling value) :: fieldSpellings rest

end

/-- The characters have these tokens whatever follows, as long as it does not go
on with a number. -/
def Spells (s : List Char) (ts : List Token) : Prop :=
  ∀ rest, EndsNumber rest → tokens (s ++ rest) = ts ++ tokens rest

/-- All characters are blanks between tokens. -/
def IsGaps (s : List Char) : Prop := ∀ c ∈ s, isGap c = true

section Lemmas

theorem tokens_gaps
    {gaps : List Char}
    (h : IsGaps gaps)
    (s : List Char) :
    tokens (gaps ++ s) = tokens s := by
  induction gaps with
  | nil => rfl
  | cons c gaps ih =>
      rw [List.cons_append, tokens, if_pos (h c (by simp))]
      exact ih fun d hd => h d (List.mem_cons_of_mem _ hd)

theorem tokens_scanToken
    {c : Char} {s rest : List Char} {t : Token}
    (hc : isGap c = false)
    (hscan : scanToken (c :: s ++ rest) = (t, rest)) :
    tokens (c :: s ++ rest) = t :: tokens rest := by
  rw [List.cons_append] at hscan ⊢
  rw [tokens, if_neg (by simp [hc])]
  simp only [hscan]
  rw [dif_pos]
  simp only [List.length_cons, List.length_append]
  omega

theorem endsNumber_gaps
    {gaps s : List Char}
    (h : IsGaps gaps)
    (hs : EndsNumber s) :
    EndsNumber (gaps ++ s) := by
  cases gaps with
  | nil => exact hs
  | cons c gaps =>
      have hc := h c (by simp)
      refine endsNumber_cons ?_ _
      simp only [isGap, Bool.or_eq_true, beq_iff_eq] at hc
      rcases hc with ((rfl | rfl) | rfl) | rfl <;> decide

theorem isGaps_space :
    IsGaps [' '] := by
  simp [IsGaps, isGap]

theorem isGaps_lineBreak
    (width depth : Nat) :
    IsGaps (lineBreak width depth).toList := by
  intro c hc
  rw [lineBreak, String.toList_ofList] at hc
  rcases List.mem_cons.1 hc with rfl | hc
  · rfl
  · rw [List.eq_of_mem_replicate hc]
    rfl

theorem tokens_quotedText
    (asciiOnly : Bool) (s : String) (rest : List Char) :
    tokens ((quotedText asciiOnly s).toList ++ rest) = .text s :: tokens rest := by
  have hscan : scanToken ('"' :: (s.toList.flatMap (escape asciiOnly) ++ ['"']) ++ rest)
      = (.text s, rest) := by
    rw [List.cons_append, List.append_assoc, List.singleton_append]
    unfold scanToken
    simp only [scanText_flatMap_escape, List.reverse_nil, List.nil_append, String.ofList_toList]
  rw [quotedText, String.toList_ofList, List.cons_append]
  exact tokens_scanToken (by decide) hscan

theorem spells_quotedText
    (asciiOnly : Bool) (s : String) :
    Spells (quotedText asciiOnly s).toList [.text s] :=
  fun rest _ => tokens_quotedText asciiOnly s rest

theorem scanToken_gap
    {c : Char}
    (hc : isGap c = true)
    (s : List Char) :
    scanToken (c :: s) = (.stray, []) := by
  simp only [isGap, Bool.or_eq_true, beq_iff_eq] at hc
  rcases hc with ((rfl | rfl) | rfl) | rfl <;> rfl

theorem spells_numberText
    {layout : Layout} {x : Number} {text : String}
    (h : numberText layout x = .ok text) :
    Spells text.toList [.number x] := by
  have hnumber := scanToken_numberText h endsNumber_nil
  rw [List.append_nil] at hnumber
  intro rest hrest
  have hscan := scanToken_numberText h hrest
  cases htext : text.toList with
  | nil =>
      rw [htext] at hnumber
      exact absurd (Prod.mk.inj hnumber).1 (by simp)
  | cons c s =>
      rw [htext] at hnumber hscan
      cases hc : isGap c with
      | true =>
          rw [scanToken_gap hc] at hnumber
          exact absurd (Prod.mk.inj hnumber).1 (by simp)
      | false => exact tokens_scanToken hc hscan

/-- A bracket or separator. -/
theorem tokens_mark
    {c : Char} {t : Token}
    (hc : isGap c = false)
    (hscan : ∀ r, scanToken (c :: r) = (t, r))
    (s : List Char) :
    tokens (c :: s) = t :: tokens s :=
  tokens_scanToken (s := []) hc (hscan s)

theorem spells_field
    {text : String} {spelling : List Token}
    (asciiOnly : Bool) (key : String)
    (h : Spells text.toList spelling) :
    Spells (quotedText asciiOnly key ++ ": " ++ text).toList (.text key :: .colon :: spelling) := by
  intro rest hrest
  have hcolon : ∀ s, tokens (':' :: s) = .colon :: tokens s :=
    tokens_mark (by decide) fun _ => rfl
  have hgap : ∀ s, tokens (' ' :: s) = tokens s := fun s =>
    tokens_gaps isGaps_space s
  simp only [String.toList_append, List.append_assoc, tokens_quotedText]
  simp [hcolon, hgap, h rest hrest]

/-- Parts with commas between them. -/
theorem spells_intercalate
    {gaps : List Char} {parts : List (List Char)} {spellings : List (List Token)}
    (hgaps : IsGaps gaps)
    (h : List.Forall₂ Spells parts spellings) :
    Spells ((',' :: gaps).intercalate parts) ([Token.comma].intercalate spellings) := by
  induction h with
  | nil => exact fun rest _ => rfl
  | cons hfirst hrest ih =>
      cases hrest with
      | nil =>
          rw [List.intercalate_singleton, List.intercalate_singleton]
          exact hfirst
      | cons hsecond hmore =>
          intro rest hends
          have hcomma : ∀ s, tokens (',' :: s) = .comma :: tokens s :=
            tokens_mark (by decide) fun _ => rfl
          simp only [List.intercalate_cons_cons, List.append_assoc, List.cons_append]
          rw [hfirst _ (endsNumber_cons (by decide) _), hcomma, tokens_gaps hgaps, ih rest hends]
          rfl

/-- Parts between brackets, on one line or not. -/
theorem tokens_bracket
    {layout : Layout} {depth : Nat} {opening closing : Char} {opens closes : Token}
    {parts : List String} {spellings : List (List Token)}
    (hopening : ∀ s, tokens (opening :: s) = opens :: tokens s)
    (hclosing : ∀ s, tokens (closing :: s) = closes :: tokens s)
    (hends : ∀ s, EndsNumber (closing :: s))
    (h : List.Forall₂ Spells (parts.map String.toList) spellings)
    (rest : List Char) :
    tokens ((bracket layout depth (String.singleton opening) (String.singleton closing)
        parts).toList ++ rest)
      = opens :: ([Token.comma].intercalate spellings ++ [closes]) ++ tokens rest := by
  unfold bracket
  split
  · next hempty =>
      obtain rfl := List.isEmpty_iff.1 hempty
      cases h
      simp [hopening, hclosing]
  · split
    · have hparts := spells_intercalate isGaps_space h
      simp [hopening, hparts _ (hends _), hclosing]
    · next width _ =>
        have hparts := spells_intercalate (isGaps_lineBreak width (depth + 1)) h
        have hbreak : ∀ s, tokens ((lineBreak width depth).toList ++ s) = tokens s :=
          tokens_gaps (isGaps_lineBreak width depth)
        have hbreak' : ∀ s, tokens ((lineBreak width (depth + 1)).toList ++ s) = tokens s :=
          tokens_gaps (isGaps_lineBreak width (depth + 1))
        have hafter := endsNumber_gaps (isGaps_lineBreak width depth) (hends rest)
        simp [hopening, hbreak, hbreak', hparts _ hafter, hclosing]

theorem spells_of_scanToken
    {c : Char} {s : List Char} {t : Token}
    (hc : isGap c = false)
    (hscan : ∀ rest, scanToken (c :: s ++ rest) = (t, rest)) :
    Spells (c :: s) [t] :=
  fun rest _ => tokens_scanToken hc (hscan rest)

mutual

/-- The tokens of a written value are those that spell it. -/
theorem spells_write
    {layout : Layout} {depth : Nat} {value : Json} {text : String}
    (h : write layout depth value = .ok text) :
    Spells text.toList (spelling value) := by
  cases value with
  | null =>
      obtain rfl := Except.ok.inj h
      exact spells_of_scanToken (by decide) fun _ => rfl
  | bool b =>
      cases b with
      | true =>
          obtain rfl := Except.ok.inj h
          exact spells_of_scanToken (by decide) fun _ => rfl
      | false =>
          obtain rfl := Except.ok.inj h
          exact spells_of_scanToken (by decide) fun _ => rfl
  | number x => exact spells_numberText h
  | text s =>
      obtain rfl := Except.ok.inj h
      exact spells_quotedText layout.asciiOnly s
  | array items =>
      rw [write] at h
      obtain ⟨texts, htexts, h⟩ := bind_eq_ok_iff.1 h
      obtain rfl := Except.ok.inj h
      have hopening : ∀ s, tokens ('[' :: s) = .openArray :: tokens s :=
        tokens_mark (by decide) fun _ => rfl
      have hclosing : ∀ s, tokens (']' :: s) = .closeArray :: tokens s :=
        tokens_mark (by decide) fun _ => rfl
      exact fun rest _ => tokens_bracket hopening hclosing (endsNumber_cons (by decide))
        (spells_writeItems htexts) rest
  | object fields =>
      rw [write] at h
      obtain ⟨texts, htexts, h⟩ := bind_eq_ok_iff.1 h
      obtain rfl := Except.ok.inj h
      have hopening : ∀ s, tokens ('\x7b' :: s) = .openObject :: tokens s :=
        tokens_mark (by decide) fun _ => rfl
      have hclosing : ∀ s, tokens ('\x7d' :: s) = .closeObject :: tokens s :=
        tokens_mark (by decide) fun _ => rfl
      exact fun rest _ => tokens_bracket hopening hclosing (endsNumber_cons (by decide))
        (spells_writeFields htexts) rest

theorem spells_writeItems
    {layout : Layout} {depth : Nat} {items : List Json} {texts : List String}
    (h : writeItems layout depth items = .ok texts) :
    List.Forall₂ Spells (texts.map String.toList) (itemSpellings items) := by
  cases items with
  | nil =>
      obtain rfl := Except.ok.inj h
      exact .nil
  | cons item items =>
      rw [writeItems] at h
      obtain ⟨text, htext, h⟩ := bind_eq_ok_iff.1 h
      obtain ⟨rest, hrest, h⟩ := bind_eq_ok_iff.1 h
      obtain rfl := Except.ok.inj h
      exact .cons (spells_write htext) (spells_writeItems hrest)

theorem spells_writeFields
    {layout : Layout} {depth : Nat} {fields : List (String × Json)} {texts : List String}
    (h : writeFields layout depth fields = .ok texts) :
    List.Forall₂ Spells (texts.map String.toList) (fieldSpellings fields) := by
  cases fields with
  | nil =>
      obtain rfl := Except.ok.inj h
      exact .nil
  | cons field fields =>
      obtain ⟨key, value⟩ := field
      rw [writeFields] at h
      obtain ⟨text, htext, h⟩ := bind_eq_ok_iff.1 h
      obtain ⟨rest, hrest, h⟩ := bind_eq_ok_iff.1 h
      obtain rfl := Except.ok.inj h
      refine .cons ?_ (spells_writeFields hrest)
      exact spells_field layout.asciiOnly key (spells_write htext)

end

end Lemmas

end Json
end Spreadsheet
