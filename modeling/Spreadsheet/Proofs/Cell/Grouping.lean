import Spreadsheet.Proofs.Cell.Retyping
import Spreadsheet.Proofs.Number.LongInteger

/-!
# Integers with their thousands grouped

Digits are grouped from the end, so what stands in front of a group is grouped in turn.  In the
reversed text that is the rest, and there the induction goes from group to group.  A minus sign
comes last in it, where no group follows.

Results: commas stand in front of the complete groups of three digits that others precede, and
nowhere else (`isGrouped_groupThousands`), and a grouped integer is read as itself
(`reads_grouped_integer`).
-/

namespace Spreadsheet

/-- A comma stands in front of every complete group of three digits, counted from the end, that
other digits precede, and nowhere else. -/
structure IsGrouped (text : List Char) : Prop where
  comma_iff :
    ∀ front c rest, text = front ++ c :: rest → c.isDigit = true →
      (front.getLast? = some ','
        ↔ 3 ∣ (c :: rest).countP Char.isDigit ∧ ∃ d ∈ front, d.isDigit = true)
  isDigit : ∀ front rest, text = front ++ ',' :: rest → ∃ c ∈ rest.head?, c.isDigit = true

section Groups

variable {s front rest sign text : List Char} {c : Char}

/-- No comma stands at the front. -/
theorem IsGrouped.head?_ne
    (h : IsGrouped text) :
    text.head? ≠ some ',' := by
  intro hhead
  obtain ⟨rest, rfl⟩ := List.head?_eq_some_iff.1 hhead
  obtain ⟨c, hc, hdigit⟩ := h.isDigit [] rest rfl
  obtain ⟨rest, rfl⟩ := List.head?_eq_some_iff.1 hc
  obtain ⟨-, d, hd, hcomma⟩ := (h.comma_iff [','] c rest rfl hdigit).1 rfl
  obtain rfl := List.mem_singleton.1 hd
  cases hcomma

theorem ne_comma_of_isDigit
    (h : c.isDigit = true) :
    c ≠ ',' := by
  rintro rfl
  cases h

theorem mem_groupThrees
    (hc : c ≠ ',') :
    c ∈ groupThrees s ↔ c ∈ s := by
  have hfilter := congrArg (c ∈ ·) (filter_groupThrees (p := (· != ',')) (by decide) s)
  simpa [hc] using hfilter

/-! The reversed text: the groups from the last to the first, and then what is no digit. -/

/-- At most three digits are one group, which no other follows. -/
theorem comma_iff_of_length_le
    (hs : ∀ d ∈ s, d.isDigit = true)
    (hsign : ∀ d ∈ sign, d.isDigit = false ∧ d ≠ ',')
    (hlength : s.length ≤ 3)
    (htext : s ++ sign = front ++ c :: rest)
    (hc : c.isDigit = true) :
    rest.head? = some ','
      ↔ 3 ∣ (front ++ [c]).countP Char.isDigit ∧ ∃ d ∈ rest, d.isDigit = true := by
  have hnone : ∀ d ∈ s ++ sign, d ≠ ',' := by
    intro d hd
    rcases List.mem_append.1 hd with hd | hd
    · exact ne_comma_of_isDigit (hs d hd)
    · exact (hsign d hd).2
  have hhead : rest.head? ≠ some ',' := fun hhead =>
    hnone ',' (htext ▸ by simp [List.mem_of_head? hhead]) rfl
  rw [iff_false_left hhead]
  rintro ⟨hcount, d, hd, hdigit⟩
  -- One digit is counted and one is in the rest, so no three are counted.
  have hdigits : (front ++ [c]).countP Char.isDigit + rest.countP Char.isDigit ≤ 3 := by
    have hsame := congrArg (List.countP Char.isDigit) htext
    have hzero : sign.countP Char.isDigit = 0 := List.countP_eq_zero.2 fun d hd => by
      simp [(hsign d hd).1]
    have hle : s.countP Char.isDigit ≤ s.length := List.countP_le_length
    rw [List.append_cons front, List.countP_append, List.countP_append, hzero] at hsame
    omega
  have hpos : 0 < (front ++ [c]).countP Char.isDigit := List.countP_pos_iff.2 ⟨c, by simp, hc⟩
  have hrest : 0 < rest.countP Char.isDigit := List.countP_pos_iff.2 ⟨d, hd, hdigit⟩
  have := Nat.le_of_dvd hpos hcount
  omega

/-- A comma follows a digit where that completes a group and is not the last. -/
theorem comma_iff_groupThrees
    (hs : ∀ d ∈ s, d.isDigit = true)
    (hsign : ∀ d ∈ sign, d.isDigit = false ∧ d ≠ ',')
    (htext : groupThrees s ++ sign = front ++ c :: rest)
    (hc : c.isDigit = true) :
    rest.head? = some ','
      ↔ 3 ∣ (front ++ [c]).countP Char.isDigit ∧ ∃ d ∈ rest, d.isDigit = true := by
  fun_induction groupThrees s generalizing front with
  | case1 x y z d r ih =>
      have hx := hs x (by simp)
      have hy := hs y (by simp)
      have hz := hs z (by simp)
      have hd := hs d (by simp)
      -- The digit is one of the first group, or it stands behind the comma.
      rcases front with _ | ⟨x', _ | ⟨y', _ | ⟨z', _ | ⟨e, front⟩⟩⟩⟩
      all_goals simp only [List.cons_append, List.nil_append, List.cons.injEq] at htext
      · obtain ⟨rfl, rfl⟩ := htext
        simp [ne_comma_of_isDigit hy, hc]
      · obtain ⟨rfl, rfl, rfl⟩ := htext
        simp [ne_comma_of_isDigit hz, hc, hx]
      · obtain ⟨rfl, rfl, rfl, rfl⟩ := htext
        have hmem : d ∈ groupThrees (d :: r) :=
          (mem_groupThrees (ne_comma_of_isDigit hd)).2 List.mem_cons_self
        simp only [List.head?_cons, true_iff]
        exact ⟨by simp [hx, hy, hc], d, by simp [hmem], hd⟩
      · obtain ⟨-, -, -, rfl, -⟩ := htext
        cases hc
      · obtain ⟨rfl, rfl, rfl, rfl, htext⟩ := htext
        have hcount : (x :: y :: z :: ',' :: front ++ [c]).countP Char.isDigit
            = (front ++ [c]).countP Char.isDigit + 3 := by
          simp [List.countP_cons, hx, hy, hz]
        rw [ih (fun e he => hs e (by simp [List.mem_cons.1 he])) htext, hcount,
          Nat.dvd_add_self_right]
  | case2 s hshort =>
      refine comma_iff_of_length_le hs hsign ?_ htext hc
      rcases s with _ | ⟨w, _ | ⟨x, _ | ⟨y, _ | ⟨z, s⟩⟩⟩⟩
      case cons.cons.cons.cons => exact (hshort w x y z s rfl).elim
      all_goals simp

/-- A comma follows a digit. -/
theorem isDigit_getLast_groupThrees
    (hs : ∀ d ∈ s, d.isDigit = true)
    (hsign : ∀ d ∈ sign, d.isDigit = false ∧ d ≠ ',')
    (htext : groupThrees s ++ sign = front ++ ',' :: rest) :
    ∃ d ∈ front.getLast?, d.isDigit = true := by
  fun_induction groupThrees s generalizing front with
  | case1 x y z d r ih =>
      have hx := hs x (by simp)
      have hy := hs y (by simp)
      have hz := hs z (by simp)
      rcases front with _ | ⟨x', _ | ⟨y', _ | ⟨z', _ | ⟨e, front⟩⟩⟩⟩
      all_goals simp only [List.cons_append, List.nil_append, List.cons.injEq] at htext
      · obtain ⟨rfl, -⟩ := htext
        cases hx
      · obtain ⟨-, rfl, -⟩ := htext
        cases hy
      · obtain ⟨-, -, rfl, -⟩ := htext
        cases hz
      · obtain ⟨-, -, rfl, -⟩ := htext
        exact ⟨z, rfl, hz⟩
      · obtain ⟨-, -, -, -, htext⟩ := htext
        obtain ⟨e', he', hdigit⟩ := ih (fun e he => hs e (by simp [List.mem_cons.1 he])) htext
        exact ⟨e', by simp [List.getLast?_cons, Option.mem_def.1 he'], hdigit⟩
  | case2 s hshort =>
      have hmem : ',' ∈ s ++ sign := htext ▸ by simp
      rcases List.mem_append.1 hmem with hmem | hmem
      · exact absurd (hs ',' hmem) (by decide)
      · exact absurd rfl (hsign ',' hmem).2

/-- Digits are grouped, whatever stands in front of them that is no digit and no comma. -/
theorem isGrouped_groupThousands
    (hs : ∀ d ∈ s, d.isDigit = true)
    (hsign : ∀ d ∈ sign, d.isDigit = false ∧ d ≠ ',') :
    IsGrouped (sign ++ groupThousands s) := by
  have hs' : ∀ d ∈ s.reverse, d.isDigit = true := fun d hd => hs d (List.mem_reverse.1 hd)
  have hsign' : ∀ d ∈ sign.reverse, d.isDigit = false ∧ d ≠ ',' := fun d hd =>
    hsign d (List.mem_reverse.1 hd)
  have hreverse : ∀ front c rest, sign ++ groupThousands s = front ++ c :: rest →
      groupThrees s.reverse ++ sign.reverse = rest.reverse ++ c :: front.reverse := by
    intro front c rest htext
    have hsame := congrArg List.reverse htext
    simpa [groupThousands] using hsame
  refine ⟨fun front c rest htext hc => ?_, fun front rest htext => ?_⟩
  · have hiff := comma_iff_groupThrees hs' hsign' (hreverse _ _ _ htext) hc
    simpa [List.countP_append, List.countP_cons, Nat.add_comm] using hiff
  · simpa using isDigit_getLast_groupThrees hs' hsign' (hreverse _ _ _ htext)

end Groups

section Integers

variable {i : Int}

/-- The sign and the grouped digits of an integer. -/
def groupedCharacters (i : Int) : List Char :=
  Binary64.signText (decide (i < 0)) ++ groupThousands (Nat.toDigits 10 i.natAbs)

theorem grouped_int
    (hi : IsWritable i) :
    Number.grouped (.int i) = .ok (String.ofList (groupedCharacters i)) := by
  rw [Number.grouped, Number.groupedInteger, if_pos hi]
  rfl

theorem isGrouped_groupedCharacters
    (i : Int) :
    IsGrouped (groupedCharacters i) := by
  refine isGrouped_groupThousands (fun c hc => Text.isDigit_of_mem_toDigits hc) fun c hc => ?_
  rw [Binary64.eq_of_mem_signText hc]
  decide

/-- Without commas the text is that of the integer, whatever else is dropped that is neither a
sign nor a digit. -/
theorem filter_groupedCharacters
    {p : Char → Bool}
    (hcomma : p ',' = false)
    (hminus : p '-' = true)
    (hdigit : ∀ c : Char, c.isDigit = true → p c = true)
    (i : Int) :
    (groupedCharacters i).filter p = i.repr.toList := by
  have hsign : ∀ c ∈ Binary64.signText (decide (i < 0)), p c = true := fun c hc => by
    rw [Binary64.eq_of_mem_signText hc, hminus]
  have hdigits : ∀ c ∈ Nat.toDigits 10 i.natAbs, p c = true := fun c hc =>
    hdigit c (Text.isDigit_of_mem_toDigits hc)
  rw [groupedCharacters, List.filter_append, filter_groupThousands hcomma,
    List.filter_eq_self.2 hsign, List.filter_eq_self.2 hdigits, Json.toList_repr]
  simp [Numeral.text]

theorem withoutCommas_groupedCharacters
    (i : Int) :
    Number.withoutCommas (groupedCharacters i) = i.repr.toList :=
  filter_groupedCharacters (by decide) (by decide)
    (fun _ hc => bne_iff_ne.2 (ne_comma_of_isDigit hc)) i

theorem mem_groupedCharacters
    {c : Char}
    (hc : c ∈ groupedCharacters i) :
    c.isDigit = true ∨ c = '-' ∨ c = ',' := by
  rcases List.mem_append.1 hc with hsign | hdigits
  · exact .inr (.inl (Binary64.eq_of_mem_signText hsign))
  · by_cases hcomma : c = ','
    · exact .inr (.inr hcomma)
    · have hmem := (mem_groupThrees hcomma).1 (List.mem_reverse.1 hdigits)
      exact .inl (Text.isDigit_of_mem_toDigits (List.mem_reverse.1 hmem))

/-- There are no blanks in the text. -/
theorem trim_of_subset
    {s : List Char}
    (hs : s ⊆ groupedCharacters i) :
    Text.trim s = s := by
  have hblank : ∀ c ∈ s, Text.isBlank c = false := fun c hc => by
    rcases mem_groupedCharacters (hs hc) with hdigit | rfl | rfl
    · exact Text.not_isBlank_of_isDigit hdigit
    all_goals decide
  exact Text.trim_of_ends (fun c hc => hblank c (List.mem_of_mem_head? hc))
    (fun c hc => hblank c (List.mem_of_getLast? hc))

theorem bare_groupedCharacters
    (i : Int) :
    Number.bare (groupedCharacters i) = i.repr.toList := by
  have hkept : (groupedCharacters i).filter
      (fun c => !(Number.currencySymbols.contains c || c == ',')) = i.repr.toList :=
    filter_groupedCharacters (by decide) (by decide) (fun _ hc => Number.isKept_of_isDigit hc) i
  rw [Number.bare, trim_of_subset (List.Subset.refl _), trim_of_subset (List.filter_subset_self _),
    hkept]

theorem scan?_repr
    (i : Int) :
    Numeral.scan? i.repr.toList
      = some (⟨decide (i < 0), Nat.toDigits 10 i.natAbs, none, none⟩, []) := by
  rw [Json.toList_repr]
  exact Numeral.scan?_text (n := ⟨decide (i < 0), Nat.toDigits 10 i.natAbs, none, none⟩)
    (Json.isPlain_integer i).whole (by simp) rfl

theorem read?_groupedCharacters
    (hi : IsWritable i) :
    Number.read? (groupedCharacters i) = .ok (some (.int i)) := by
  have hscan := scan?_repr i
  rw [← withoutCommas_groupedCharacters] at hscan
  rw [Number.read?_of_scan? (.inl rfl) hscan, Numeral.value?_natAbs hi]

theorem coerceText_groupedCharacters
    (hi : IsWritable i) :
    Number.coerceText (groupedCharacters i) = .ok (.int i) := by
  simp only [Number.coerceText_eq, bare_groupedCharacters, scan?_repr, Numeral.value?_natAbs hi]
  rfl

theorem ofText_groupedCharacters
    (hi : IsWritable i) :
    Entry.ofText (String.ofList (groupedCharacters i)) = .ok (.number (.int i)) := by
  refine Entry.ofText_of_read? (trim_of_subset (List.Subset.refl _)) (fun c hc => ?_)
    (read?_groupedCharacters hi)
  rcases mem_groupedCharacters (List.mem_of_mem_head? hc) with hdigit | hminus | rfl
  · exact .inl hdigit
  · exact .inr hminus
  · exact absurd hc (isGrouped_groupedCharacters i).head?_ne

end Integers

/-- An integer that can be written is grouped in threes, and is read from that as itself,
whether as a whole text, as the number at the front of one, or as what is typed. -/
theorem reads_grouped_integer
    {i : Int}
    (hi : IsWritable i) :
    ∃ text, Number.grouped (.int i) = .ok text
      ∧ IsGrouped text.toList
      ∧ Number.withoutCommas text.toList = i.repr.toList
      ∧ Number.read? text.toList = .ok (some (.int i))
      ∧ Number.coerceText text.toList = .ok (.int i)
      ∧ Entry.ofText text = .ok (.number (.int i)) := by
  refine ⟨_, grouped_int hi, ?_⟩
  rw [String.toList_ofList]
  exact ⟨isGrouped_groupedCharacters i, withoutCommas_groupedCharacters i,
    read?_groupedCharacters hi, coerceText_groupedCharacters hi, ofText_groupedCharacters hi⟩

/-- A negative integer with a group that is not complete. -/
theorem reads_grouped_integer_millions :
    Number.grouped (.int (-1234567)) = .ok "-1,234,567"
      ∧ IsGrouped "-1,234,567".toList
      ∧ Number.withoutCommas "-1,234,567".toList = "-1234567".toList
      ∧ Number.read? "-1,234,567".toList = .ok (some (.int (-1234567)))
      ∧ Number.coerceText "-1,234,567".toList = .ok (.int (-1234567))
      ∧ Entry.ofText "-1,234,567" = .ok (.number (.int (-1234567))) := by
  have hi : IsWritable (-1234567) := isWritable_of_lt_pow 7 (by decide) (by decide)
  have htext : Number.grouped (.int (-1234567)) = .ok "-1,234,567" := by decide +kernel
  obtain ⟨text, htext', h⟩ := reads_grouped_integer hi
  obtain rfl : "-1,234,567" = text := Except.ok.inj (htext.symm.trans htext')
  exact ⟨htext, h⟩

end Spreadsheet
