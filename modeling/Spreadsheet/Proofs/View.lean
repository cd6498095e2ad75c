import Mathlib.Data.List.Basic
import Spreadsheet.View

/-!
# The order of column styles

Every change of the styles keeps them in increasing order of their columns, one
entry for each.  So entries made from them are put together to the same styles, and
the style of a column is that of its entry.

Results: the changes keep the order (`isSorted_insertStyle`, `isSorted_erase`,
`isSorted_shift`), styles in order are made of their own entries
(`ofEntries_of_isSorted`), a shifted column has the style of the column that it was
(`style?_shift`), columns that come in and go out again leave the view
(`shiftColumns_shiftColumns`), and dropping an entry that says nothing changes no
style (`style_prune`).
-/

namespace Spreadsheet
namespace ColumnStyles

/-- The columns increase. -/
def IsSorted (styles : ColumnStyles) : Prop :=
  styles.Pairwise fun a b => a.1 < b.1

section Lemmas

variable {styles : ColumnStyles}

theorem mem_insertStyle
    {col : Int} {style : ColumnStyle} {entry : Int × ColumnStyle}
    (h : entry ∈ styles.insertStyle col style) :
    entry = (col, style) ∨ entry ∈ styles := by
  induction styles with
  | nil =>
      left
      simpa [insertStyle] using h
  | cons first rest ih =>
      obtain ⟨c, s⟩ := first
      rw [insertStyle] at h
      split at h
      · exact List.mem_cons.1 h
      · split at h
        · rcases List.mem_cons.1 h with h | h
          · exact .inl h
          · exact .inr (List.mem_cons_of_mem _ h)
        · rcases List.mem_cons.1 h with h | h
          · exact .inr (h ▸ List.mem_cons_self)
          · rcases ih h with h | h
            · exact .inl h
            · exact .inr (List.mem_cons_of_mem _ h)

theorem isSorted_insertStyle
    (h : styles.IsSorted)
    (col : Int) (style : ColumnStyle) :
    (styles.insertStyle col style).IsSorted := by
  induction styles with
  | nil => exact List.pairwise_singleton _ _
  | cons first rest ih =>
      obtain ⟨c, s⟩ := first
      obtain ⟨hfirst, hrest⟩ := List.pairwise_cons.1 h
      rw [insertStyle]
      split
      · next hlt =>
          refine List.pairwise_cons.2 ⟨?_, h⟩
          intro entry hentry
          rcases List.mem_cons.1 hentry with rfl | hentry
          · exact hlt
          · exact Int.lt_trans hlt (hfirst entry hentry)
      · next hle =>
          split
          · next heq =>
              subst heq
              exact List.pairwise_cons.2 ⟨hfirst, hrest⟩
          · next hne =>
              refine List.pairwise_cons.2 ⟨?_, ih hrest⟩
              intro entry hentry
              rcases mem_insertStyle hentry with rfl | hentry
              · show c < col
                omega
              · exact hfirst entry hentry

theorem isSorted_erase
    (h : styles.IsSorted)
    (col : Int) :
    (styles.erase col).IsSorted :=
  h.filter _

theorem shifted?_lt
    {index count a b c d : Int}
    (hlt : a < b)
    (ha : shifted? index count a = some c)
    (hb : shifted? index count b = some d) :
    c < d := by
  unfold shifted? at ha hb
  split at ha
  · split at hb
    · simp only [Option.some.injEq] at ha hb
      omega
    · split at hb
      · simp only [Option.some.injEq] at ha hb
        omega
      · simp at hb
  · split at ha
    · split at hb
      · simp only [Option.some.injEq] at ha hb
        omega
      · split at hb
        · simp only [Option.some.injEq] at ha hb
          omega
        · simp at hb
    · simp at ha

theorem isSorted_shift
    (h : styles.IsSorted)
    (index count : Int) :
    (styles.shift index count).IsSorted := by
  refine List.Pairwise.filterMap _ ?_ h
  intro a b hlt c hc d hd
  obtain ⟨c', hc', rfl⟩ := Option.map_eq_some_iff.1 hc
  obtain ⟨d', hd', rfl⟩ := Option.map_eq_some_iff.1 hd
  exact shifted?_lt hlt hc' hd'

/-- A shifted column has the style of the column that it was, if it was one. -/
theorem style?_shift
    {index count col : Int} {before : Option Int}
    (styles : ColumnStyles)
    (h : ∀ c, shifted? index count c = some col ↔ before = some c) :
    (styles.shift index count).style? col = before.bind styles.style? := by
  induction styles with
  | nil => cases before <;> rfl
  | cons entry rest ih =>
      obtain ⟨c, style⟩ := entry
      cases hshifted : shifted? index count c with
      | none =>
          have hbefore : before ≠ some c := fun heq => by
            rw [(h c).2 heq] at hshifted
            cases hshifted
          have hshift : ColumnStyles.shift ((c, style) :: rest) index count
              = ColumnStyles.shift rest index count := by
            simp [shift, hshifted]
          rw [hshift, ih]
          cases before with
          | none => rfl
          | some b =>
              have hne : (b == c) = false := by simpa using fun heq : b = c => hbefore (by rw [heq])
              simp [style?, List.lookup_cons, hne]
      | some d =>
          have hshift : ColumnStyles.shift ((c, style) :: rest) index count
              = (d, style) :: ColumnStyles.shift rest index count := by
            simp [shift, hshifted]
          rw [hshift, style?, List.lookup_cons]
          by_cases hd : col = d
          · rw [(h c).1 (hd ▸ hshifted)]
            simp [hd, style?]
          · have hbefore : before ≠ some c := fun heq => by
              rw [(h c).2 heq] at hshifted
              exact hd (Option.some.inj hshifted)
            have hrest : (ColumnStyles.shift rest index count).lookup col
                = before.bind (ColumnStyles.style? rest) := ih
            rw [beq_false_of_ne hd, hrest]
            cases before with
            | none => rfl
            | some b =>
                have hne : (b == c) = false := by
                  simpa using fun heq : b = c => hbefore (by rw [heq])
                simp [style?, List.lookup_cons, hne]

/-- Columns that came in go out again. -/
theorem shift_shift
    {count : Int}
    (styles : ColumnStyles) (index : Int)
    (h : 0 < count) :
    (styles.shift index count).shift index (-count) = styles := by
  unfold shift
  rw [List.filterMap_filterMap]
  refine Eq.trans (List.filterMap_congr fun entry _ => ?_) List.filterMap_some
  obtain ⟨col, style⟩ := entry
  unfold shifted?
  dsimp only
  by_cases hlt : col < index
  · simp [hlt]
  · have hback : ¬ col + count < index := by omega
    have hreach : index - -count ≤ col + count := by omega
    have hsame : col + count + -count = col := by omega
    simp only [hlt, hback, h, hreach, hsame, if_false, if_true, true_or, or_true,
      Option.map_some, Option.bind_some]

/-- Styles that are made of entries have no others. -/
theorem mem_ofEntries
    {entries : List (Int × ColumnStyle)} {entry : Int × ColumnStyle}
    (h : entry ∈ ofEntries entries) :
    entry ∈ entries := by
  have hfold : ∀ (entries : List (Int × ColumnStyle)) (styles : ColumnStyles),
      entry ∈ entries.foldl (fun styles entry => styles.insertStyle entry.1 entry.2) styles →
        entry ∈ styles ∨ entry ∈ entries := by
    intro entries
    induction entries with
    | nil => exact fun styles h => .inl h
    | cons first rest ih =>
        intro styles h
        rcases ih _ h with h | h
        · rcases mem_insertStyle h with rfl | h
          · exact .inr List.mem_cons_self
          · exact .inl h
        · exact .inr (List.mem_cons_of_mem _ h)
  rcases hfold entries [] h with h | h
  · cases h
  · exact h

theorem isSorted_foldl
    (entries : List (Int × ColumnStyle))
    (h : styles.IsSorted) :
    (entries.foldl (fun styles (col, style) => styles.insertStyle col style) styles).IsSorted := by
  induction entries generalizing styles with
  | nil => exact h
  | cons entry entries ih => exact ih (isSorted_insertStyle h entry.1 entry.2)

theorem isSorted_ofEntries
    (entries : List (Int × ColumnStyle)) :
    (ofEntries entries).IsSorted :=
  isSorted_foldl entries List.Pairwise.nil

theorem insertStyle_of_lt
    {col : Int}
    (h : ∀ entry ∈ styles, entry.1 < col)
    (style : ColumnStyle) :
    styles.insertStyle col style = styles ++ [(col, style)] := by
  induction styles with
  | nil => rfl
  | cons first rest ih =>
      obtain ⟨c, s⟩ := first
      have hc : c < col := h (c, s) (by simp)
      rw [insertStyle, if_neg (by omega), if_neg (by omega),
        ih fun entry hentry => h entry (List.mem_cons_of_mem _ hentry), List.cons_append]

/-- Styles in order are made of their own entries. -/
theorem ofEntries_of_isSorted
    (h : styles.IsSorted) :
    ofEntries styles = styles := by
  have hfold : ∀ (rest done : ColumnStyles), IsSorted (done ++ rest) →
      rest.foldl (fun styles (col, style) => styles.insertStyle col style) done
        = done ++ rest := by
    intro rest
    induction rest with
    | nil => intro done _; simp
    | cons entry rest ih =>
        intro done hsorted
        have hlt : ∀ first ∈ done, first.1 < entry.1 := fun first hfirst =>
          (List.pairwise_append.1 hsorted).2.2 first hfirst entry (by simp)
        have hstep := ih (done ++ [entry]) (by simpa using hsorted)
        rw [List.append_assoc, List.singleton_append] at hstep
        rw [List.foldl_cons, ← hstep]
        exact congrArg (rest.foldl _) (insertStyle_of_lt hlt entry.2)
  exact hfold styles [] h

/-- With one entry for each column, its style is that of its entry. -/
theorem style?_eq_some_iff
    {col : Int} {style : ColumnStyle}
    (h : styles.IsSorted) :
    styles.style? col = some style ↔ (col, style) ∈ styles := by
  unfold style?
  constructor
  · intro hstyle
    obtain ⟨before, after, rfl, -⟩ := List.lookup_eq_some_iff.1 hstyle
    exact List.mem_append_right _ List.mem_cons_self
  · intro hmem
    obtain ⟨before, after, rfl⟩ := List.append_of_mem hmem
    refine List.lookup_eq_some_iff.2 ⟨before, after, rfl, fun entry hentry => ?_⟩
    have hlt : entry.1 < col :=
      (List.pairwise_append.1 h).2.2 entry hentry (col, style) List.mem_cons_self
    simpa using Int.ne_of_gt hlt

theorem style?_erase_of_ne
    {col other : Int}
    (styles : ColumnStyles)
    (h : other ≠ col) :
    (styles.erase col).style? other = styles.style? other := by
  unfold style? erase
  induction styles with
  | nil => rfl
  | cons entry rest ih =>
      obtain ⟨c, s⟩ := entry
      by_cases hc : c = col
      · have hb : (other == c) = false := by simpa [hc] using h
        simp only [List.lookup_cons, hb]
        simpa [hc] using ih
      · by_cases ho : other = c
        · simp [hc, ho]
        · have hb : (other == c) = false := by simpa using ho
          simp [hc, List.lookup_cons, hb, ih]

end Lemmas

end ColumnStyles

namespace View

section Lemmas

/-- After a shift a column has the style of the column that it was, and one that
was none is as usual. -/
theorem style_shiftColumns
    {index count col : Int} {before : Option Int}
    (v : View)
    (h : ∀ c, ColumnStyles.shifted? index count c = some col ↔ before = some c) :
    (v.shiftColumns index count).style col = (before.map v.style).getD .usual := by
  rw [style, shiftColumns, ColumnStyles.style?_shift v.styles h]
  cases before <;> rfl

/-- Columns that come in and go out again leave the view. -/
theorem shiftColumns_shiftColumns
    {count : Int}
    (v : View) (index : Int)
    (h : 0 < count) :
    (v.shiftColumns index count).shiftColumns index (-count) = v := by
  unfold shiftColumns
  rw [ColumnStyles.shift_shift v.styles index h]

theorem style_setStyle_of_ne
    {col other : Int}
    (v : View) (style : ColumnStyle)
    (h : other ≠ col) :
    (v.setStyle col style).style other = v.style other := by
  rw [View.style, setStyle, ColumnStyles.style?_insertStyle_of_ne v.styles style h, View.style]

/-- Dropping an entry that says nothing changes no style of another column
either. -/
theorem style_prune
    (v : View) (col other : Int) :
    (v.prune col).style other = v.style other := by
  by_cases hother : other = col
  · rw [hother, style_prune_self]
  · unfold prune
    split
    · rw [style, ColumnStyles.style?_erase_of_ne v.styles hother, style]
    · rfl

theorem isSorted_prune
    {v : View}
    (h : v.styles.IsSorted)
    (col : Int) :
    (v.prune col).styles.IsSorted := by
  unfold prune
  split
  · exact ColumnStyles.isSorted_erase h col
  · exact h

end Lemmas

end View
end Spreadsheet
