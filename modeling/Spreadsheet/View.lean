import Spreadsheet.Fault
import Spreadsheet.Number.Basic

/-!
# The view of a sheet

How the columns of a sheet are presented: the width of a column and whether it
is hidden, and how many leading rows and columns stay in sight.  Only columns
that differ from the rest have an entry, and the entries stand in increasing
order of their columns.

Results: changing one column leaves the others alone
(`style?_insertStyle_of_ne`), and a column keeps its width when it is hidden or
shown (`width_setHidden_self`).
-/

namespace Spreadsheet

/-- The presentation of one column; without a width it has the usual one. -/
structure ColumnStyle where
  width : Option Int
  hidden : Bool
deriving DecidableEq, Repr

/-- The styles of columns, by increasing column. -/
abbrev ColumnStyles := List (Int × ColumnStyle)

namespace ColumnStyle

/-- The presentation of a column about which nothing was said. -/
def usual : ColumnStyle := ⟨none, false⟩

end ColumnStyle

namespace ColumnStyles

/-- The style of a column that has an entry. -/
def style? (styles : ColumnStyles) (col : Int) : Option ColumnStyle :=
  styles.lookup col

/-- The styles with that of one column set. -/
def insertStyle (styles : ColumnStyles) (col : Int) (style : ColumnStyle) : ColumnStyles :=
  match styles with
  | [] => [(col, style)]
  | (c, s) :: rest =>
      if col < c then (col, style) :: (c, s) :: rest
      else if c = col then (col, style) :: rest
      else (c, s) :: insertStyle rest col style

/-- The styles without the entry of a column. -/
def erase (styles : ColumnStyles) (col : Int) : ColumnStyles :=
  styles.filter fun entry => entry.1 != col

/-- The styles of entries in any order; of two for one column the later
counts. -/
def ofEntries (entries : List (Int × ColumnStyle)) : ColumnStyles :=
  entries.foldl (fun styles (col, style) => styles.insertStyle col style) []

/-- The place of a column after `count` columns came in at an index, or after
as many went out there if `count` is negative. -/
def shifted? (index count col : Int) : Option Int :=
  if col < index then some col
  else if 0 < count ∨ index - count ≤ col then some (col + count)
  else none

/-- The styles after columns came in or went out at an index. -/
def shift (styles : ColumnStyles) (index count : Int) : ColumnStyles :=
  styles.filterMap fun (col, style) => (shifted? index count col).map fun c => (c, style)

end ColumnStyles

/-- The presentation of a sheet. -/
structure View where
  styles : ColumnStyles
  frozenRows : Int
  frozenColumns : Int
  /-- The width of a column that has none of its own. -/
  defaultWidth : Int
  /-- No column is made narrower than this. -/
  minWidth : Int
deriving DecidableEq, Repr

namespace View

/-- The usual width of a column. -/
def usualWidth : Int := 100

/-- The usual least width of a column. -/
def usualMinWidth : Int := 40

/-- The presentation of a sheet about which nothing was said. -/
def usual : View := ⟨[], 1, 0, usualWidth, usualMinWidth⟩

/-- The style of a column. -/
def style (v : View) (col : Int) : ColumnStyle :=
  (v.styles.style? col).getD ColumnStyle.usual

/-- The width of a column. -/
def width (v : View) (col : Int) : Int :=
  (v.style col).width.getD v.defaultWidth

/-- The column is hidden. -/
def isHidden (v : View) (col : Int) : Bool :=
  (v.style col).hidden

/-- The hidden columns, in increasing order. -/
def hiddenColumns (v : View) : List Int :=
  (v.styles.filter fun entry => entry.2.hidden).map Prod.fst

/-- The view with the style of a column set. -/
def setStyle (v : View) (col : Int) (style : ColumnStyle) : View :=
  { v with styles := v.styles.insertStyle col style }

/-- The view without the entry of a column that is as usual. -/
def prune (v : View) (col : Int) : View :=
  if v.styles.style? col = some ColumnStyle.usual then
    { v with styles := v.styles.erase col }
  else
    v

/-- The width that a column gets when another is asked for, and the view with
it. -/
def resizeColumn (v : View) (col : Int) (width : Number) : Except Fault (Int × View) := do
  let width := max v.minWidth (← width.truncate)
  if col < 0 then
    throw (.reject (.negativeColumn col))
  return (width, v.setStyle col { v.style col with width := some width })

/-- The view with a column hidden or shown. -/
def setHidden (v : View) (col : Int) (hidden : Bool) : Except Fault View :=
  if col < 0 then
    .error (.reject (.negativeColumn col))
  else
    .ok ((v.setStyle col { v.style col with hidden := hidden }).prune col)

/-- A number of frozen rows or columns, none if a negative one is asked for. -/
def frozenCount (count : Number) : Except Fault Int := do
  return max 0 (← count.truncate)

/-- The view with leading rows frozen. -/
def setFrozenRows (v : View) (count : Number) : Except Fault View := do
  return { v with frozenRows := ← frozenCount count }

/-- The view with leading columns frozen. -/
def setFrozenColumns (v : View) (count : Number) : Except Fault View := do
  return { v with frozenColumns := ← frozenCount count }

/-- The view after columns came in or went out at an index. -/
def shiftColumns (v : View) (index count : Int) : View :=
  { v with styles := v.styles.shift index count }

end View

section Lemmas

namespace ColumnStyles

@[simp] theorem style?_insertStyle_self
    (styles : ColumnStyles) (col : Int) (style : ColumnStyle) :
    (styles.insertStyle col style).style? col = some style := by
  unfold style?
  induction styles with
  | nil => simp [insertStyle]
  | cons entry rest ih =>
      obtain ⟨c, s⟩ := entry
      by_cases hlt : col < c
      · simp [insertStyle, hlt]
      · by_cases hc : c = col
        · simp [insertStyle, hc]
        · have hb : (col == c) = false := by simpa using Ne.symm hc
          simpa [insertStyle, hlt, hc, List.lookup_cons, hb] using ih

/-- Another column keeps its style. -/
theorem style?_insertStyle_of_ne
    (styles : ColumnStyles) {col other : Int} (style : ColumnStyle)
    (h : other ≠ col) :
    (styles.insertStyle col style).style? other = styles.style? other := by
  unfold style?
  have hb : (other == col) = false := by simpa using h
  induction styles with
  | nil => simp [insertStyle, List.lookup_cons, hb]
  | cons entry rest ih =>
      obtain ⟨c, s⟩ := entry
      by_cases hlt : col < c
      · simp [insertStyle, hlt, List.lookup_cons, hb]
      · by_cases hc : c = col
        · subst hc
          simp [insertStyle, List.lookup_cons, hb]
        · simp [insertStyle, hlt, hc, List.lookup_cons, ih]

theorem style?_erase_self
    (styles : ColumnStyles) (col : Int) :
    (styles.erase col).style? col = none := by
  unfold style? erase
  induction styles with
  | nil => rfl
  | cons entry rest ih =>
      obtain ⟨c, s⟩ := entry
      by_cases hc : c = col
      · simpa [hc] using ih
      · have hb : (col == c) = false := by simpa using Ne.symm hc
        simpa [hc, List.lookup_cons, hb] using ih

end ColumnStyles

namespace View

@[simp] theorem style_setStyle_self
    (v : View) (col : Int) (style : ColumnStyle) :
    (v.setStyle col style).style col = style := by
  simp [View.style, setStyle]

/-- Dropping an entry that says nothing changes no style. -/
theorem style_prune_self
    (v : View) (col : Int) :
    (v.prune col).style col = v.style col := by
  unfold prune
  split
  · next h =>
      simp [View.style, ColumnStyles.style?_erase_self, h]
  · rfl

/-- Hiding or showing a column leaves its width. -/
theorem width_setHidden_self
    {v v' : View} {col : Int} {hidden : Bool}
    (h : v.setHidden col hidden = .ok v') :
    v'.width col = v.width col := by
  unfold setHidden at h
  split at h
  · simp at h
  · obtain rfl := Except.ok.inj h
    have hd : ∀ w : View, (w.prune col).defaultWidth = w.defaultWidth := by
      intro w
      unfold prune
      split <;> rfl
    rw [width, style_prune_self, hd, style_setStyle_self]
    rfl

end View

end Lemmas

end Spreadsheet
