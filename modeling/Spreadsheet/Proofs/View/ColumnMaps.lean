import Mathlib.Logic.Function.Basic
import Spreadsheet.Proofs.Except
import Spreadsheet.Proofs.View

/-!
# Widths and hidden columns as two maps

A view keeps the width of a column and whether it is hidden in one entry, which is
made when either is set and dropped when it says nothing any more.  What it tells is
what two maps apart from each other would tell: setting one leaves the other, and both
move with the columns.

The entries stay in order, one for a column, and none of them says nothing.  That is
what carries the proof: a column has the style of its entry, and the hidden columns
are read off the entries in their order.

Results: a change of the columns changes the maps alike (`Keeps.apply`), and so do all
changes of a run (`run_columnChanges`).
-/

namespace Spreadsheet

/-- Something done to the columns of a view. -/
inductive ColumnChange where
  | resize (col : Int) (width : Number)
  | setHidden (col : Int) (hidden : Bool)
  /-- Columns come in at an index, or go out there if the count is negative. -/
  | shift (index count : Int)

namespace ColumnChange

/-- The view after a change. -/
def apply (v : View) : ColumnChange → Except Fault View
  | resize col width => do return (← v.resizeColumn col width).2
  | setHidden col hidden => v.setHidden col hidden
  | shift index count => return v.shiftColumns index count

/-- The view after some changes, the first one first. -/
def run (v : View) (changes : List ColumnChange) : Except Fault View :=
  changes.foldlM apply v

/-- The change names no column before the first, and a width that has a whole part. -/
def IsProper : ColumnChange → Prop
  | resize col width => 0 ≤ col ∧ ∃ asked, width.truncate = .ok asked
  | setHidden col _ => 0 ≤ col
  | shift _ _ => True

end ColumnChange

/-- The widths that columns have of their own and the hidden columns, apart from each
other. -/
structure ColumnMaps where
  width : Int → Option Int
  hidden : Int → Bool

namespace ColumnMaps

/-- No column has a width of its own, and none is hidden. -/
def usual : ColumnMaps := ⟨fun _ => none, fun _ => false⟩

/-- What a map says of a column after `count` columns came in at an index, or after as
many went out there if `count` is negative; `vacant` is said of those that came in. -/
def moved {α : Type} (vacant : α) (index count : Int) (map : Int → α) (col : Int) : α :=
  if col < index then map col
  else if col < index + count then vacant
  else map (col - count)

/-- The maps after a change; a width without a whole part changes nothing. -/
def after (minWidth : Int) (maps : ColumnMaps) : ColumnChange → ColumnMaps
  | .resize col width =>
      match width.truncate with
      | .ok asked =>
          { maps with width := Function.update maps.width col (some (max minWidth asked)) }
      | .error _ => maps
  | .setHidden col hidden => { maps with hidden := Function.update maps.hidden col hidden }
  | .shift index count =>
      ⟨moved none index count maps.width, moved false index count maps.hidden⟩

/-- The maps after some changes, the first one first. -/
def run (minWidth : Int) (maps : ColumnMaps) (changes : List ColumnChange) : ColumnMaps :=
  changes.foldl (after minWidth) maps

end ColumnMaps

/-- The view tells what the maps say, by entries of which none says nothing. -/
structure View.Keeps (v : View) (maps : ColumnMaps) : Prop where
  sorted : v.styles.IsSorted
  style : ∀ col, v.style col = ⟨maps.width col, maps.hidden col⟩
  tells : ∀ entry ∈ v.styles, entry.2 ≠ .usual

section Lemmas

/-- Where the column at a place was before a shift; one that came in was nowhere. -/
def beforeShift? (index count col : Int) : Option Int :=
  if col < index then some col
  else if col < index + count then none
  else some (col - count)

theorem shifted?_eq_some_iff
    {index count c d : Int} :
    ColumnStyles.shifted? index count c = some d ↔ beforeShift? index count d = some c := by
  unfold ColumnStyles.shifted? beforeShift?
  by_cases hc : c < index
  · by_cases hd : d < index
    · simp [hc, hd, eq_comm]
    · by_cases hin : d < index + count
      · simp [hc, hd, hin]
        omega
      · simp [hc, hd, hin]
        omega
  · by_cases hd : d < index
    · simp [hc, hd]
      omega
    · by_cases hin : d < index + count
      · simp [hc, hd, hin]
        omega
      · simp [hc, hd, hin]
        omega

/-- A moved map says of a column what was said of the column that it was. -/
theorem ColumnMaps.moved_eq
    {α : Type} (vacant : α) (index count : Int) (map : Int → α) (col : Int) :
    moved vacant index count map col = ((beforeShift? index count col).map map).getD vacant := by
  unfold moved beforeShift?
  split
  · rfl
  · split <;> rfl

namespace View

variable {v : View} {maps : ColumnMaps}

theorem resizeColumn_of_nonneg
    {col asked : Int} {width : Number}
    (hcol : 0 ≤ col)
    (hasked : width.truncate = .ok asked) :
    v.resizeColumn col width
      = .ok (max v.minWidth asked,
          v.setStyle col { v.style col with width := some (max v.minWidth asked) }) := by
  unfold resizeColumn
  rw [bind_of_eq_ok hasked]
  simp [Int.not_lt.2 hcol, pure, Except.pure]

theorem setHidden_of_nonneg
    {col : Int}
    (hcol : 0 ≤ col)
    (hidden : Bool) :
    v.setHidden col hidden
      = .ok ((v.setStyle col { v.style col with hidden := hidden }).prune col) := by
  rw [setHidden, if_neg (Int.not_lt.2 hcol)]

/-- The hidden columns are listed in increasing order. -/
theorem hiddenColumns_increase
    (h : v.styles.IsSorted) :
    v.hiddenColumns.Pairwise (· < ·) :=
  List.pairwise_map.2 (h.filter _)

/-- The hidden columns are those that are listed. -/
theorem mem_hiddenColumns_iff
    {col : Int}
    (h : v.styles.IsSorted) :
    col ∈ v.hiddenColumns ↔ v.isHidden col = true := by
  have hlisted : col ∈ v.hiddenColumns
      ↔ ∃ style, (col, style) ∈ v.styles ∧ style.hidden = true := by
    simp [hiddenColumns]
  rw [hlisted, isHidden, View.style]
  constructor
  · rintro ⟨style, hmem, hhidden⟩
    rw [(ColumnStyles.style?_eq_some_iff h).2 hmem]
    exact hhidden
  · intro hhidden
    cases hstyle : v.styles.style? col with
    | none => simp [hstyle, ColumnStyle.usual] at hhidden
    | some style =>
        rw [hstyle] at hhidden
        exact ⟨style, (ColumnStyles.style?_eq_some_iff h).1 hstyle, hhidden⟩

namespace Keeps

/-- A column's style is set in the view and in the maps. -/
theorem style_setStyle
    {maps' : ColumnMaps} {col : Int} {style : ColumnStyle}
    (h : v.Keeps maps)
    (hself : style = ⟨maps'.width col, maps'.hidden col⟩)
    (hother : ∀ other, other ≠ col →
      maps'.width other = maps.width other ∧ maps'.hidden other = maps.hidden other)
    (other : Int) :
    (v.setStyle col style).style other = ⟨maps'.width other, maps'.hidden other⟩ := by
  by_cases ho : other = col
  · rw [ho, style_setStyle_self, hself]
  · rw [style_setStyle_of_ne v style ho, h.style, (hother other ho).1, (hother other ho).2]

theorem resize
    {col : Int}
    (h : v.Keeps maps)
    (width : Int) :
    (v.setStyle col { v.style col with width := some width }).Keeps
      { maps with width := Function.update maps.width col (some width) } := by
  refine ⟨ColumnStyles.isSorted_insertStyle h.sorted col _, ?_, ?_⟩
  · refine h.style_setStyle ?_ fun other ho => ?_
    · simp [h.style]
    · exact ⟨Function.update_of_ne ho _ _, rfl⟩
  · intro entry hentry
    rcases ColumnStyles.mem_insertStyle hentry with rfl | hentry
    · simp [ColumnStyle.usual]
    · exact h.tells entry hentry

/-- An entry that is left after the hidden flag was set says something: if it is the
one that was set, it would have been dropped otherwise. -/
theorem setHidden
    {col : Int}
    (h : v.Keeps maps)
    (hidden : Bool) :
    ((v.setStyle col { v.style col with hidden := hidden }).prune col).Keeps
      { maps with hidden := Function.update maps.hidden col hidden } := by
  refine ⟨isSorted_prune (ColumnStyles.isSorted_insertStyle h.sorted col _) col, ?_, ?_⟩
  · intro other
    rw [style_prune]
    refine h.style_setStyle ?_ (fun other ho => ?_) other
    · simp [h.style]
    · exact ⟨rfl, Function.update_of_ne ho _ _⟩
  · intro entry hentry
    unfold prune at hentry
    split at hentry
    · obtain ⟨hmem, hne⟩ := List.mem_filter.1 hentry
      rcases ColumnStyles.mem_insertStyle hmem with rfl | hmem
      · simp at hne
      · exact h.tells entry hmem
    · next hkept =>
        rcases ColumnStyles.mem_insertStyle hentry with rfl | hmem
        · intro husual
          refine hkept ?_
          rw [setStyle, ColumnStyles.style?_insertStyle_self]
          exact congrArg some husual
        · exact h.tells entry hmem

theorem shift
    (h : v.Keeps maps)
    (index count : Int) :
    (v.shiftColumns index count).Keeps
      ⟨ColumnMaps.moved none index count maps.width,
        ColumnMaps.moved false index count maps.hidden⟩ := by
  refine ⟨ColumnStyles.isSorted_shift h.sorted index count, fun col => ?_, ?_⟩
  · rw [v.style_shiftColumns fun c => shifted?_eq_some_iff]
    dsimp only
    rw [ColumnMaps.moved_eq, ColumnMaps.moved_eq]
    cases beforeShift? index count col with
    | none => rfl
    | some before => exact h.style before
  · intro entry hentry
    obtain ⟨before, hbefore, hmoved⟩ := List.mem_filterMap.1 hentry
    obtain ⟨place, -, rfl⟩ := Option.map_eq_some_iff.1 hmoved
    exact h.tells before hbefore

/-- A change of the columns is made, and changes the maps alike. -/
theorem apply
    {change : ColumnChange}
    (h : v.Keeps maps)
    (hchange : change.IsProper) :
    ∃ v', change.apply v = .ok v' ∧ v'.Keeps (maps.after v.minWidth change)
      ∧ v'.minWidth = v.minWidth ∧ v'.defaultWidth = v.defaultWidth := by
  cases change with
  | resize col width =>
      obtain ⟨hcol, asked, hasked⟩ := hchange
      have happly : (ColumnChange.resize col width).apply v
          = .ok (v.setStyle col { v.style col with width := some (max v.minWidth asked) }) := by
        rw [ColumnChange.apply, bind_of_eq_ok (resizeColumn_of_nonneg hcol hasked)]
        rfl
      refine ⟨_, happly, ?_, rfl, rfl⟩
      rw [ColumnMaps.after, hasked]
      exact h.resize _
  | setHidden col hidden =>
      refine ⟨_, setHidden_of_nonneg hchange hidden, h.setHidden hidden, ?_, ?_⟩
      · unfold prune
        split <;> rfl
      · unfold prune
        split <;> rfl
  | shift index count => exact ⟨_, rfl, h.shift index count, rfl, rfl⟩

theorem run
    {changes : List ColumnChange}
    (h : v.Keeps maps)
    (hchanges : ∀ change ∈ changes, change.IsProper) :
    ∃ v', ColumnChange.run v changes = .ok v' ∧ v'.Keeps (maps.run v.minWidth changes)
      ∧ v'.defaultWidth = v.defaultWidth := by
  induction changes generalizing v maps with
  | nil => exact ⟨v, rfl, h, rfl⟩
  | cons change changes ih =>
      obtain ⟨next, hnext, hkeeps, hmin, hdefault⟩ :=
        h.apply (hchanges change List.mem_cons_self)
      obtain ⟨v', hrun, hkeeps', hdefault'⟩ :=
        ih hkeeps fun change hmem => hchanges change (List.mem_cons_of_mem _ hmem)
      refine ⟨v', ?_, ?_, hdefault'.trans hdefault⟩
      · rw [ColumnChange.run, List.foldlM_cons, bind_of_eq_ok hnext]
        exact hrun
      · rw [hmin] at hkeeps'
        exact hkeeps'

end Keeps

/-- A view without entries keeps the maps that say nothing. -/
theorem keeps_usual
    (h : v.styles = []) :
    v.Keeps .usual where
  sorted := by
    rw [h]
    exact List.Pairwise.nil
  style col := by
    rw [View.style, h]
    rfl
  tells entry hentry := by
    rw [h] at hentry
    cases hentry

/-- Whatever is done to the columns of a view, their widths and hidden flags are those of two
maps apart from each other.  No entry that says nothing is kept, the hidden columns are
listed in increasing order, and columns that come in and go out again leave the view. -/
theorem run_columnChanges
    {v : View} {changes : List ColumnChange}
    (hstyles : v.styles = [])
    (hchanges : ∀ change ∈ changes, change.IsProper) :
    ∃ v', ColumnChange.run v changes = .ok v'
      ∧ (∀ col, v'.width col
          = ((ColumnMaps.usual.run v.minWidth changes).width col).getD v.defaultWidth)
      ∧ (∀ col, v'.isHidden col = (ColumnMaps.usual.run v.minWidth changes).hidden col)
      ∧ (∀ entry ∈ v'.styles, ¬ (entry.2.width = none ∧ entry.2.hidden = false))
      ∧ v'.hiddenColumns.Pairwise (· < ·)
      ∧ (∀ col, col ∈ v'.hiddenColumns ↔ v'.isHidden col = true)
      ∧ ∀ index count, 0 < count →
          (v'.shiftColumns index count).shiftColumns index (-count) = v' := by
  obtain ⟨v', hrun, hkeeps, hdefault⟩ := (keeps_usual hstyles).run hchanges
  refine ⟨v', hrun, fun col => ?_, fun col => ?_, fun entry hentry hnothing => ?_,
    hiddenColumns_increase hkeeps.sorted, fun col => mem_hiddenColumns_iff hkeeps.sorted,
    fun index count hcount => v'.shiftColumns_shiftColumns index hcount⟩
  · rw [width, hkeeps.style, hdefault]
  · rw [isHidden, hkeeps.style]
  · refine hkeeps.tells entry hentry ?_
    rw [ColumnStyle.usual, ← hnothing.1, ← hnothing.2]

/-- The hidden column is pushed on, gets the least width, is shown again and moves back with the
wide one, which is hidden in the end. -/
theorem run_columnChanges_pushedAside :
    ∃ v', ColumnChange.run usual
        [.resize 3 (.int 250), .setHidden 5 true, .resize 5 (.int 10), .shift 4 2,
          .setHidden 7 false, .shift 0 (-2), .setHidden 1 true] = .ok v'
      ∧ v'.width 1 = 250 ∧ v'.isHidden 1 = true ∧ v'.width 5 = usualMinWidth
      ∧ 1 ∈ v'.hiddenColumns ∧ 5 ∉ v'.hiddenColumns := by
  obtain ⟨v', hrun, hwidth, hhidden, -, -, hlisted, -⟩ :=
    @run_columnChanges usual
      [.resize 3 (.int 250), .setHidden 5 true, .resize 5 (.int 10), .shift 4 2,
        .setHidden 7 false, .shift 0 (-2), .setHidden 1 true]
      rfl (by simp [ColumnChange.IsProper, Number.truncate])
  have hshown : v'.isHidden 5 = false := (hhidden 5).trans rfl
  have hone : v'.isHidden 1 = true := (hhidden 1).trans rfl
  refine ⟨v', hrun, (hwidth 1).trans rfl, hone, (hwidth 5).trans rfl, (hlisted 1).2 hone, ?_⟩
  rw [hlisted, hshown]
  decide

end View

end Lemmas

end Spreadsheet
