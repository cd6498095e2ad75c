import Spreadsheet.Proofs.Formula.Context
import Spreadsheet.Proofs.Reference.Rectangle

/-!
# Locality of evaluation

A formula reaches the cells that it mentions, and those that the formulas of
reached cells mention.  Two grids with the same cells there give it the same
value, however large they are and whatever else they hold.  The number of
columns must be an integer in both: a range is cut to the grid before it is
walked, and it cannot be cut to any other number.

Results: cutting a range to a sheet loses none of its cells but empty ones
(`Source.present_eq`), and a formula has the same value in two grids that agree
where it reaches (`evaluate_eq_of_reaches`).
-/

namespace Spreadsheet

namespace Formula

/-- The cells that the value of a text can depend on: those that it mentions,
and those that the formulas of such cells mention. -/
inductive Reaches (src : Source) (s : List Char) : Reference → Prop
  | mention
      {r : Reference}
      (hr : Mentions s r) :
      Reaches src s r
  | follow
      {r next : Reference} {cell : Cell} {text : String}
      (hr : Reaches src s r)
      (hcell : src.cell? r = some cell)
      (htext : cell.source? = some text)
      (hnext : Mentions text.toList next) :
      Reaches src s next

namespace Source

/-- The sheet has this many columns, and no cell outside its columns and rows. -/
structure HasColumns (src : Source) (columns : Int) : Prop where
  columns_eq : src.columns = .int columns
  inside {r : Reference} :
    src.isEmpty r = false → (r.col : Int) < columns ∧ (r.row : Int) < (src.rows : Int)

section Lemmas

variable {src src' : Source} {columns columns' : Int} {today : Date}

/-- Cutting a range to the sheet loses none of its cells but empty ones. -/
theorem present_eq
    {m : Type → Type} {value : Reference → m (Option Scalar)}
    (hsrc : src.HasColumns columns)
    (s : List Char) :
    (src.environment today value).present s
      = (rangeOf? s).map fun range =>
          (range.elim [] Range.toList).filter fun r => !src.isEmpty r := by
  unfold Environment.present
  rw [rangeCells_eq]
  cases rangeOf? s with
  | error fault => rfl
  | ok range =>
      cases range with
      | none => rfl
      | some range =>
          have hclip : range.clippedTo? (src.environment today value).columns
              (src.environment today value).rows = .ok (range.clipped? columns src.rows) := by
            simp only [environment, hsrc.columns_eq, Range.clippedTo?]
          have hfilter : ((range.clipped? columns src.rows).elim [] Range.toList).filter
                (fun r => !src.isEmpty r)
              = range.toList.filter fun r => !src.isEmpty r := by
            rw [Range.toList_clipped?, List.filter_filter]
            refine List.filter_congr fun r _ => ?_
            cases hr : src.isEmpty r with
            | true => simp
            | false => simp [hsrc.inside hr]
          simp only [bind, Except.bind, hclip, pure, Except.pure, Except.map, Option.elim_some]
          exact congrArg Except.ok hfilter

theorem present_congr
    {m n : Type → Type} {value : Reference → m (Option Scalar)}
    {value' : Reference → n (Option Scalar)} {cells : Reference → Prop} {s : List Char}
    (hsrc : src.HasColumns columns)
    (hsrc' : src'.HasColumns columns')
    (hcells : ∀ r, cells r → src.cell? r = src'.cell? r)
    (hs : MentionsOnly cells s) :
    (src.environment today value).present s = (src'.environment today value').present s := by
  rw [present_eq hsrc, present_eq hsrc']
  cases hrange : rangeOf? s with
  | error fault => rfl
  | ok range =>
      cases range with
      | none => rfl
      | some range =>
          refine congrArg Except.ok (List.filter_congr fun r hr => ?_)
          have hr : cells r := hs (mentions_of_mem_rangeOf? hrange (Range.mem_toList.1 hr))
          rw [isEmpty, isEmpty, hcells r hr]

end Lemmas

end Source

/-- Equality of computations. -/
def equality : Simulation Bounded Bounded where
  rel x y := x = y
  pure_rel _ := rfl
  throw_rel _ := rfl
  bind_rel hx hf := by
    rw [hx]
    exact bind_congr hf

namespace Source

section Lemmas

variable {src src' : Source} {columns columns' : Int} {today : Date}

theorem evaluateText_congr
    {cells : Reference → Prop} {value value' : Reference → Bounded (Option Scalar)}
    (hsrc : src.HasColumns columns)
    (hsrc' : src'.HasColumns columns')
    (hcells : ∀ r, cells r → src.cell? r = src'.cell? r)
    (hempty : ∀ r, src.isEmpty r = true → value r = pure none)
    (hempty' : ∀ r, src'.isEmpty r = true → value' r = pure none)
    (hvalue : ∀ r, cells r → value r = value' r)
    {s : List Char}
    (hs : MentionsOnly cells s) :
    evaluateText (src.environment today value) s
      = evaluateText (src'.environment today value') s := by
  have hagree : equality.Agree (src.environment today value) (src'.environment today value')
      cells :=
    { today := rfl
      present := present_congr hsrc hsrc' hcells
      value := fun hr => hvalue _ hr
      readsEmpty := hempty
      readsEmpty' := hempty' }
  exact Simulation.evaluateText_rel hagree hs

/-- The cells that a text reaches have the same values in both sheets. -/
theorem recompute_congr
    {s : List Char}
    (hsrc : src.HasColumns columns)
    (hsrc' : src'.HasColumns columns')
    (hcells : ∀ r, Reaches src s r → src.cell? r = src'.cell? r)
    (bound : Nat) {r : Reference}
    (hr : Reaches src s r) :
    src.recompute today bound r = src'.recompute today bound r := by
  induction bound generalizing r with
  | zero =>
      rw [recompute, recompute, ← hcells r hr]
  | succ bound ih =>
      rw [recompute, recompute, ← hcells r hr]
      cases hcell : src.cell? r with
      | none => rfl
      | some cell =>
          cases htext : cell.source? with
          | none => simp only [htext]
          | some text =>
              simp only [htext]
              exact evaluateText_congr hsrc hsrc' hcells (fun _ => recompute_of_isEmpty)
                (fun _ => recompute_of_isEmpty) (fun r hr => ih hr)
                fun next hnext => hr.follow hcell htext hnext

theorem recomputeText_congr
    {s : List Char}
    (hsrc : src.HasColumns columns)
    (hsrc' : src'.HasColumns columns')
    (hcells : ∀ r, Reaches src s r → src.cell? r = src'.cell? r)
    (bound : Nat) :
    src.recomputeText today bound s = src'.recomputeText today bound s :=
  evaluateText_congr hsrc hsrc' hcells (fun _ => recompute_of_isEmpty)
    (fun _ => recompute_of_isEmpty) (fun _ hr => recompute_congr hsrc hsrc' hcells bound hr)
    fun _ hr => .mention hr

end Lemmas

end Source

end Formula

namespace Grid

/-- A cell that is not empty lies in a row and within its length. -/
theorem lt_of_isEmpty_eq_false
    {g : Grid} {r : Reference}
    (hr : g.source.isEmpty r = false) :
    r.col < widestRow g.rows ∧ r.row < g.rowCount := by
  have hget : g.get? r ≠ none := by
    intro hnone
    simp [Formula.Source.isEmpty, source, hnone] at hr
  rw [get?_eq] at hget
  cases hrow : g.rows[r.row]? with
  | none => simp [hrow] at hget
  | some row =>
      obtain ⟨hlt, hrow'⟩ := List.getElem?_eq_some_iff.1 hrow
      cases hcol : row[r.col]? with
      | none => simp [hrow, hcol] at hget
      | some cell =>
          obtain ⟨hltCol, -⟩ := List.getElem?_eq_some_iff.1 hcol
          have hlength := length_le_widestRow (hrow' ▸ List.getElem_mem hlt)
          exact ⟨Nat.lt_of_lt_of_le hltCol hlength, hlt⟩

/-- A grid has no cells outside its columns and rows. -/
theorem hasColumns
    {g : Grid} {columns : Int}
    (h : g.columnCount = .int columns) :
    g.source.HasColumns columns := by
  have hwidest : (widestRow g.rows : Int) ≤ columns := by
    cases hmin : g.minColumns with
    | int i =>
        rw [columnCount_of_int hmin] at h
        obtain rfl := Number.int.inj h
        simp only [width, hmin]
        omega
    | float x =>
        simp only [columnCount, hmin, Number.greatest, List.foldl_cons, List.foldl_nil] at h
        split at h
        · exact Int.le_of_eq (Number.int.inj h)
        · simp at h
  refine ⟨h, fun {r} hr => ?_⟩
  obtain ⟨hcol, hrow⟩ := lt_of_isEmpty_eq_false hr
  constructor
  · omega
  · exact Int.ofNat_lt.2 hrow

end Grid

namespace Formula

/-- A formula has the same value in two grids whose columns can be counted and
which hold the same cells wherever it reaches. -/
theorem evaluate_eq_of_reaches
    {g₁ g₂ : Grid} {columns₁ columns₂ : Int} {formula : String}
    (h₁ : g₁.columnCount = .int columns₁)
    (h₂ : g₂.columnCount = .int columns₂)
    (hcells : ∀ r, Reaches g₁.source formula.toList r → g₁.get? r = g₂.get? r)
    (today : Date) :
    g₁.source.evaluate today formula = g₂.source.evaluate today formula := by
  have hbounded : ∀ bound, g₁.source.recomputeText today bound formula.toList
      = g₂.source.recomputeText today bound formula.toList :=
    Source.recomputeText_congr (Grid.hasColumns h₁) (Grid.hasColumns h₂) hcells
  have hformulas : ∀ (g : Grid) r, g.source.IsFormula r → r ∈ g.source.formulas :=
    fun _ _ hr => Grid.mem_formulas hr
  by_cases hfinishes : ∃ bound outcome,
      g₁.source.recomputeText today bound formula.toList = some outcome
  · obtain ⟨bound, outcome, h⟩ := hfinishes
    have h' := h
    rw [hbounded] at h'
    rw [Source.evaluate_of_finishes (hformulas g₁) h, Source.evaluate_of_finishes (hformulas g₂) h']
  · have h : ∀ bound, g₁.source.recomputeText today bound formula.toList = none := by
      intro bound
      by_contra hsome
      obtain ⟨outcome, houtcome⟩ := Option.ne_none_iff_exists'.1 hsome
      exact hfinishes ⟨bound, outcome, houtcome⟩
    have h' : ∀ bound, g₂.source.recomputeText today bound formula.toList = none :=
      fun bound => (hbounded bound).symm.trans (h bound)
    rw [Source.evaluate_of_cycles (hformulas g₁) h, Source.evaluate_of_cycles (hformulas g₂) h']

/-- A part of a text starts one of its ends. -/
theorem forall_isInfix
    {s : List Char} {p : List Char → Prop}
    (h : ∀ t ∈ s.tails, ∀ part ∈ t.inits, p part)
    {part : List Char}
    (hpart : part <:+: s) :
    p part := by
  obtain ⟨t, hstart, hend⟩ := List.infix_iff_prefix_suffix.1 hpart
  exact h t ((List.mem_tails _ _).2 hend) part ((List.mem_inits _ _).2 hstart)

/-- A grid of some rows without a history. -/
def gridOf (minColumns : Number) (rows : List Row) : Grid :=
  ⟨minColumns, rows, .empty History.defaultLimit⟩

/-- A cell of a whole number. -/
def numberCell (i : Int) : Option Cell := some (.plain (.number (.int i)) .number none)

/-- Twice the first cell depends neither on the size of the grid nor on another
cell. -/
theorem evaluate_double_eq :
    (gridOf (.int 10) [[numberCell 2]]).source.evaluate ⟨2024, 3, 9, by decide⟩ "=A1*2"
      = (gridOf (.int 20) [[numberCell 2, none], [none, numberCell 7]]).source.evaluate
        ⟨2024, 3, 9, by decide⟩ "=A1*2" := by
  have h₁ : (gridOf (.int 10) [[numberCell 2]]).columnCount = .int 10 := by decide +kernel
  have h₂ : (gridOf (.int 20) [[numberCell 2, none], [none, numberCell 7]]).columnCount
      = .int 20 := by decide +kernel
  have hlabels : ∀ t ∈ "=A1*2".toList.tails, ∀ part ∈ t.inits,
      Reference.parse? part = .ok none ∨ Reference.parse? part = .ok (some ⟨0, 0⟩) := by
    decide +kernel
  have hranges : ∀ t ∈ "=A1*2".toList.tails, ∀ part ∈ t.inits,
      Range.parse? part = .ok none := by
    decide +kernel
  refine evaluate_eq_of_reaches h₁ h₂ (fun r hr => ?_) _
  have hfirst : r = ⟨0, 0⟩ := by
    induction hr with
    | mention hr =>
        cases hr with
        | label hpart hlabel =>
            rcases forall_isInfix hlabels hpart with h | h
            · simp [h] at hlabel
            · rw [h] at hlabel
              exact (Option.some.inj (Except.ok.inj hlabel)).symm
        | range hpart hrange hr =>
            rw [forall_isInfix hranges hpart] at hrange
            simp at hrange
    | follow hr hcell htext hnext ih =>
        subst ih
        obtain rfl := Option.some.inj hcell
        simp [Cell.source?] at htext
  subst hfirst
  rfl

/-- Where the columns of a grid cannot be counted, its least width matters: a
wider range cannot be cut to it. -/
theorem evaluate_ne_of_fractional_columns :
    (∀ r, Reaches (gridOf (.int 10) [[none]]).source "=SUM(A1:Z1)".toList r →
      (gridOf (.int 10) [[none]]).get? r
        = (gridOf (.float (Numeral.toBinary64 ⟨false, ['1', '0'], some ['5'], none⟩))
            [[none]]).get? r)
      ∧ (gridOf (.int 10) [[none]]).source.evaluate ⟨2024, 3, 9, by decide⟩ "=SUM(A1:Z1)"
        = some (.number (.int 0))
      ∧ (gridOf (.float (Numeral.toBinary64 ⟨false, ['1', '0'], some ['5'], none⟩))
          [[none]]).source.evaluate ⟨2024, 3, 9, by decide⟩ "=SUM(A1:Z1)"
        = some (.text errorMarker) := by
  refine ⟨fun _ _ => rfl, ?_, ?_⟩
  · have hzero : (gridOf (.int 10) [[none]]).source.recomputeText ⟨2024, 3, 9, by decide⟩ 0
        "=SUM(A1:Z1)".toList = some (.ok (some (.number (.int 0)))) := by
      rw [Source.recomputeText, evaluateText_eq]
      change @Eq (Option (Except Fault (Option Scalar))) _ _
      decide +kernel
    exact Source.evaluate_of_finishes (fun r hr => Grid.mem_formulas hr) hzero
  · have hattempt : (gridOf (.float (Numeral.toBinary64 ⟨false, ['1', '0'], some ['5'], none⟩))
        [[none]]).source.attempt ⟨2024, 3, 9, by decide⟩ "=SUM(A1:Z1)" = .error .wrongType := by
      rw [Source.attempt, evaluateText_eq]
      decide +kernel
    rw [Source.evaluate, hattempt]

end Formula
end Spreadsheet
