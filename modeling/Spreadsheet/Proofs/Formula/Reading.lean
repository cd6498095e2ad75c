import Mathlib.Data.List.Forall2
import Spreadsheet.Proofs.Formula.Context

/-!
# Numbers read from cells

A cell that is read in a context of its own shows arithmetic a number, or fails.
What the evaluation without a memo finds in the cell within some bound is the same
number or the same fault, and a function of a range sees these numbers in its cells,
from left to right and row by row.

Results: a cell shows a number if the evaluation without a memo finds it within some
bound (`reading_eq_ok_iff`), a total that is found is the sum of the numbers in its
cells (`exists_sum_of_total`), and a formula has a value that is found or the error
marker (`evaluate_cases`).
-/

namespace Spreadsheet
namespace Formula

section Bounds

variable {α β : Type}

theorem Bounded.bind_eq_ok_iff
    {x : Bounded α} {f : α → Bounded β} {b : β} :
    (x >>= f) = some (.ok b) ↔ ∃ a, x = some (.ok a) ∧ f a = some (.ok b) := by
  constructor
  · intro h
    cases hx : x with
    | none => simp [Bounded.bind_of_none f hx] at h
    | some result =>
        cases result with
        | error fault =>
            rw [Bounded.bind_of_error f hx] at h
            cases h
        | ok a => exact ⟨a, rfl, (Bounded.bind_of_ok f hx).symm.trans h⟩
  · rintro ⟨a, hx, h⟩
    rw [Bounded.bind_of_ok f hx, h]

theorem Bounded.ofExcept_eq
    (x : Except Fault α) :
    (ofExcept x : Bounded α) = some x := by
  cases x <;> rfl

/-- The results of a sequence of computations are theirs. -/
theorem Bounded.mapM_eq_ok_iff
    {f : α → Bounded β} {xs : List α} {ys : List β} :
    xs.mapM f = some (.ok ys) ↔ List.Forall₂ (fun x y => f x = some (.ok y)) xs ys := by
  constructor
  · intro h
    induction xs generalizing ys with
    | nil =>
        rw [List.mapM_nil] at h
        obtain rfl := Except.ok.inj (Option.some.inj h)
        exact .nil
    | cons x xs ih =>
        rw [List.mapM_cons] at h
        obtain ⟨y, hy, h⟩ := Bounded.bind_eq_ok_iff.1 h
        obtain ⟨rest, hrest, h⟩ := Bounded.bind_eq_ok_iff.1 h
        obtain rfl := Except.ok.inj (Option.some.inj h)
        exact .cons hy (ih hrest)
  · intro h
    induction h with
    | nil => rfl
    | cons hy _ ih =>
        rw [List.mapM_cons, Bounded.bind_of_ok _ hy, Bounded.bind_of_ok _ ih]
        rfl

end Bounds

namespace Environment

variable {env : Environment Bounded}

theorem exists_sum_of_foldlM
    {cells : List Reference} {first last : Number}
    (h : (cells.foldlM (fun sum r => do ofExcept (sum.add (← env.numeric r))) first :
      Bounded Number) = some (.ok last)) :
    ∃ numbers, List.Forall₂ (fun r x => env.numeric r = some (.ok x)) cells numbers
      ∧ numbers.foldlM Number.add first = .ok last := by
  induction cells generalizing first with
  | nil =>
      obtain rfl := Except.ok.inj (Option.some.inj h)
      exact ⟨[], .nil, rfl⟩
  | cons r cells ih =>
      rw [List.foldlM_cons] at h
      obtain ⟨next, hnext, h⟩ := Bounded.bind_eq_ok_iff.1 h
      obtain ⟨x, hx, hadd⟩ := Bounded.bind_eq_ok_iff.1 hnext
      rw [Bounded.ofExcept_eq] at hadd
      obtain ⟨numbers, hnumbers, hsum⟩ := ih h
      refine ⟨x :: numbers, .cons hx hnumbers, ?_⟩
      rw [List.foldlM_cons, Option.some.inj hadd]
      exact hsum

/-- A total is the sum of the numbers in its cells. -/
theorem exists_sum_of_total
    {cells : List Reference} {total : Number}
    (h : env.total cells = some (.ok total)) :
    ∃ numbers, List.Forall₂ (fun r x => env.numeric r = some (.ok x)) cells numbers
      ∧ Number.sum numbers = .ok total :=
  exists_sum_of_foldlM h

end Environment

namespace Source

/-- The number that arithmetic sees in a cell, which is read in a context of its own. -/
def reading (src : Source) (today : Date) (r : Reference) : Except Fault Number :=
  ((src.numeric today r).run.run []).1

/-- The environment in which every cell is computed anew within a bound. -/
def bounded (src : Source) (today : Date) (bound : Nat) : Environment Bounded :=
  src.environment today (src.recompute today bound)

section Lemmas

variable {src : Source} {today : Date} {r : Reference}

theorem readsEmpty_bounded
    (bound : Nat) :
    (src.bounded today bound).ReadsEmpty :=
  fun _ hr => recompute_of_isEmpty hr

theorem readsEmpty_read
    (today : Date) (idle : List Reference) :
    (src.environment today (src.read today idle)).ReadsEmpty :=
  fun _ hr => read_of_isEmpty hr

theorem sound_nil :
    src.Sound today [] := by
  intro r value h
  simp at h

/-- The rest of a computation that fails or returns works on its result alone. -/
theorem run_bind_ofExcept
    {α β : Type}
    (x : Evaluation α) (f : α → Except Fault β) (memo : Memo) :
    ((x >>= fun a => ofExcept (f a)).run.run memo).1 = (x.run.run memo).1 >>= f := by
  rcases hrun : x memo with ⟨result, next⟩
  have hx : x.run.run memo = (result, next) := hrun
  cases result with
  | error fault =>
      rw [hx]
      exact congrArg Prod.fst (Attempt.bind_of_error hrun)
  | ok a =>
      have hrest : ((ofExcept (f a) : Evaluation β) next).1 = f a := by
        cases f a <;> rfl
      rw [hx]
      exact (congrArg Prod.fst (Attempt.bind_of_ok hrun)).trans hrest

theorem run_map
    {α β : Type}
    (x : Evaluation α) (f : α → β) (memo : Memo) :
    ((do return f (← x) : Evaluation β).run.run memo).1 = ((x.run.run memo).1).map f := by
  refine (run_bind_ofExcept x (fun a => .ok (f a)) memo).trans ?_
  cases (x.run.run memo).1 <;> rfl

/-- What is computed in a context of its own has the outcome of the computation without a
memo that it tracks. -/
theorem Tracks.settles
    {α : Type} {x : Evaluation α} {y : Unbounded α}
    (hformulas : ∀ r, src.IsFormula r → r ∈ src.formulas)
    (h : Tracks src today src.formulas x y) :
    Settles src today y (x.run.run []).1 :=
  (h.outcome sound_nil).settles hformulas h.mono

theorem read_tracks_recomputed
    (hformulas : ∀ r, src.IsFormula r → r ∈ src.formulas)
    (r : Reference) :
    (tracking src today src.formulas).rel (src.read today src.formulas r)
      (src.recomputed today r) :=
  read_tracks fun hr => Or.inr (hformulas r hr)

/-- The reading of a cell is the outcome of the evaluation without a memo. -/
theorem reading_settles
    (hformulas : ∀ r, src.IsFormula r → r ∈ src.formulas)
    (today : Date) (r : Reference) :
    Settles src today (fun bound => (src.bounded today bound).numeric r)
      (src.reading today r) := by
  have htracks : Tracks src today src.formulas (src.numeric today r)
      ((src.environment today (src.recomputed today)).numeric r) :=
    (tracking src today src.formulas).bind_rel (read_tracks_recomputed hformulas r) fun value =>
      (tracking src today src.formulas).ofExcept_rel (coerceValue value)
  have hbounded : (src.environment today (src.recomputed today)).numeric r
      = fun bound => (src.bounded today bound).numeric r :=
    funext fun bound => (within bound).bind_rel rfl fun value =>
      (within bound).ofExcept_rel (coerceValue value)
  rw [← hbounded]
  exact htracks.settles hformulas

/-- A cell shows the number that is found in it within some bound. -/
theorem reading_eq_ok_iff
    (hformulas : ∀ r, src.IsFormula r → r ∈ src.formulas)
    {x : Number} :
    src.reading today r = .ok x ↔ ∃ bound, (src.bounded today bound).numeric r = some (.ok x) := by
  have hsettles := reading_settles hformulas today r
  constructor
  · intro h
    by_cases hnever : ∀ bound, (src.bounded today bound).numeric r = none
    · obtain ⟨_, _, -, -, -, hfault⟩ := hsettles.cycles hnever
      rw [hfault] at h
      cases h
    · obtain ⟨bound, hbound⟩ := not_forall.1 hnever
      obtain ⟨outcome, houtcome⟩ := Option.ne_none_iff_exists'.1 hbound
      have hvalue := hsettles.finishes bound outcome houtcome
      rw [h] at hvalue
      exact ⟨bound, hvalue ▸ houtcome⟩
  · rintro ⟨bound, hbound⟩
    exact hsettles.finishes bound _ hbound

theorem numeric_extension
    {bound larger : Nat}
    (hle : bound ≤ larger)
    (r : Reference) :
    extension.rel ((src.bounded today bound).numeric r) ((src.bounded today larger).numeric r) :=
  Simulation.numeric_rel (recompute_extension hle r)

/-- One bound is enough to find the numbers that some cells show. -/
theorem exists_bound_of_readings
    (hformulas : ∀ r, src.IsFormula r → r ∈ src.formulas)
    {cells : List Reference} {numbers : List Number}
    (h : List.Forall₂ (fun r x => src.reading today r = .ok x) cells numbers) :
    ∃ bound, List.Forall₂ (fun r x => (src.bounded today bound).numeric r = some (.ok x)) cells
      numbers := by
  induction h with
  | nil => exact ⟨0, .nil⟩
  | cons hx _ ih =>
      obtain ⟨first, hfirst⟩ := (reading_eq_ok_iff hformulas).1 hx
      obtain ⟨second, hsecond⟩ := ih
      refine ⟨max first second, .cons ?_ (hsecond.imp fun r x hr => ?_)⟩
      · exact numeric_extension (Nat.le_max_left _ _) _ _ hfirst
      · exact numeric_extension (Nat.le_max_right _ _) r _ hr

/-- A formula has the value that is found within some bound, or the error marker. -/
theorem evaluate_cases
    (hformulas : ∀ r, src.IsFormula r → r ∈ src.formulas)
    (today : Date) (formula : String) :
    (∃ bound, src.recomputeText today bound formula.toList
        = some (.ok (src.evaluate today formula)))
      ∨ src.evaluate today formula = some (.text errorMarker) := by
  have hsettles : Settles src today (fun bound => src.recomputeText today bound formula.toList)
      (src.attempt today formula) := attempt_settles hformulas formula
  by_cases hnever : ∀ bound, src.recomputeText today bound formula.toList = none
  · exact .inr (evaluate_of_cycles hformulas hnever)
  · obtain ⟨bound, hbound⟩ := not_forall.1 hnever
    obtain ⟨outcome, houtcome⟩ := Option.ne_none_iff_exists'.1 hbound
    have hvalue := evaluate_of_finishes hformulas houtcome
    cases outcome with
    | error fault => exact .inr hvalue
    | ok value =>
        refine .inl ⟨bound, ?_⟩
        rw [hvalue]
        exact houtcome

end Lemmas

end Source
end Formula
end Spreadsheet
