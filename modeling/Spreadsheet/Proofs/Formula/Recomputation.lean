import Spreadsheet.Formula.Source
import Spreadsheet.Proofs.Formula.Simulation

/-!
# Evaluation without a memo

The plainest evaluator computes a formula anew whenever its cell is read.  It
keeps no values and does not notice cycles; a bound on the depth of its reads
makes it end.

Results: a greater bound gives the same outcome (`recompute_extension`,
`recomputeText_extension`), and two ways of reading the cells of a sheet that
are related give related values (`evaluateText_rel`).
-/

namespace Spreadsheet
namespace Formula

/-- A computation that may run out of steps. -/
abbrev Bounded := ExceptT Fault Option

/-- A computation for every bound. -/
abbrev Unbounded := ReaderT Nat Bounded

namespace Source

/-- The value of a cell, computed anew: every formula that is entered takes one
step of the bound. -/
def recompute (src : Source) (today : Date) (bound : Nat) (r : Reference) :
    Bounded (Option Scalar) :=
  match src.cell? r with
  | none => pure none
  | some cell =>
      match cell.source? with
      | none => pure cell.value?
      | some text =>
          match bound with
          | 0 => none
          | bound + 1 => evaluateText (src.environment today (src.recompute today bound)) text.toList

/-- The value of a formula, its cells computed anew at every reading. -/
def recomputeText (src : Source) (today : Date) (bound : Nat) (s : List Char) :
    Bounded (Option Scalar) :=
  evaluateText (src.environment today (src.recompute today bound)) s

/-- The cell is computed from a formula. -/
def IsFormula (src : Source) (r : Reference) : Prop :=
  ∃ cell text, src.cell? r = some cell ∧ cell.source? = some text

end Source

section Instances

instance {m : Type → Type} [Monad m] [LawfulMonad m] : LawfulFailure (ExceptT Fault m) where
  throw_bind fault next := by
    apply ExceptT.ext
    simp

instance {ρ : Type} {m : Type → Type} [Monad m] [MonadExceptOf Fault m] [LawfulFailure m] :
    LawfulFailure (ReaderT ρ m) where
  throw_bind fault next := by
    funext r
    exact LawfulFailure.throw_bind fault fun a => next a r

end Instances

theorem mentionsOnly_all
    (s : List Char) :
    MentionsOnly (fun _ => True) s :=
  fun _ _ => trivial

namespace Source

section Environments

variable {src : Source} {today : Date}

theorem isEmpty_iff
    {r : Reference} :
    src.isEmpty r = true ↔ src.cell? r = none ∨ src.cell? r = some .blank := by
  unfold isEmpty
  split <;> simp_all

theorem read_of_isEmpty
    {idle : List Reference} {r : Reference}
    (hr : src.isEmpty r = true) :
    src.read today idle r = pure none := by
  rw [read]
  rcases isEmpty_iff.1 hr with h | h
  · rw [h]
  · rw [h]
    rfl

theorem recompute_of_isEmpty
    {bound : Nat} {r : Reference}
    (hr : src.isEmpty r = true) :
    src.recompute today bound r = pure none := by
  rw [recompute]
  rcases isEmpty_iff.1 hr with h | h
  · rw [h]
  · rw [h]
    rfl

/-- Two ways of reading the cells of a sheet that are related where a formula
reads give related values of it. -/
theorem evaluateText_rel
    {m n : Type → Type} [Monad m] [Monad n] [MonadExcept Fault m] [MonadExcept Fault n]
    [LawfulFailure m] [LawfulFailure n]
    {sim : Simulation m n} {cells : Reference → Prop}
    {value : Reference → m (Option Scalar)} {value' : Reference → n (Option Scalar)}
    (hempty : ∀ r, src.isEmpty r = true → value r = pure none)
    (hempty' : ∀ r, src.isEmpty r = true → value' r = pure none)
    (hvalue : ∀ r, cells r → sim.rel (value r) (value' r))
    {s : List Char}
    (hs : MentionsOnly cells s) :
    sim.rel (evaluateText (src.environment today value) s)
      (evaluateText (src.environment today value') s) := by
  have hagree : sim.Agree (src.environment today value) (src.environment today value') cells :=
    { today := rfl
      present := fun _ => rfl
      value := fun hr => hvalue _ hr
      readsEmpty := hempty
      readsEmpty' := hempty' }
  exact Simulation.evaluateText_rel hagree hs

end Environments

end Source

section Bounds

theorem Bounded.bind_of_none
    {α β : Type} {x : Bounded α}
    (f : α → Bounded β)
    (h : x = none) :
    (x >>= f) = none := by
  rw [h]
  rfl

theorem Bounded.bind_of_error
    {α β : Type} {x : Bounded α} {fault : Fault}
    (f : α → Bounded β)
    (h : x = some (.error fault)) :
    (x >>= f) = some (.error fault) := by
  rw [h]
  rfl

theorem Bounded.bind_of_ok
    {α β : Type} {x : Bounded α} {a : α}
    (f : α → Bounded β)
    (h : x = some (.ok a)) :
    (x >>= f) = f a := by
  rw [h]
  rfl

/-- The second computation gives what the first gives within its bound. -/
def extension : Simulation Bounded Bounded where
  rel x y := ∀ outcome, x = some outcome → y = some outcome
  pure_rel a := fun outcome h => h
  throw_rel fault := fun outcome h => h
  bind_rel {α β x y f g} hx hf := by
    intro outcome h
    cases hout : x with
    | none => simp [Bounded.bind_of_none f hout] at h
    | some result =>
        have hy := hx result hout
        cases result with
        | error fault =>
            rw [Bounded.bind_of_error f hout] at h
            rw [Bounded.bind_of_error g hy]
            exact h
        | ok a =>
            rw [Bounded.bind_of_ok f hout] at h
            rw [Bounded.bind_of_ok g hy]
            exact hf a outcome h

/-- The second computation is the first within one bound. -/
def within (bound : Nat) : Simulation Unbounded Bounded where
  rel x y := x bound = y
  pure_rel a := rfl
  throw_rel fault := rfl
  bind_rel {α β x y f g} hx hf := by
    show (x bound >>= fun a => f a bound) = y >>= g
    rw [hx]
    exact bind_congr hf

variable {src : Source} {today : Date}

namespace Source

theorem recompute_succ
    (bound : Nat) (r : Reference) :
    extension.rel (src.recompute today bound r) (src.recompute today (bound + 1) r) := by
  induction bound generalizing r with
  | zero =>
      rw [recompute, recompute]
      split
      · exact extension.pure_rel _
      · split
        · exact extension.pure_rel _
        · intro outcome h
          simp at h
  | succ bound ih =>
      rw [recompute, recompute]
      split
      · exact extension.pure_rel _
      · split
        · exact extension.pure_rel _
        · exact evaluateText_rel (fun _ => recompute_of_isEmpty) (fun _ => recompute_of_isEmpty)
            (fun r _ => ih r) (mentionsOnly_all _)

theorem recompute_extension
    {bound larger : Nat}
    (hle : bound ≤ larger)
    (r : Reference) :
    extension.rel (src.recompute today bound r) (src.recompute today larger r) := by
  induction hle with
  | refl => exact fun _ h => h
  | step _ ih => exact fun outcome h => recompute_succ _ r outcome (ih outcome h)

/-- A greater bound gives the same outcome. -/
theorem recomputeText_extension
    {bound larger : Nat}
    (hle : bound ≤ larger)
    (s : List Char) :
    extension.rel (src.recomputeText today bound s) (src.recomputeText today larger s) :=
  evaluateText_rel (fun _ => recompute_of_isEmpty) (fun _ => recompute_of_isEmpty)
    (fun r _ => recompute_extension hle r) (mentionsOnly_all s)

/-- Reading cells anew, for every bound. -/
def recomputed (src : Source) (today : Date) (r : Reference) : Unbounded (Option Scalar) :=
  fun bound => src.recompute today bound r

theorem recomputed_of_isEmpty
    {r : Reference}
    (hr : src.isEmpty r = true) :
    src.recomputed today r = pure none :=
  funext fun _ => recompute_of_isEmpty hr

/-- Evaluation for every bound is evaluation within each of them. -/
theorem evaluateText_recomputed
    (s : List Char) (bound : Nat) :
    evaluateText (src.environment today (src.recomputed today)) s bound
      = src.recomputeText today bound s := by
  have hcells : ∀ r, True → (within bound).rel (src.recomputed today r)
      (src.recompute today bound r) := fun _ _ => rfl
  exact evaluateText_rel (fun _ => recomputed_of_isEmpty) (fun _ => recompute_of_isEmpty) hcells
    (mentionsOnly_all s)

end Source
end Bounds

end Formula
end Spreadsheet
