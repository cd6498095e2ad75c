import Spreadsheet.Grid.Sorting
import Spreadsheet.Proofs.Formula.Recomputation

/-!
# The memo and the cells in progress

A computation with a memo tracks the same computation without one: it has the
same outcome within some bound, or a formula cell stands in its way that no
bound lets it pass.  The memo then holds values that the cells have without it,
so what was read before, and whether it failed, does not matter.

A cell that is met while it is in progress is such a cell.  When its own reading
ends, the reading has met it again within every bound, so it needs itself and is
finished within none.

Results: reading a cell tracks computing it anew (`read_tracks`), and so does
evaluating a text (`evaluateText_tracks`).
-/

namespace Spreadsheet
namespace Formula
namespace Source

section Tracking

variable {src : Source} {today : Date} {idle : List Reference}

/-- Every value of the memo is that of the cell computed anew. -/
def Sound (src : Source) (today : Date) (memo : Memo) : Prop :=
  ∀ r value, (r, value) ∈ memo → ∃ bound, src.recompute today bound r = some (.ok value)

/-- A formula cell that a computation needs: within no bound does the computation
finish before the cell does.  It is in progress, or else it needs itself. -/
structure Blocks {α : Type} (src : Source) (today : Date) (idle : List Reference)
    (y : Unbounded α) (r : Reference) : Prop where
  isFormula : src.IsFormula r
  hasLabel : ∃ label, r.label = .ok label
  needed {bound : Nat} : y bound ≠ none → r ∉ idle ∧ src.recompute today bound r ≠ none
  cyclic {bound : Nat} : r ∈ idle → src.recompute today bound r = none

/-- The outcome of a computation with a memo is one of the computation without
it, or a cell in progress stands in its way. -/
inductive Outcome {α : Type} (src : Source) (today : Date) (idle : List Reference)
    (y : Unbounded α) : Except Fault α → Prop
  | finished
      {bound : Nat} {result : Except Fault α}
      (h : y bound = some result) :
      Outcome src today idle y result
  | blocked
      {r : Reference}
      (h : Blocks src today idle y r) :
      Outcome src today idle y (.error (reentrance r))

/-- An outcome within some bound stays within every greater one. -/
def Monotone {α : Type} (y : Unbounded α) : Prop :=
  ∀ ⦃bound larger : Nat⦄ ⦃result : Except Fault α⦄,
    bound ≤ larger → y bound = some result → y larger = some result

/-- A computation with a memo does what the same computation does without. -/
structure Tracks {α : Type} (src : Source) (today : Date) (idle : List Reference)
    (x : Evaluation α) (y : Unbounded α) : Prop where
  mono : Monotone y
  sound {memo : Memo} : src.Sound today memo → src.Sound today (x memo).2
  outcome {memo : Memo} : src.Sound today memo → Outcome src today idle y (x memo).1

theorem Monotone.eq
    {α : Type} {y : Unbounded α} {bound other : Nat} {result result' : Except Fault α}
    (hy : Monotone y)
    (h : y bound = some result)
    (h' : y other = some result') :
    result = result' := by
  have hmax := hy (Nat.le_max_left bound other) h
  rw [hy (Nat.le_max_right bound other) h'] at hmax
  exact (Option.some.inj hmax).symm

theorem Monotone.bind
    {α β : Type} {y : Unbounded α} {g : α → Unbounded β}
    (hy : Monotone y)
    (hg : ∀ a, Monotone (g a)) :
    Monotone (y >>= g) := by
  intro bound larger result hle h
  have hbind : ∀ bound, (y >>= g) bound = y bound >>= fun a => g a bound := fun _ => rfl
  rw [hbind] at h ⊢
  cases hfirst : y bound with
  | none => simp [Bounded.bind_of_none _ hfirst] at h
  | some first =>
      have hlater := hy hle hfirst
      cases first with
      | error fault =>
          rw [Bounded.bind_of_error _ hfirst] at h
          rw [Bounded.bind_of_error _ hlater, h]
      | ok a =>
          rw [Bounded.bind_of_ok _ hfirst] at h
          rw [Bounded.bind_of_ok _ hlater]
          exact hg a hle h

/-- What follows a computation that finishes has its outcome for the whole. -/
theorem Outcome.of_bind
    {α β : Type} {y : Unbounded α} {g : α → Unbounded β}
    {bound : Nat} {a : α} {result : Except Fault β}
    (hy : Monotone y)
    (hg : Monotone (g a))
    (hfirst : y bound = some (.ok a))
    (h : Outcome src today idle (g a) result) :
    Outcome src today idle (y >>= g) result := by
  cases h with
  | @finished other _ hnext =>
      have hfirst := hy (Nat.le_max_left bound other) hfirst
      have hnext := hg (Nat.le_max_right bound other) hnext
      exact .finished ((Bounded.bind_of_ok _ hfirst).trans hnext)
  | blocked h =>
      refine .blocked ⟨h.isFormula, h.hasLabel, fun {other} hother => ?_, h.cyclic⟩
      refine h.needed fun hnext => hother ?_
      cases hsecond : y other with
      | none => exact Bounded.bind_of_none _ hsecond
      | some first =>
          obtain rfl : first = .ok a := hy.eq hsecond hfirst
          exact (Bounded.bind_of_ok _ hsecond).trans hnext

theorem Tracks.bind
    {α β : Type} {x : Evaluation α} {y : Unbounded α}
    {f : α → Evaluation β} {g : α → Unbounded β}
    (hx : Tracks src today idle x y)
    (hf : ∀ a, Tracks src today idle (f a) (g a)) :
    Tracks src today idle (x >>= f) (y >>= g) := by
  constructor
  case mono => exact hx.mono.bind fun a => (hf a).mono
  case sound =>
    intro memo hmemo
    have hnext := hx.sound hmemo
    rcases hrun : x memo with ⟨first, next⟩
    rw [hrun] at hnext
    cases first with
    | error fault =>
        rw [Attempt.bind_of_error hrun]
        exact hnext
    | ok a =>
        rw [Attempt.bind_of_ok hrun]
        exact (hf a).sound hnext
  case outcome =>
    intro memo hmemo
    have hnext := hx.sound hmemo
    have hfirst := hx.outcome hmemo
    rcases hrun : x memo with ⟨first, next⟩
    rw [hrun] at hnext hfirst
    cases hfirst with
    | @finished bound _ hy =>
        cases first with
        | error fault =>
            rw [Attempt.bind_of_error hrun]
            exact .finished (Bounded.bind_of_error _ hy)
        | ok a =>
            rw [Attempt.bind_of_ok hrun]
            exact .of_bind hx.mono (hf a).mono hy ((hf a).outcome hnext)
    | blocked h =>
        rw [Attempt.bind_of_error hrun]
        refine .blocked ⟨h.isFormula, h.hasLabel, fun {bound} hbound => ?_, h.cyclic⟩
        exact h.needed fun hy => hbound (Bounded.bind_of_none _ hy)

/-- Running with a memo simulates running without one. -/
def tracking (src : Source) (today : Date) (idle : List Reference) :
    Simulation Evaluation Unbounded where
  rel := Tracks src today idle
  pure_rel _ :=
    { mono := fun _ _ _ _ h => h
      sound := fun h => h
      outcome := fun _ => @Outcome.finished _ src today idle _ 0 _ rfl }
  throw_rel _ :=
    { mono := fun _ _ _ _ h => h
      sound := fun h => h
      outcome := fun _ => @Outcome.finished _ src today idle _ 0 _ rfl }
  bind_rel := Tracks.bind

end Tracking

section Reading

variable {src : Source} {today : Date} {idle : List Reference} {r : Reference} {cell : Cell}
  {text : String} {memo : Memo}

theorem recompute_zero
    (hcell : src.cell? r = some cell)
    (htext : cell.source? = some text) :
    src.recompute today 0 r = none := by
  rw [recompute]
  simp [hcell, htext]

theorem recompute_add_one
    (hcell : src.cell? r = some cell)
    (htext : cell.source? = some text)
    (bound : Nat) :
    src.recompute today (bound + 1) r = src.recomputeText today bound text.toList := by
  rw [recompute]
  simp [hcell, htext, recomputeText]

/-- Computing a formula cell, its value put in the memo. -/
def enter (src : Source) (today : Date) (idle : List Reference) (r : Reference) (text : String) :
    Evaluation (Option Scalar) := do
  let value ← evaluateText (src.environment today (src.read today (idle.erase r))) text.toList
  modify ((r, value) :: ·)
  return value

theorem read_formula
    (hcell : src.cell? r = some cell)
    (htext : cell.source? = some text)
    (memo : Memo) :
    src.read today idle r memo
      = match memo.lookup r with
        | some value => (.ok value, memo)
        | none =>
            if r ∈ idle then
              src.enter today idle r text memo
            else
              (.error (reentrance r), memo) := by
  have hget : (get : Evaluation Memo) memo = (.ok memo, memo) := rfl
  rw [read]
  simp only [hcell, htext]
  rw [Attempt.bind_of_ok hget]
  cases memo.lookup r with
  | some value => rfl
  | none =>
      dsimp only
      split
      · rfl
      · rfl

theorem enter_of_ok
    {next : Memo} {value : Option Scalar}
    (h : (evaluateText (src.environment today (src.read today (idle.erase r))) text.toList :
      Evaluation (Option Scalar)) memo = (.ok value, next)) :
    src.enter today idle r text memo = (.ok value, (r, value) :: next) := by
  rw [enter, Attempt.bind_of_ok h]
  rfl

theorem enter_of_error
    {next : Memo} {fault : Fault}
    (h : (evaluateText (src.environment today (src.read today (idle.erase r))) text.toList :
      Evaluation (Option Scalar)) memo = (.error fault, next)) :
    src.enter today idle r text memo = (.error fault, next) := by
  rw [enter, Attempt.bind_of_error h]

/-- A cell that needs itself is finished within no bound. -/
theorem recompute_eq_none_of_needed
    (hcell : src.cell? r = some cell)
    (htext : cell.source? = some text)
    (hneeded : ∀ bound, src.recomputeText today bound text.toList ≠ none →
      src.recompute today bound r ≠ none)
    (bound : Nat) :
    src.recompute today bound r = none := by
  induction bound with
  | zero => exact recompute_zero hcell htext
  | succ bound ih =>
      rw [recompute_add_one hcell htext]
      by_contra hfinished
      exact hneeded bound hfinished ih

theorem monotone_recomputed
    (r : Reference) :
    Monotone (src.recomputed today r) :=
  fun _ _ result hle h => recompute_extension hle r result h

/-- The outcome of a formula is that of its cell. -/
theorem Outcome.of_text
    (hcell : src.cell? r = some cell)
    (htext : cell.source? = some text)
    {result : Except Fault (Option Scalar)}
    (h : Outcome src today (idle.erase r)
      (evaluateText (src.environment today (src.recomputed today)) text.toList) result) :
    Outcome src today idle (src.recomputed today r) result := by
  cases h with
  | @finished bound _ h =>
      rw [evaluateText_recomputed] at h
      exact .finished ((recompute_add_one hcell htext bound).trans h)
  | @blocked s h =>
      by_cases hs : s = r
      · subst hs
        have hnever : ∀ bound, src.recompute today bound s = none := by
          refine recompute_eq_none_of_needed hcell htext fun bound hbound => ?_
          rw [← evaluateText_recomputed] at hbound
          exact (h.needed hbound).2
        exact .blocked ⟨h.isFormula, h.hasLabel, fun {bound} hbound => absurd (hnever bound) hbound,
          fun {bound} _ => hnever bound⟩
      · have hmem : s ∈ idle.erase r ↔ s ∈ idle := List.mem_erase_of_ne hs
        refine .blocked ⟨h.isFormula, h.hasLabel, fun {bound} hbound => ?_,
          fun hidle => h.cyclic (hmem.2 hidle)⟩
        cases bound with
        | zero => exact absurd (recompute_zero hcell htext) hbound
        | succ bound =>
            rw [recomputed, recompute_add_one hcell htext, ← evaluateText_recomputed] at hbound
            obtain ⟨hidle, hfinished⟩ := h.needed hbound
            refine ⟨fun hs => hidle (hmem.2 hs), ?_⟩
            obtain ⟨result, hresult⟩ := Option.ne_none_iff_exists'.1 hfinished
            rw [recompute_extension (Nat.le_succ bound) s result hresult]
            simp

theorem mem_of_lookup
    {value : Option Scalar}
    (h : memo.lookup r = some value) :
    (r, value) ∈ memo := by
  obtain ⟨before, after, rfl, -⟩ := List.lookup_eq_some_iff.1 h
  simp

theorem Sound.cons
    {value : Option Scalar} {bound : Nat}
    (hmemo : src.Sound today memo)
    (hvalue : src.recompute today bound r = some (.ok value)) :
    src.Sound today ((r, value) :: memo) := by
  intro s other hs
  rcases List.mem_cons.1 hs with heq | hs
  · obtain ⟨rfl, rfl⟩ := Prod.mk.inj heq
    exact ⟨bound, hvalue⟩
  · exact hmemo s other hs

/-- Entering a cell tracks computing it anew, if evaluating its formula does. -/
theorem enter_tracks
    (hcell : src.cell? r = some cell)
    (htext : cell.source? = some text)
    (h : Tracks src today (idle.erase r)
      (evaluateText (src.environment today (src.read today (idle.erase r))) text.toList)
      (evaluateText (src.environment today (src.recomputed today)) text.toList))
    (hmemo : src.Sound today memo) :
    src.Sound today (src.enter today idle r text memo).2
      ∧ Outcome src today idle (src.recomputed today r) (src.enter today idle r text memo).1 := by
  have hnext := h.sound hmemo
  have hresult := Outcome.of_text hcell htext (h.outcome hmemo)
  rcases hrun : (evaluateText (src.environment today (src.read today (idle.erase r))) text.toList :
    Evaluation (Option Scalar)) memo with ⟨result, next⟩
  rw [hrun] at hnext hresult
  cases result with
  | error fault =>
      rw [enter_of_error hrun]
      exact ⟨hnext, hresult⟩
  | ok value =>
      rw [enter_of_ok hrun]
      refine ⟨?_, hresult⟩
      cases hresult with
      | finished hvalue => exact hnext.cons hvalue

theorem evaluateText_tracks
    (hcells : ∀ r : Reference, (∃ label, r.label = .ok label) →
      (tracking src today idle).rel (src.read today idle r) (src.recomputed today r))
    (s : List Char) :
    Tracks src today idle (evaluateText (src.environment today (src.read today idle)) s)
      (evaluateText (src.environment today (src.recomputed today)) s) := by
  have hs : MentionsOnly (fun r => ∃ label, r.label = .ok label) s := fun r hr => hr.exists_label
  exact evaluateText_rel (fun _ => read_of_isEmpty) (fun _ => recomputed_of_isEmpty) hcells hs

/-- Reading a cell tracks computing it anew. -/
theorem read_tracks
    {idle : List Reference} {r : Reference}
    (hr : src.IsFormula r → (∃ label, r.label = .ok label) ∨ r ∈ idle) :
    Tracks src today idle (src.read today idle r) (src.recomputed today r) := by
  cases hcell : src.cell? r with
  | none =>
      have hempty : src.isEmpty r = true := isEmpty_iff.2 (Or.inl hcell)
      rw [read_of_isEmpty hempty, recomputed_of_isEmpty hempty]
      exact (tracking src today idle).pure_rel none
  | some cell =>
      cases htext : cell.source? with
      | none =>
          have hrecomputed : src.recomputed today r = pure cell.value? := by
            funext bound
            rw [recomputed, recompute]
            simp only [hcell, htext]
            rfl
          rw [read_of_source?_eq_none hcell htext, hrecomputed]
          exact (tracking src today idle).pure_rel cell.value?
      | some text =>
          have hrun : ∀ {memo : Memo}, src.Sound today memo →
              src.Sound today (src.read today idle r memo).2
                ∧ Outcome src today idle (src.recomputed today r)
                  (src.read today idle r memo).1 := by
            intro memo hmemo
            rw [read_formula hcell htext]
            cases hvalue : memo.lookup r with
            | some value =>
                obtain ⟨bound, hbound⟩ := hmemo r value (mem_of_lookup hvalue)
                exact ⟨hmemo, .finished hbound⟩
            | none =>
                by_cases hidle : r ∈ idle
                · simp only [hidle, if_true]
                  have hcells : ∀ s : Reference, (∃ label, s.label = .ok label) →
                      (tracking src today (idle.erase r)).rel
                        (src.read today (idle.erase r) s) (src.recomputed today s) :=
                    fun s hs => read_tracks fun _ => Or.inl hs
                  have htracks := evaluateText_tracks hcells text.toList
                  exact enter_tracks hcell htext htracks hmemo
                · simp only [hidle, if_false]
                  have hformula : src.IsFormula r := ⟨cell, text, hcell, htext⟩
                  exact ⟨hmemo, .blocked ⟨hformula, (hr hformula).resolve_right hidle,
                    fun hbound => ⟨hidle, hbound⟩, fun hmem => absurd hmem hidle⟩⟩
          exact ⟨monotone_recomputed r, fun hmemo => (hrun hmemo).1, fun hmemo => (hrun hmemo).2⟩
termination_by idle.length
decreasing_by
  rw [List.length_erase_of_mem hidle]
  have := List.length_pos_of_mem hidle
  omega

end Reading

end Source
end Formula
end Spreadsheet
