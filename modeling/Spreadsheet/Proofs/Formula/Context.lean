import Spreadsheet.Proofs.Formula.Memo

/-!
# Readings in one context

Formulas and cells are read one after the other, and the values finished before
stay in the memo, also those of a reading that failed.  Every reading has the
outcome of the evaluation without a memo, and where that ends within no bound
it stops at a formula cell that needs itself.

Results: the keys of a sort are readings of one context (`sortKeys_eq_keys`),
and every reading has the outcome of the evaluation without a memo
(`evaluation_settles`).
-/

namespace Spreadsheet

namespace Grid

theorem mem_positions
    {g : Grid} {p : Cell → Bool} {r : Reference} {cell : Cell}
    (hcell : g.get? r = some cell)
    (hp : p cell = true) :
    r ∈ g.positions p := by
  rw [get?_eq, Option.join_eq_some_iff] at hcell
  obtain ⟨row, hrow, hcol⟩ := Option.bind_eq_some_iff.1 hcell
  refine List.mem_flatMap.2 ⟨(row, r.row), List.mem_zipIdx_iff_getElem?.2 hrow, ?_⟩
  refine List.mem_filterMap.2 ⟨(some cell, r.col), List.mem_zipIdx_iff_getElem?.2 hcol, ?_⟩
  simp [hp]

/-- The formulas of a grid are all known to the evaluation. -/
theorem mem_formulas
    {g : Grid} {r : Reference}
    (hr : g.source.IsFormula r) :
    r ∈ g.source.formulas := by
  obtain ⟨cell, text, hcell, htext⟩ := hr
  exact mem_positions hcell (by simp [htext])

end Grid

namespace Formula

/-- Something read in a context: a formula, a cell, or the number that
arithmetic sees in a cell. -/
inductive Query where
  | formula (text : List Char)
  | cell (r : Reference)
  | number (r : Reference)

namespace Query

/-- The answer to a query, given a way of reading cells. -/
def answer {m : Type → Type} [Monad m] [MonadExcept Fault m] (env : Environment m) :
    Query → m (Option Scalar)
  | formula text => evaluateText env text
  | cell r => env.value r
  | number r => do return some (.number (← env.numeric r))

/-- Two ways of reading the cells of a sheet that are related give related
answers. -/
theorem answer_rel
    {src : Source} {today : Date}
    {m n : Type → Type} [Monad m] [Monad n] [MonadExcept Fault m] [MonadExcept Fault n]
    [LawfulFailure m] [LawfulFailure n] {sim : Simulation m n}
    {value : Reference → m (Option Scalar)} {value' : Reference → n (Option Scalar)}
    (hempty : ∀ r, src.isEmpty r = true → value r = pure none)
    (hempty' : ∀ r, src.isEmpty r = true → value' r = pure none)
    (hvalue : ∀ r, sim.rel (value r) (value' r))
    (query : Query) :
    sim.rel (query.answer (src.environment today value))
      (query.answer (src.environment today value')) := by
  cases query with
  | formula text =>
      exact Source.evaluateText_rel hempty hempty' (fun r _ => hvalue r) (mentionsOnly_all text)
  | cell r => exact hvalue r
  | number r => exact sim.bind_rel (Simulation.numeric_rel (hvalue r)) fun x => sim.pure_rel _

end Query

namespace Source

/-- The answer to a query in a context. -/
def answer (src : Source) (today : Date) (query : Query) : Evaluation (Option Scalar) :=
  query.answer (src.environment today (src.read today src.formulas))

/-- The answers to queries in one context, which keeps the values finished
before. -/
def answers (src : Source) (today : Date) :
    List Query → Memo → List (Except Fault (Option Scalar))
  | [], _ => []
  | query :: queries, memo =>
      let (outcome, memo) := src.answer today query memo
      outcome :: src.answers today queries memo

/-- The answer to a query, every cell computed anew at every reading. -/
def recomputeAnswer (src : Source) (today : Date) (query : Query) (bound : Nat) :
    Bounded (Option Scalar) :=
  query.answer (src.environment today (src.recompute today bound))

/-- The result is the outcome of the bounded computation, and where that has
none within any bound, the fault of a formula cell that needs itself. -/
structure Settles {α : Type} (src : Source) (today : Date) (bounded : Nat → Bounded α)
    (result : Except Fault α) : Prop where
  finishes :
    ∀ bound outcome, bounded bound = some outcome → result = outcome
  cycles :
    (∀ bound, bounded bound = none) →
      ∃ r label, src.IsFormula r ∧ (∀ bound, src.recompute today bound r = none)
        ∧ r.label = .ok label ∧ result = .error (.reentrantReference label)

section Lemmas

variable {src : Source} {today : Date}

theorem reentrance_of_label
    {r : Reference} {label : String}
    (h : r.label = .ok label) :
    reentrance r = .reentrantReference label := by
  unfold reentrance
  split
  · next other hother =>
      rw [h] at hother
      rw [Except.ok.inj hother]
  · next fault hfault =>
      rw [h] at hfault
      cases hfault

theorem Outcome.settles
    {α : Type} {y : Unbounded α} {result : Except Fault α}
    (hformulas : ∀ r, src.IsFormula r → r ∈ src.formulas)
    (hy : Monotone y)
    (h : Outcome src today src.formulas y result) :
    Settles src today y result := by
  cases h with
  | @finished bound _ hresult =>
      constructor
      case finishes => exact fun other outcome h => hy.eq hresult h
      case cycles =>
        intro hnever
        simp [hnever bound] at hresult
  | @blocked r h =>
      have hr := hformulas r h.isFormula
      have hnever : ∀ bound, y bound = none := by
        intro bound
        by_contra hbound
        exact (h.needed hbound).1 hr
      constructor
      case finishes =>
        intro bound outcome hbound
        simp [hnever bound] at hbound
      case cycles =>
        intro _
        obtain ⟨label, hlabel⟩ := h.hasLabel
        exact ⟨r, label, h.isFormula, fun bound => h.cyclic hr, hlabel,
          congrArg Except.error (reentrance_of_label hlabel)⟩

/-- A query in a context tracks its bounded answers. -/
theorem answer_tracks
    (hformulas : ∀ r, src.IsFormula r → r ∈ src.formulas)
    (query : Query) :
    Tracks src today src.formulas (src.answer today query)
      (query.answer (src.environment today (src.recomputed today))) := by
  have hread : ∀ r, (tracking src today src.formulas).rel (src.read today src.formulas r)
      (src.recomputed today r) :=
    fun r => read_tracks fun hr => Or.inr (hformulas r hr)
  exact query.answer_rel (fun _ => read_of_isEmpty) (fun _ => recomputed_of_isEmpty) hread

theorem answer_recomputed
    (query : Query) (bound : Nat) :
    query.answer (src.environment today (src.recomputed today)) bound
      = src.recomputeAnswer today query bound := by
  have hread : ∀ r, (within bound).rel (src.recomputed today r) (src.recompute today bound r) :=
    fun _ => rfl
  exact query.answer_rel (fun _ => recomputed_of_isEmpty) (fun _ => recompute_of_isEmpty) hread

/-- Readings of one context, in any order and whatever came of those before. -/
theorem answers_settle_from
    (hformulas : ∀ r, src.IsFormula r → r ∈ src.formulas)
    (queries : List Query) {memo : Memo}
    (hmemo : src.Sound today memo) :
    List.Forall₂ (fun query => src.Settles today (src.recomputeAnswer today query)) queries
      (src.answers today queries memo) := by
  induction queries generalizing memo with
  | nil => exact .nil
  | cons query queries ih =>
      have htracks : Tracks src today src.formulas (src.answer today query)
          (query.answer (src.environment today (src.recomputed today))) :=
        answer_tracks hformulas query
      refine .cons ?_ (ih (htracks.sound hmemo))
      have hsettles := (htracks.outcome hmemo).settles hformulas htracks.mono
      rwa [funext (answer_recomputed query)] at hsettles

/-- The first answer of a context is that of the formula on its own. -/
theorem attempt_settles
    (hformulas : ∀ r, src.IsFormula r → r ∈ src.formulas)
    (formula : String) :
    Settles src today (fun bound => src.recomputeText today bound formula.toList)
      (src.attempt today formula) := by
  have hmemo : src.Sound today [] := by
    intro r value h
    simp at h
  cases answers_settle_from hformulas [.formula formula.toList] hmemo with
  | cons h _ => exact h

theorem evaluate_of_finishes
    (hformulas : ∀ r, src.IsFormula r → r ∈ src.formulas)
    {formula : String} {bound : Nat} {outcome : Except Fault (Option Scalar)}
    (h : src.recomputeText today bound formula.toList = some outcome) :
    src.evaluate today formula = outcome.toOption.getD (some (.text errorMarker)) := by
  rw [evaluate, (attempt_settles hformulas formula).finishes bound outcome h]
  cases outcome <;> rfl

theorem evaluate_of_cycles
    (hformulas : ∀ r, src.IsFormula r → r ∈ src.formulas)
    {formula : String}
    (h : ∀ bound, src.recomputeText today bound formula.toList = none) :
    src.evaluate today formula = some (.text errorMarker) := by
  obtain ⟨r, label, -, -, -, hfault⟩ := (attempt_settles hformulas formula).cycles h
  rw [evaluate, hfault]

end Lemmas

end Source

end Formula

namespace Grid

/-- The sort key that an answer gives; zero without one. -/
def keyOfAnswer : Except Fault (Option Scalar) → Binary64
  | .ok (some (.number x)) =>
      match x.toBinary64 with
      | .ok key => key
      | .error _ => .zero
  | _ => .zero

theorem sortKey_eq_key
    (src : Formula.Source) (today : Date) (r : Reference) (memo : Formula.Memo) :
    sortKey src today r memo
      = (keyOfAnswer (src.answer today (.number r) memo).1,
          (src.answer today (.number r) memo).2) := by
  have hanswer : src.answer today (.number r)
      = src.numeric today r >>= fun x => pure (some (.number x)) := rfl
  rcases hrun : src.numeric today r memo with ⟨outcome, next⟩
  simp only [sortKey, bind, StateT.bind, ExceptT.run, hrun]
  cases outcome with
  | error fault =>
      rw [hanswer, Attempt.bind_of_error hrun]
      rfl
  | ok x =>
      rw [hanswer, Attempt.bind_of_ok hrun]
      show _ = (keyOfAnswer (.ok (some (.number x))), next)
      cases hkey : x.toBinary64 <;> simp only [keyOfAnswer, hkey] <;> rfl

theorem mapM_sortKey_eq_keys
    (src : Formula.Source) (today : Date) (cells : List Reference) (memo : Formula.Memo) :
    ((cells.mapM (sortKey src today)).run memo).1
      = (src.answers today (cells.map .number) memo).map keyOfAnswer := by
  induction cells generalizing memo with
  | nil => rfl
  | cons r cells ih =>
      have hstep := sortKey_eq_key src today r memo
      rcases hanswer : src.answer today (.number r) memo with ⟨outcome, next⟩
      rw [hanswer] at hstep
      have hrest := ih next
      rcases hmap : (cells.mapM (sortKey src today)).run next with ⟨keys, last⟩
      rw [hmap] at hrest
      have hrun : ((r :: cells).mapM (sortKey src today)).run memo
          = (keyOfAnswer outcome :: keys, last) := by
        rw [List.mapM_cons]
        simp only [StateT.run] at hmap ⊢
        simp only [bind, StateT.bind, hstep, hmap]
        rfl
      rw [hrun, List.map_cons, Formula.Source.answers, hanswer, List.map_cons, ← hrest]

/-- The keys of a sort are read in one context, row after row. -/
theorem sortKeys_eq_keys
    (g : Grid) (today : Date) (col first count : Nat) :
    g.sortKeys today col first count
      = (g.source.answers today
          ((List.range' first count).map fun row => .number ⟨col, row⟩) []).map keyOfAnswer := by
  have hcells := mapM_sortKey_eq_keys g.source today
    ((List.range' first count).map fun row => ⟨col, row⟩) []
  rw [List.mapM_map, List.map_map] at hcells
  exact hcells

end Grid

namespace Formula

/-- Evaluation with its memo and its guard against cycles has the outcome of the
evaluation without them, for every formula on its own and for every sequence of
readings in one context. -/
theorem evaluation_settles
    (g : Grid) (today : Date) :
    (∀ formula : String,
      g.source.Settles today (fun bound => g.source.recomputeText today bound formula.toList)
          (g.source.attempt today formula)
        ∧ (∀ bound value, g.source.recomputeText today bound formula.toList = some (.ok value) →
            g.source.evaluate today formula = value)
        ∧ (∀ bound fault, g.source.recomputeText today bound formula.toList = some (.error fault) →
            g.source.evaluate today formula = some (.text errorMarker))
        ∧ ((∀ bound, g.source.recomputeText today bound formula.toList = none) →
            g.source.evaluate today formula = some (.text errorMarker)))
      ∧ ∀ queries : List Query,
        List.Forall₂ (fun query => g.source.Settles today (g.source.recomputeAnswer today query))
          queries (g.source.answers today queries []) := by
  have hformulas : ∀ r, g.source.IsFormula r → r ∈ g.source.formulas :=
    fun r hr => Grid.mem_formulas hr
  constructor
  · intro formula
    refine ⟨Source.attempt_settles hformulas formula, ?_, ?_, ?_⟩
    · intro bound value h
      exact Source.evaluate_of_finishes hformulas h
    · intro bound fault h
      exact Source.evaluate_of_finishes hformulas h
    · exact Source.evaluate_of_cycles hformulas
  · intro queries
    exact Source.answers_settle_from hformulas queries (by simp [Source.Sound])

end Formula
end Spreadsheet
