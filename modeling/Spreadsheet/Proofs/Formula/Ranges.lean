import Mathlib.Data.Set.Card
import Spreadsheet.Proofs.Formula.Calls
import Spreadsheet.Proofs.Formula.Locality
import Spreadsheet.Proofs.Formula.Reading
import Spreadsheet.Proofs.Number.Extremes

/-!
# Functions of a range

A range is cut to the sheet before its cells are read.  What is cut off is empty, and an
empty cell adds nothing to a sum and is left out by the other functions, so the whole
rectangle can be walked instead, whichever two opposite corners name it.

Results: a function of a range has the outcome of that walk, and what the functions say
about the rectangle is right: how many of its cells are not empty, their average, and the
least and the greatest of their numbers (`attempt_of_range`).
-/

namespace Spreadsheet

namespace Formula

namespace Environment

variable {m : Type → Type} [Monad m] [MonadExcept Fault m]

/-- The value of a function of cells that are read one after the other, whether they lie
inside the sheet or not.  A sum reads every cell, the others those that are not empty. -/
def walk (env : Environment m) (f : Aggregate) (cells : List Reference) : m Number :=
  match f with
  | .sum => env.total cells
  | f => env.aggregateOf f (cells.filter fun r => !env.isEmpty r)

theorem walk_eq
    [LawfulFailure m] {env : Environment m}
    (henv : env.ReadsEmpty)
    (f : Aggregate) (cells : List Reference) :
    env.walk f cells = env.aggregateOf f (cells.filter fun r => !env.isEmpty r) := by
  cases f with
  | sum => exact total_eq_total_present henv cells
  | _ => rfl

end Environment

namespace Source

/-- The value of a function of all cells of a range, walked in a context of its own. -/
def walked (src : Source) (today : Date) (f : Aggregate) (range : Range) : Except Fault Number :=
  let env := src.environment today (src.read today src.formulas)
  ((env.walk f range.toList : Evaluation Number).run.run []).1

/-- The cells of a range that are not empty. -/
def occupied (src : Source) (range : Range) : Set Reference :=
  {r | r ∈ range ∧ src.isEmpty r = false}

/-- What the functions of a range say about its cells. -/
structure IsSummary (src : Source) (today : Date) (range : Range)
    (result : Aggregate → Except Fault Number) : Prop where
  count : result .count = .ok (.int (src.occupied range).ncard)
  average :
    (src.occupied range).Nonempty →
      result .average = (do (← result .sum).div (.int (src.occupied range).ncard))
  least :
    (src.occupied range).Nonempty →
    (∀ r ∈ src.occupied range, ∃ x, src.reading today r = .ok x ∧ x.isFinite = true) →
      ∃ x, result .least = .ok x ∧ (∃ r ∈ src.occupied range, src.reading today r = .ok x)
        ∧ ∀ r ∈ src.occupied range, ∀ y, src.reading today r = .ok y → y.less x = false
  greatest :
    (src.occupied range).Nonempty →
    (∀ r ∈ src.occupied range, ∃ x, src.reading today r = .ok x ∧ x.isFinite = true) →
      ∃ x, result .greatest = .ok x ∧ (∃ r ∈ src.occupied range, src.reading today r = .ok x)
        ∧ ∀ r ∈ src.occupied range, ∀ y, src.reading today r = .ok y → x.less y = false
  empty : src.occupied range = ∅ → ∀ f, result f = .ok (.int 0)

section Lemmas

variable {src : Source} {today : Date} {range : Range} {columns : Int}

/-- The cells of a range that are not empty, row by row. -/
def present (src : Source) (range : Range) : List Reference :=
  range.toList.filter fun r => !src.isEmpty r

theorem mem_present
    {r : Reference} :
    r ∈ src.present range ↔ r ∈ src.occupied range := by
  simp [present, occupied, Range.mem_toList]

theorem length_present :
    (src.occupied range).ncard = (src.present range).length := by
  classical
  have hnodup : (src.present range).Nodup := range.nodup_toList.filter _
  have hset : src.occupied range = ((src.present range).toFinset : Set Reference) := by
    ext r
    rw [List.coe_toFinset, Set.mem_ofPred_eq, mem_present]
  rw [hset, Set.ncard_coe_finset, List.toFinset_card_of_nodup hnodup]

theorem present_eq_nil_iff :
    src.present range = [] ↔ src.occupied range = ∅ := by
  rw [List.eq_nil_iff_forall_not_mem, Set.eq_empty_iff_forall_notMem]
  exact forall_congr' fun r => not_congr mem_present

theorem walked_eq
    (src : Source) (today : Date) (f : Aggregate) (range : Range) :
    src.walked today f range
      = (((src.environment today (src.read today src.formulas)).aggregateOf f
          (src.present range) : Evaluation Number).run.run []).1 := by
  rw [walked, Environment.walk_eq (readsEmpty_read _ _)]
  rfl

/-- A walk has the outcome of the walk without a memo. -/
theorem walked_settles
    (hformulas : ∀ r, src.IsFormula r → r ∈ src.formulas)
    (f : Aggregate) (range : Range) :
    Settles src today (fun bound => (src.bounded today bound).aggregateOf f (src.present range))
      (src.walked today f range) := by
  have htracks : Tracks src today src.formulas
      ((src.environment today (src.read today src.formulas)).aggregateOf f (src.present range))
      ((src.environment today (src.recomputed today)).aggregateOf f (src.present range)) :=
    (tracking src today src.formulas).aggregateOf_rel f fun r _ =>
      read_tracks_recomputed hformulas r
  have hbounded : (src.environment today (src.recomputed today)).aggregateOf f (src.present range)
      = fun bound => (src.bounded today bound).aggregateOf f (src.present range) :=
    funext fun bound => (within bound).aggregateOf_rel f fun r _ => rfl
  rw [walked_eq, ← hbounded]
  exact htracks.settles hformulas

/-- A call of a function of a range has the outcome of the walk. -/
theorem attempt_callFormula
    (hsrc : src.HasColumns columns)
    {f : Aggregate} {name first second : String} {p q : Reference}
    (hname : Aggregate.ofName? name = some f)
    (hfirst : Reference.parse? first.toList = .ok (some p))
    (hsecond : Reference.parse? second.toList = .ok (some q)) :
    src.attempt today (callFormula name (first ++ ":" ++ second))
      = (src.walked today f ⟨p, q⟩).map fun x => some (.number x) := by
  have htext : (first ++ ":" ++ second).toList = first.toList ++ ':' :: second.toList := by simp
  have hclose : ')' ∉ (first ++ ":" ++ second).toList := by
    have hleft := Reference.not_mem_of_parse? hfirst (c := ')') (by decide) (by decide) (by decide)
    have hright := Reference.not_mem_of_parse? hsecond (c := ')') (by decide) (by decide) (by decide)
    simp [htext, hleft, hright]
  have hpresent : (src.environment today (src.read today src.formulas)).present
      (first ++ ":" ++ second).toList = .ok (src.present ⟨p, q⟩) := by
    rw [present_eq hsrc, htext, rangeOf?_corners hfirst hsecond]
    rfl
  rw [attempt, evaluateText_call _ hname (by simp [htext]) hclose,
    Environment.aggregate_eq_aggregateOf (readsEmpty_read _ _), hpresent, ofExcept, pure_bind,
    walked_eq]
  exact run_map _ (fun x : Number => some (Scalar.number x)) []

/-- The numbers that the cells of a range show, where they all show finite ones. -/
theorem exists_numbers
    (hread : ∀ r ∈ src.occupied range, ∃ x, src.reading today r = .ok x ∧ x.isFinite = true) :
    ∃ numbers, List.Forall₂ (fun r x => src.reading today r = .ok x) (src.present range) numbers
      ∧ ∀ x ∈ numbers, x.isFinite = true := by
  have hsome : ∀ r ∈ src.present range, ∃ x, src.reading today r = .ok x :=
    fun r hr => (hread r (mem_present.1 hr)).imp fun _ h => h.1
  obtain ⟨numbers, hnumbers⟩ := exists_mapM_eq_ok hsome
  have hforall := forall₂_of_mapM_eq_ok hnumbers
  refine ⟨numbers, hforall, fun x hx => ?_⟩
  obtain ⟨i, hi⟩ := List.getElem?_of_mem hx
  obtain ⟨r, hr, hvalue⟩ := exists_getElem?_of_forall₂ hforall.flip hi
  obtain ⟨y, hy, hfinite⟩ := hread r (mem_present.1 (List.mem_of_getElem? hr))
  rw [hy] at hvalue
  exact Except.ok.inj hvalue ▸ hfinite

/-- An extreme of a range is the number of one of its cells and goes before that of every
other. -/
theorem exists_extreme
    (hformulas : ∀ r, src.IsFormula r → r ∈ src.formulas)
    {f : Aggregate} {best : Number → List Number → Number} {better : Number → Number → Bool}
    (hf : ∀ bound x xs,
      (src.present range).mapM (src.bounded today bound).numeric = some (.ok (x :: xs)) →
        (src.bounded today bound).aggregateOf f (src.present range) = some (.ok (best x xs)))
    (hmem : ∀ x xs, best x xs ∈ x :: xs)
    (hbest : ∀ x xs, (∀ y ∈ x :: xs, y.isFinite = true) →
      ∀ y ∈ x :: xs, better y (best x xs) = false)
    (hne : (src.occupied range).Nonempty)
    (hread : ∀ r ∈ src.occupied range, ∃ x, src.reading today r = .ok x ∧ x.isFinite = true) :
    ∃ x, src.walked today f range = .ok x
      ∧ (∃ r ∈ src.occupied range, src.reading today r = .ok x)
      ∧ ∀ r ∈ src.occupied range, ∀ y, src.reading today r = .ok y → better y x = false := by
  obtain ⟨numbers, hnumbers, hfinite⟩ := exists_numbers hread
  obtain ⟨bound, hbound⟩ := exists_bound_of_readings hformulas hnumbers
  cases numbers with
  | nil =>
      have hnil : src.present range = [] := List.forall₂_nil_right_iff.1 hnumbers
      rw [present_eq_nil_iff] at hnil
      exact absurd hnil hne.ne_empty
  | cons x xs =>
      refine ⟨best x xs, ?_, ?_, ?_⟩
      · exact (walked_settles hformulas f range).finishes bound _
          (hf bound x xs (Bounded.mapM_eq_ok_iff.2 hbound))
      · obtain ⟨i, hi⟩ := List.getElem?_of_mem (hmem x xs)
        obtain ⟨r, hr, hvalue⟩ := exists_getElem?_of_forall₂ hnumbers.flip hi
        exact ⟨r, mem_present.1 (List.mem_of_getElem? hr), hvalue⟩
      · intro r hr y hy
        obtain ⟨i, hi⟩ := List.getElem?_of_mem (mem_present.2 hr)
        obtain ⟨z, hz, hvalue⟩ := exists_getElem?_of_forall₂ hnumbers hi
        rw [hy] at hvalue
        rw [Except.ok.inj hvalue]
        exact hbest x xs hfinite z (List.mem_of_getElem? hz)

/-- The functions of a range say what they are called for. -/
theorem isSummary_walked
    (hformulas : ∀ r, src.IsFormula r → r ∈ src.formulas)
    (today : Date) (range : Range) :
    src.IsSummary today range fun f => src.walked today f range := by
  constructor
  case count =>
    rw [walked_eq, length_present]
    rfl
  case average =>
    intro hne
    have hpresent : ¬ (src.present range).isEmpty = true := by
      rw [List.isEmpty_iff, present_eq_nil_iff]
      exact hne.ne_empty
    rw [walked_eq, walked_eq, length_present]
    simp only [Environment.aggregateOf, if_neg hpresent]
    exact run_bind_ofExcept _ (fun sum : Number => sum.div (.int (src.present range).length)) []
  case least =>
    refine exists_extreme hformulas (f := .least) (fun bound x xs h => ?_) Number.least_mem
      fun _ _ => Number.not_less_least
    exact Bounded.bind_of_ok _ h
  case greatest =>
    intro hne hread
    have hbest : ∀ x xs, (∀ y ∈ x :: xs, y.isFinite = true) →
        ∀ y ∈ x :: xs, (fun y x : Number => x.less y) y (Number.greatest x xs) = false :=
      fun _ _ => Number.not_greatest_less
    exact exists_extreme hformulas (f := .greatest) (fun _ _ _ h => Bounded.bind_of_ok _ h)
      Number.greatest_mem hbest hne hread
  case empty =>
    intro hempty f
    rw [walked_eq, present_eq_nil_iff.2 hempty]
    cases f <;> rfl

end Lemmas

end Source

/-- A function of a range has the outcome of a walk through the whole rectangle, whichever
two opposite corners name it, if the columns of the grid can be counted; and it counts,
averages and compares the cells of the rectangle that are not empty. -/
theorem attempt_of_range
    {g : Grid} {columns : Int} {first second : String} {p q : Reference}
    (hcolumns : g.columnCount = .int columns)
    (hfirst : Reference.parse? first.toList = .ok (some p))
    (hsecond : Reference.parse? second.toList = .ok (some q))
    (today : Date) :
    (∀ f name, Aggregate.ofName? name = some f →
        g.source.attempt today (callFormula name (first ++ ":" ++ second))
          = (g.source.walked today f ⟨p, q⟩).map fun x => some (.number x))
      ∧ (∀ f name, Aggregate.ofName? name = some f →
        ∀ (first' second' : String) (p' q' : Reference),
          Reference.parse? first'.toList = .ok (some p') →
          Reference.parse? second'.toList = .ok (some q') →
          Range.SameCorners ⟨p', q'⟩ ⟨p, q⟩ →
            g.source.attempt today (callFormula name (first' ++ ":" ++ second'))
              = g.source.attempt today (callFormula name (first ++ ":" ++ second)))
      ∧ g.source.IsSummary today ⟨p, q⟩ fun f => g.source.walked today f ⟨p, q⟩ := by
  have hsrc := Grid.hasColumns hcolumns
  refine ⟨fun f name hname => Source.attempt_callFormula hsrc hname hfirst hsecond, ?_,
    Source.isSummary_walked (fun r hr => Grid.mem_formulas hr) today _⟩
  intro f name hname first' second' p' q' hfirst' hsecond' hcorners
  rw [Source.attempt_callFormula hsrc hname hfirst' hsecond',
    Source.attempt_callFormula hsrc hname hfirst hsecond, Source.walked, Source.walked,
    Range.toList_of_sameCorners hcorners]

/-- Rows of different lengths, with an empty position among numbers and texts. -/
def raggedRows : Grid :=
  gridOf (.int 1) [[numberCell 2, none, some (.plain (.text "3 apples") .text none)],
    [numberCell 7]]

/-- A range that reaches beyond both edges of the rows, named by two pairs of corners. -/
theorem attempt_of_range_raggedRows :
    raggedRows.columnCount = .int 3
      ∧ Reference.parse? "A1".toList = .ok (some ⟨0, 0⟩)
      ∧ Reference.parse? " d9".toList = .ok (some ⟨3, 8⟩)
      ∧ raggedRows.source.attempt ⟨2024, 3, 9, by decide⟩ "=AVERAGE(D1:a9)"
        = raggedRows.source.attempt ⟨2024, 3, 9, by decide⟩ "=AVERAGE(A1: d9)"
      ∧ raggedRows.source.IsSummary ⟨2024, 3, 9, by decide⟩ ⟨⟨0, 0⟩, ⟨3, 8⟩⟩ fun f =>
        raggedRows.source.walked ⟨2024, 3, 9, by decide⟩ f ⟨⟨0, 0⟩, ⟨3, 8⟩⟩ := by
  have hcolumns : raggedRows.columnCount = .int 3 := by decide +kernel
  have hfirst : Reference.parse? "A1".toList = .ok (some ⟨0, 0⟩) := by decide +kernel
  have hsecond : Reference.parse? " d9".toList = .ok (some ⟨3, 8⟩) := by decide +kernel
  obtain ⟨-, hcorners, hsummary⟩ := attempt_of_range hcolumns hfirst hsecond
    ⟨2024, 3, 9, by decide⟩
  exact ⟨hcolumns, hfirst, hsecond, hcorners .average "AVERAGE" rfl "D1" "a9" ⟨3, 0⟩ ⟨0, 8⟩
    (by decide +kernel) (by decide +kernel) ⟨.inr ⟨rfl, rfl⟩, .inl ⟨rfl, rfl⟩⟩, hsummary⟩

/-- Where the columns of a grid cannot be counted, a range that reaches beyond them fails,
though a walk would find it empty. -/
theorem attempt_ne_of_fractional_columns :
    (gridOf (.float (Numeral.toBinary64 ⟨false, ['1', '0'], some ['5'], none⟩))
        [[none]]).source.attempt ⟨2024, 3, 9, by decide⟩ "=COUNT(A1:Z1)" = .error .wrongType
      ∧ (gridOf (.float (Numeral.toBinary64 ⟨false, ['1', '0'], some ['5'], none⟩))
        [[none]]).source.walked ⟨2024, 3, 9, by decide⟩ .count ⟨⟨0, 0⟩, ⟨25, 0⟩⟩
        = .ok (.int 0) := by
  refine ⟨?_, by decide +kernel⟩
  rw [Source.attempt, evaluateText_eq]
  decide +kernel

end Formula
end Spreadsheet
