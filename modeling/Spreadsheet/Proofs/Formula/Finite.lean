import Spreadsheet.Proofs.Formula.Locality
import Spreadsheet.Proofs.Formula.Parsing
import Spreadsheet.Proofs.Formula.Reading
import Spreadsheet.Proofs.Grid.NumericOrder
import Spreadsheet.Proofs.Number.Extremes
import Spreadsheet.Proofs.Number.Finite

/-!
# Finite values

Arithmetic gives no infinite or undefined number: it fails instead.  A literal is finite,
a label gives the value of its cell, a condition that of a branch, and the least and the
greatest number of a range are numbers of its cells.  A sum alone is not checked, and
with it an average: numbers that are finite may add up to one that is not.

Results: evaluation gives finite numbers if the stored ones are finite and no sum or
average that the formula or a cell that it reaches asks for adds finite numbers up to one
that is not, and arithmetic does in any case (`isFinite_or_overflows`).
-/

namespace Spreadsheet
namespace Formula

/-- The value that the computation gives, if it gives one, has the property. -/
def Ensures {α : Type} (p : α → Prop) (x : Bounded α) : Prop :=
  ∀ a, x = some (.ok a) → p a

section Outcomes

variable {α β : Type} {p : α → Prop} {q : β → Prop}

theorem Ensures.pure
    {a : α}
    (h : p a) :
    Ensures p (Pure.pure a) := by
  intro b hb
  obtain rfl := Except.ok.inj (Option.some.inj hb)
  exact h

theorem Ensures.throw
    (fault : Fault) :
    Ensures p (MonadExcept.throw fault) := by
  intro a ha
  cases ha

theorem Ensures.bind
    {x : Bounded α} {f : α → Bounded β}
    (hx : Ensures p x)
    (hf : ∀ a, p a → Ensures q (f a)) :
    Ensures q (x >>= f) := by
  intro b hb
  obtain ⟨a, ha, hb⟩ := Bounded.bind_eq_ok_iff.1 hb
  exact hf a (hx a ha) b hb

theorem Ensures.ofExcept
    {x : Except Fault α}
    (h : ∀ a, x = .ok a → p a) :
    Ensures p (ofExcept x) := by
  intro a ha
  rw [Bounded.ofExcept_eq] at ha
  exact h a (Option.some.inj ha)

theorem ensures_true
    (x : Bounded α) :
    Ensures (fun _ => True) x :=
  fun _ _ => trivial

end Outcomes

/-- The range whose cells a shape adds up, where it is a sum or an average. -/
def Shape.totalled? : Shape → Option (List Char)
  | .aggregate .sum range => some range
  | .aggregate .average range => some range
  | _ => none

/-- Some part of a text is a call that adds up the cells of this range. -/
def Totals (s range : List Char) : Prop :=
  ∃ call, call <:+: s ∧ (Shape.ofBody call).totalled? = some range

section Parts

variable {s part range : List Char}

theorem Totals.of_isInfix
    (hpart : part <:+: s)
    (h : Totals part range) :
    Totals s range := by
  obtain ⟨call, hcall, hrange⟩ := h
  exact ⟨call, hcall.trans hpart, hrange⟩

theorem totalled?_equals
    (s : List Char) :
    (Shape.ofBody ('=' :: s)).totalled? = none := by
  unfold Shape.ofBody
  split
  · next shape hshape =>
      obtain ⟨parts, hparts, hshape⟩ := Option.bind_eq_some_iff.1 hshape
      have hnone := ofCall?_eq_none_of_mem hparts (c := '=') (by simp) (by decide) (by decide)
      cases hnone.symm.trans hshape
  · split <;> rfl

/-- An equals sign in front adds up nothing more. -/
theorem Totals.of_equals
    (h : Totals ('=' :: s) range) :
    Totals s range := by
  obtain ⟨call, hcall, hrange⟩ := h
  rcases List.infix_cons_iff.1 hcall with hcall | hcall
  · rcases List.prefix_cons_iff.1 hcall with rfl | ⟨rest, rfl, -⟩
    · have hnone : (Shape.ofBody []).totalled? = none := by decide
      rw [hnone] at hrange
      cases hrange
    · rw [totalled?_equals] at hrange
      cases hrange
  · exact ⟨call, hcall, hrange⟩

theorem totals_of_ofText?
    {f : Aggregate}
    (h : Shape.ofText? s = some (.aggregate f range))
    (hf : f = .sum ∨ f = .average) :
    Totals s range := by
  unfold Shape.ofText? at h
  split at h
  · next body =>
      refine ⟨body, (List.suffix_cons '=' body).isInfix, ?_⟩
      rw [Option.some.inj h]
      rcases hf with rfl | rfl <;> rfl
  · cases h

end Parts

namespace Environment

/-- Finite numbers in the cells of this range have a finite sum. -/
def AddsFinitely (env : Environment Bounded) (range : List Char) : Prop :=
  ∀ cells numbers total, env.present range = .ok cells →
    List.Forall₂ (fun r x => env.numeric r = some (.ok x)) cells numbers →
    (∀ x ∈ numbers, x.isFinite = true) → Number.sum numbers = .ok total → total.isFinite = true

/-- The cells that a text mentions have finite values, and so have their sums, where the
text asks for them. -/
structure IsFiniteOn (env : Environment Bounded) (s : List Char) : Prop where
  value {r : Reference} : Mentions s r → Ensures IsFiniteValue (env.value r)
  total {range : List Char} : Totals s range → env.AddsFinitely range
  readsEmpty : env.ReadsEmpty

section Lemmas

variable {env : Environment Bounded} {s part : List Char}

theorem IsFiniteOn.of_isInfix
    (h : env.IsFiniteOn s)
    (hpart : part <:+: s) :
    env.IsFiniteOn part :=
  { value := fun hr => h.value (hr.of_isInfix hpart)
    total := fun hrange => h.total (hrange.of_isInfix hpart)
    readsEmpty := h.readsEmpty }

theorem IsFiniteOn.equals
    (h : env.IsFiniteOn s) :
    env.IsFiniteOn ('=' :: s) :=
  { value := fun hr => h.value hr.of_equals
    total := fun hrange => h.total hrange.of_equals
    readsEmpty := h.readsEmpty }

theorem ensures_numeric
    {r : Reference}
    (hr : Ensures IsFiniteValue (env.value r)) :
    Ensures (fun x => x.isFinite = true) (env.numeric r) :=
  hr.bind fun _ hvalue => .ofExcept fun _ hx => isFinite_coerceValue hvalue hx

/-- The numbers in the cells of a range are finite. -/
theorem IsFiniteOn.isFinite_of_forall₂
    (h : env.IsFiniteOn s)
    {cells : List Reference} {numbers : List Number}
    (hcells : env.present s = .ok cells)
    (hnumbers : List.Forall₂ (fun r x => env.numeric r = some (.ok x)) cells numbers) :
    ∀ x ∈ numbers, x.isFinite = true := by
  have hmentions : ∀ r ∈ cells, Mentions s r := fun r hr => mentions_of_mem_present hcells hr
  clear hcells
  induction hnumbers with
  | nil => simp
  | cons hx _ ih =>
      obtain ⟨hr, hrest⟩ := List.forall_mem_cons.1 hmentions
      exact List.forall_mem_cons.2 ⟨ensures_numeric (h.value hr) _ hx, ih hrest⟩

theorem IsFiniteOn.ensures_total
    (h : env.IsFiniteOn s)
    (hadds : env.AddsFinitely s)
    {cells : List Reference}
    (hcells : env.present s = .ok cells) :
    Ensures (fun x => x.isFinite = true) (env.total cells) := by
  intro total htotal
  obtain ⟨numbers, hnumbers, hsum⟩ := exists_sum_of_total htotal
  exact hadds cells numbers total hcells hnumbers (h.isFinite_of_forall₂ hcells hnumbers) hsum

theorem IsFiniteOn.ensures_mapM
    (h : env.IsFiniteOn s)
    {cells : List Reference}
    (hcells : env.present s = .ok cells) :
    Ensures (fun numbers => ∀ x ∈ numbers, x.isFinite = true) (cells.mapM env.numeric) :=
  fun _ hnumbers => h.isFinite_of_forall₂ hcells (Bounded.mapM_eq_ok_iff.1 hnumbers)

/-- A function of a range is finite, if it is no sum and no average or its numbers have a
finite sum. -/
theorem IsFiniteOn.ensures_aggregate
    (h : env.IsFiniteOn s)
    {f : Aggregate}
    (hadds : f = .sum ∨ f = .average → env.AddsFinitely s) :
    Ensures (fun x => x.isFinite = true) (env.aggregate f s) := by
  rw [aggregate_eq_aggregateOf h.readsEmpty]
  refine .bind (p := fun cells => env.present s = .ok cells) (.ofExcept fun _ hcells => hcells) ?_
  intro cells hcells
  cases f with
  | sum => exact h.ensures_total (hadds (.inl rfl)) hcells
  | count => exact .pure rfl
  | average =>
      simp only [aggregateOf]
      split
      · exact .pure rfl
      · next hne =>
          have hlength : 0 < cells.length := List.length_pos_iff.2 fun hnil => hne (by simp [hnil])
          refine (h.ensures_total (hadds (.inr rfl)) hcells).bind fun total htotal => ?_
          exact .ofExcept fun _ hquotient => Number.isFinite_div htotal hlength hquotient
  | least =>
      refine (h.ensures_mapM hcells).bind fun numbers hnumbers => ?_
      cases numbers with
      | nil => exact .pure rfl
      | cons x xs => exact .pure (hnumbers _ (Number.least_mem x xs))
  | greatest =>
      refine (h.ensures_mapM hcells).bind fun numbers hnumbers => ?_
      cases numbers with
      | nil => exact .pure rfl
      | cons x xs => exact .pure (hnumbers _ (Number.greatest_mem x xs))

/-- Arithmetic gives a finite number, whatever it reads. -/
theorem ensures_arithmetic
    (env : Environment Bounded) (s : List Char) :
    Ensures (fun x => x.isFinite = true) (env.arithmetic s) := by
  refine (ensures_true _).bind fun pieces _ => ?_
  refine (ensures_true _).bind fun e _ => ?_
  refine (ensures_true _).bind fun x _ => ?_
  split
  · next hx => exact .pure hx
  · exact .throw _

theorem isFiniteValue_number
    {x : Number}
    (hx : x.isFinite = true) :
    IsFiniteValue (some (.number x)) := by
  intro y hy
  obtain rfl := Scalar.number.inj (Option.some.inj hy)
  exact hx

theorem isFiniteValue_of_ne
    {value : Option Scalar}
    (h : ∀ x, value ≠ some (.number x)) :
    IsFiniteValue value :=
  fun x hx => absurd hx (h x)

theorem ensures_single
    {letters digits : List Char}
    (hlabel : Reference.splitLabel? (letters ++ digits) = some (letters, digits))
    (h : env.IsFiniteOn (letters ++ digits)) :
    Ensures IsFiniteValue (env.single letters digits) := by
  refine .bind (p := fun r => Reference.ofParts? letters digits = .ok r)
    (.ofExcept fun _ hr => hr) ?_
  intro r hr
  cases r with
  | none => exact .pure (isFiniteValue_number rfl)
  | some r =>
      rw [← Reference.parse?_of_splitLabel? hlabel] at hr
      refine (h.value (.label (List.infix_refl _) hr)).bind fun value hvalue => .pure ?_
      cases value with
      | none => exact isFiniteValue_number rfl
      | some x => exact hvalue

theorem isFinite_of_argument_number
    {x : Number}
    (h : Argument.ofText s = .ok (.number x)) :
    x.isFinite = true := by
  unfold Argument.ofText at h
  split at h
  · cases h
  · obtain ⟨number, hnumber, h⟩ := bind_eq_ok_iff.1 h
    cases number with
    | some y =>
        obtain rfl := Argument.number.inj (Except.ok.inj h)
        exact Number.read?_isFinite hnumber
    | none =>
        obtain ⟨r, -, h⟩ := bind_eq_ok_iff.1 h
        cases r with
        | some r => cases h
        | none =>
            have h := Except.ok.inj h
            split at h <;> cases h

theorem ensures_branch
    (h : env.IsFiniteOn s)
    {nested : Unit → Bounded (Option Scalar)}
    (hnested : Ensures IsFiniteValue (nested ())) :
    Ensures IsFiniteValue (env.branch s nested) := by
  refine .bind (p := fun argument => Argument.ofText s = .ok argument)
    (.ofExcept fun _ hargument => hargument) ?_
  intro argument hargument
  cases argument with
  | quoted text => exact .pure (isFiniteValue_of_ne (by simp))
  | number x => exact .pure (isFiniteValue_number (isFinite_of_argument_number hargument))
  | reference r =>
      exact h.value (.label (List.infix_refl _)
        (Simulation.parse?_of_argument_reference hargument))
  | empty => exact .throw _
  | formula => exact hnested

theorem ensures_conditionOf
    (h : env.IsFiniteOn s)
    {nested : List Char → Bounded (Option Scalar)}
    (hnested : ∀ part, part <:+: s → Ensures IsFiniteValue (nested part)) :
    Ensures IsFiniteValue (env.conditionOf nested s) := by
  unfold conditionOf
  split
  · exact .throw _
  · next condition whenTrue others hargs =>
      have hbranch : ∀ part ∈ condition :: whenTrue :: others,
          Ensures IsFiniteValue (env.branch part fun _ => nested part) := by
        intro part hpart
        have hpart := isInfix_of_mem_splitArguments hargs hpart
        exact ensures_branch (h.of_isInfix hpart) (hnested part hpart)
      split
      · exact .throw _
      · split
        · exact .throw _
        · refine (ensures_true _).bind fun x _ => (ensures_true _).bind fun y _ => ?_
          split
          · exact hbranch whenTrue (by simp)
          · cases others with
            | nil => exact .pure (isFiniteValue_of_ne (by simp))
            | cons whenFalse others => exact hbranch whenFalse (by simp)
  · exact .throw _

theorem ensures_joinOf
    (nested : List Char → Bounded (Option Scalar)) (s : List Char) :
    Ensures IsFiniteValue (env.joinOf nested s) := by
  unfold joinOf
  split
  · exact .throw _
  · exact .throw _
  · exact (ensures_true _).bind fun texts _ => .pure (isFiniteValue_of_ne (by simp))

end Lemmas

end Environment

/-- Evaluation gives no infinite or undefined number where it reads none and no sum is
one. -/
theorem ensures_evaluateText
    {env : Environment Bounded} {s : List Char}
    (h : env.IsFiniteOn s) :
    Ensures IsFiniteValue (evaluateText env s) := by
  rw [evaluateText_eq]
  have htrim := h.of_isInfix (isInfix_trim s)
  cases hshape : Shape.ofText? (Text.trim s) with
  | none => exact .throw _
  | some shape =>
      cases shape with
      | today => exact .pure (Environment.isFiniteValue_of_ne (by simp))
      | aggregate f range =>
          have hrange := htrim.of_isInfix (isInfix_arguments hshape rfl)
          refine (hrange.ensures_aggregate fun hf => ?_).bind fun x hx =>
            .pure (Environment.isFiniteValue_number hx)
          exact htrim.total (totals_of_ofText? hshape hf)
      | reference letters digits =>
          obtain ⟨hpart, hlabel⟩ := isInfix_reference hshape
          exact Environment.ensures_single hlabel (htrim.of_isInfix hpart)
      | arithmetic expression =>
          exact (env.ensures_arithmetic expression).bind fun x hx =>
            .pure (Environment.isFiniteValue_number hx)
      | condition arguments =>
          have harguments := htrim.of_isInfix (isInfix_arguments hshape rfl)
          refine Environment.ensures_conditionOf harguments fun part hpart => ?_
          -- A formula inside the formula is shorter, with the equals sign that it gets.
          have := length_trim_le s
          have := hpart.length_le
          have := length_of_condition hshape
          exact ensures_evaluateText (harguments.of_isInfix hpart).equals
      | join arguments => exact Environment.ensures_joinOf _ arguments
termination_by s.length
decreasing_by
  simp only [List.length_cons]
  omega

/-- A formula, or that of a cell which it reaches, asks for the sum or the average of this
range. -/
inductive AddsUp (src : Source) (s range : List Char) : Prop
  | here
      (h : Totals s range) :
      AddsUp src s range
  | cell
      {r : Reference} {cell : Cell} {text : String}
      (hr : Reaches src s r)
      (hcell : src.cell? r = some cell)
      (htext : cell.source? = some text)
      (h : Totals text.toList range) :
      AddsUp src s range

/-- The cells of a range that are not empty show finite numbers, but added up one after
the other these are infinite or undefined. -/
def Overflows (src : Source) (today : Date) (range : List Char) : Prop :=
  ∃ cells numbers total,
    (src.environment today (src.read today src.formulas)).present range = .ok cells
      ∧ List.Forall₂ (fun r x => src.reading today r = .ok x) cells numbers
      ∧ (∀ x ∈ numbers, x.isFinite = true)
      ∧ Number.sum numbers = .ok total ∧ total.isFinite = false

namespace Source

section Lemmas

variable {src : Source} {today : Date} {s : List Char}

/-- The cells of a sheet hold no number that is infinite or undefined. -/
def HasFiniteNumbers (src : Source) : Prop :=
  ∀ r, ∀ c ∈ src.cell? r, IsFiniteValue c.value?

theorem addsFinitely_of_not_overflows
    (hformulas : ∀ r, src.IsFormula r → r ∈ src.formulas)
    {range : List Char}
    (h : ¬ Overflows src today range)
    (bound : Nat) :
    (src.bounded today bound).AddsFinitely range := by
  intro cells numbers total hcells hnumbers hfinite hsum
  by_contra htotal
  rw [Bool.not_eq_true] at htotal
  refine h ⟨cells, numbers, total, hcells, hnumbers.imp fun _ _ hx => ?_, hfinite, hsum, htotal⟩
  exact (reading_eq_ok_iff hformulas).2 ⟨bound, hx⟩

/-- The cells that a text reaches have finite values, if their sums are finite. -/
theorem ensures_recompute
    (hformulas : ∀ r, src.IsFormula r → r ∈ src.formulas)
    (hstored : src.HasFiniteNumbers)
    (htotals : ∀ range, AddsUp src s range → ¬ Overflows src today range)
    (bound : Nat) {r : Reference}
    (hr : Reaches src s r) :
    Ensures IsFiniteValue (src.recompute today bound r) := by
  induction bound generalizing r with
  | zero =>
      rw [recompute]
      split
      · exact .pure (Environment.isFiniteValue_of_ne (by simp))
      · next cell hcell =>
          split
          · exact .pure (hstored r cell hcell)
          · intro a ha
            cases ha
  | succ bound ih =>
      rw [recompute]
      split
      · exact .pure (Environment.isFiniteValue_of_ne (by simp))
      · next cell hcell =>
          split
          · exact .pure (hstored r cell hcell)
          · next text htext =>
              refine ensures_evaluateText
                { value := fun hnext => ih (hr.follow hcell htext hnext)
                  total := fun hrange => ?_
                  readsEmpty := readsEmpty_bounded bound }
              exact addsFinitely_of_not_overflows hformulas
                (htotals _ (.cell hr hcell htext hrange)) bound

theorem ensures_recomputeText
    (hformulas : ∀ r, src.IsFormula r → r ∈ src.formulas)
    (hstored : src.HasFiniteNumbers)
    (htotals : ∀ range, AddsUp src s range → ¬ Overflows src today range)
    (bound : Nat) :
    Ensures IsFiniteValue (src.recomputeText today bound s) :=
  ensures_evaluateText
    { value := fun hr => ensures_recompute hformulas hstored htotals bound (.mention hr)
      total := fun hrange =>
        addsFinitely_of_not_overflows hformulas (htotals _ (.here hrange)) bound
      readsEmpty := readsEmpty_bounded bound }

theorem evaluate_arithmetic_cases
    (hformulas : ∀ r, src.IsFormula r → r ∈ src.formulas)
    {formula : String} {expression : List Char}
    (hshape : Shape.ofText? (Text.trim formula.toList) = some (.arithmetic expression)) :
    src.evaluate today formula = some (.text errorMarker)
      ∨ ∃ x : Number, src.evaluate today formula = some (.number x) ∧ x.isFinite = true := by
  rcases evaluate_cases hformulas today formula with ⟨bound, hbound⟩ | hmarker
  · rw [recomputeText, evaluateText_eq, hshape] at hbound
    obtain ⟨x, hx, hvalue⟩ := Bounded.bind_eq_ok_iff.1 hbound
    exact .inr ⟨x, (Except.ok.inj (Option.some.inj hvalue)).symm,
      Environment.ensures_arithmetic _ _ x hx⟩
  · exact .inl hmarker

end Lemmas

end Source

/-- Where the stored numbers are finite, a formula has a value that is no infinite or
undefined number, unless the sum or the average of finite numbers that it depends on is
too large; and arithmetic that comes to such a number gives the error marker. -/
theorem isFinite_or_overflows
    (g : Grid) (today : Date) (formula : String)
    (hstored : g.HasFiniteNumbers) :
    (∀ x, g.source.evaluate today formula = some (.number x) → x.isFinite = true
        ∨ ∃ range, AddsUp g.source formula.toList range ∧ Overflows g.source today range)
      ∧ ∀ expression, Shape.ofText? (Text.trim formula.toList) = some (.arithmetic expression) →
        g.source.evaluate today formula = some (.text errorMarker)
          ∨ ∃ x : Number, g.source.evaluate today formula = some (.number x)
            ∧ x.isFinite = true := by
  have hformulas : ∀ r, g.source.IsFormula r → r ∈ g.source.formulas :=
    fun r hr => Grid.mem_formulas hr
  constructor
  · intro x hx
    rw [or_iff_not_imp_right]
    intro hnone
    have htotals : ∀ range, AddsUp g.source formula.toList range →
        ¬ Overflows g.source today range :=
      fun range hrange hoverflow => hnone ⟨range, hrange, hoverflow⟩
    rcases Source.evaluate_cases hformulas today formula with ⟨bound, hbound⟩ | hmarker
    · exact Source.ensures_recomputeText hformulas hstored htotals bound _ hbound x hx
    · rw [hmarker] at hx
      cases hx
  · intro expression hshape
    exact Source.evaluate_arithmetic_cases hformulas hshape

/-- The greatest power of ten among the binary numbers, twice in a column. -/
def largeNumbers : Grid :=
  gridOf (.int 1) (List.replicate 2 [some (.plain (.number (.float (Numeral.toBinary64
    ⟨false, ['1'], none, some (false, ['3', '0', '8'])⟩))) .number none)])

theorem hasFiniteNumbers_largeNumbers :
    largeNumbers.HasFiniteNumbers := by
  have hrows : ∀ row ∈ largeNumbers.rows, ∀ cell ∈ row, ∀ c ∈ cell,
      (c.value?.bind Scalar.comparand?).all Number.isFinite = true := by
    decide +kernel
  rw [Grid.HasFiniteNumbers, Grid.forall_get?_iff]
  intro row hrow cell hcell c hc x hx
  have hnumber := hrows row hrow cell hcell c hc
  rw [hx] at hnumber
  exact hnumber

theorem evaluate_sum_largeNumbers :
    largeNumbers.source.evaluate ⟨2024, 3, 9, by decide⟩ "=SUM(A1:A2)"
      = some (.number (.float (.infinite false))) := by
  rw [Source.evaluate, Source.attempt, evaluateText_eq]
  decide +kernel

/-- Two finite numbers have an infinite sum, and arithmetic refuses one. -/
theorem evaluate_largeNumbers :
    largeNumbers.HasFiniteNumbers
      ∧ largeNumbers.source.evaluate ⟨2024, 3, 9, by decide⟩ "=SUM(A1:A2)"
        = some (.number (.float (.infinite false)))
      ∧ largeNumbers.source.evaluate ⟨2024, 3, 9, by decide⟩ "=A1*1.5+A2*1.5"
        = some (.text errorMarker) := by
  refine ⟨hasFiniteNumbers_largeNumbers, evaluate_sum_largeNumbers, ?_⟩
  have hshape : Shape.ofText? (Text.trim "=A1*1.5+A2*1.5".toList)
      = some (.arithmetic "A1*1.5+A2*1.5".toList) := by decide
  -- The numbers have hundreds of digits, which are inserted as such and not as a text.
  rw [Source.evaluate, Source.attempt, evaluateText_eq, hshape, Environment.valueOf,
    Environment.arithmetic, Environment.substitute_eq_insertion]
  decide +kernel

/-- The infinite sum comes of a range of finite numbers. -/
theorem overflows_largeNumbers :
    largeNumbers.HasFiniteNumbers
      ∧ ∃ range, AddsUp largeNumbers.source "=SUM(A1:A2)".toList range
        ∧ Overflows largeNumbers.source ⟨2024, 3, 9, by decide⟩ range := by
  have hfinite := hasFiniteNumbers_largeNumbers
  refine ⟨hfinite, ?_⟩
  rcases (isFinite_or_overflows largeNumbers _ _ hfinite).1 _ evaluate_sum_largeNumbers with h | h
  · cases h
  · exact h

end Formula
end Spreadsheet
