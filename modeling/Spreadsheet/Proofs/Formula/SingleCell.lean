import Spreadsheet.Proofs.Formula.Arithmetic
import Spreadsheet.Proofs.Formula.Ranges
import Spreadsheet.Proofs.Grid.Width
import Spreadsheet.Proofs.Number.Plain

/-!
# One cell read in many ways

The number that a cell shows can be asked for directly, through a function of the range
that is the cell alone, and through arithmetic, which writes the number out and reads the
text again.  A cut to the sheet leaves of such a range the cell if it is not empty, and
what is written is read as an equal number.

Results: what arithmetic makes of a number put between parentheses, with a zero added, is
an equal number (`exists_plusZero`), and all ways of reading a cell agree
(`readings_agree`).
-/

namespace Spreadsheet

open Numeral

namespace Number

section Lemmas

variable {x : Number}

/-- A zero before a number leaves it as it is, but for the sign of a zero. -/
theorem exists_zero_add
    (hfinite : x.isFinite = true) :
    ∃ y, (Number.int 0).add x = .ok y ∧ y.equal x = true := by
  cases x with
  | int i => exact ⟨.int i, by simp, equal_self (by simp)⟩
  | float x =>
      have hadd : (Number.int 0).add (.float x) = .ok (.float (Binary64.zero.add x)) := by
        simp [add, combine, toBinary64, Binary64.ofInt?_zero, bind, Except.bind, pure, Except.pure]
      refine ⟨_, hadd, ?_⟩
      cases x with
      | infinite negative => cases hfinite
      | nan => cases hfinite
      | finite negative units fits =>
          by_cases hunits : units = 0
          · subst hunits
            have hzero : Binary64.zero.add (.finite negative 0 fits) = Binary64.zero := by
              cases negative <;> simp [Binary64.add, Binary64.zero, Binary64.signedUnits]
            rw [hzero]
            cases negative <;>
              simp [equal, order?, place?, Binary64.place?, Binary64.zero, Binary64.signedUnits,
                Place.compare]
          · rw [Binary64.zero_add_of_ne_zero fits hunits]
            exact equal_self (by simp)

end Lemmas

end Number

namespace Range

section Lemmas

variable {r : Reference}

theorem toList_single :
    (Range.mk r r).toList = [r] := by
  simp [toList, height, width, minRow, maxRow, minCol, maxCol]

/-- Where the columns cannot be counted, a single cell is inside the sheet or not by one
comparison with the last column. -/
theorem exists_clippedTo?_single
    (r : Reference) (x : Binary64) (rows : Int) :
    ∃ last, (Number.float x).sub (.int 1) = .ok last
      ∧ (Range.mk r r).clippedTo? (.float x) rows
        = .ok (if last.less (.int r.col) then none
          else (Range.mk r r).clipped? (r.col + 1) rows) := by
  have hlast : (Number.float x).sub (.int 1)
      = .ok (.float (x.sub
        (.finite false Binary64.unitsPerOne Binary64.representable_unitsPerOne))) := by
    simp [Number.sub, Number.combine, Number.toBinary64, Binary64.ofInt?_one, bind, Except.bind,
      pure, Except.pure]
  have hmin : (Range.mk r r).minCol = r.col := Nat.min_self _
  have hmax : (Range.mk r r).maxCol = r.col := Nat.max_self _
  refine ⟨_, hlast, ?_⟩
  unfold clippedTo?
  simp only [hlast, bind, Except.bind, hmin, hmax]
  split
  · next hinside =>
      rw [Bool.not_eq_true', ← Bool.not_eq_true] at hinside
      rw [if_neg hinside]
      rfl
  · next houtside =>
      rw [Bool.not_eq_true', Bool.not_eq_false] at houtside
      rw [if_pos (by rw [houtside, Bool.true_or]), if_pos houtside]
      rfl

end Lemmas

end Range

namespace Grid

/-- No row is longer than what memory holds. -/
def FitsMemory (g : Grid) : Prop :=
  ∀ row ∈ g.rows, (row.length : Int) ≤ Number.memoryLimit

section Lemmas

variable {g : Grid} {r : Reference} {x : Binary64}

/-- A cell that is not empty lies before the last of columns that cannot be counted. -/
theorem not_less_col_of_isEmpty_eq_false
    {last : Number}
    (hfits : g.FitsMemory)
    (hcolumns : g.columnCount = .float x)
    (hlast : (Number.float x).sub (.int 1) = .ok last)
    (hr : g.source.isEmpty r = false) :
    last.less (.int r.col) = false := by
  have hcol := (lt_of_isEmpty_eq_false hr).1
  have hwidest : (widestRow g.rows : Int) ≤ Number.memoryLimit := by
    have hrows : ∀ row ∈ g.rows, row.length ≤ Number.memoryLimit.toNat := fun row hrow => by
      have := hfits row hrow
      omega
    have hle := widestRow_le_iff.2 hrows
    unfold Number.memoryLimit at hle ⊢
    omega
  have hsmall : r.col ≤ Nat.pow 2 53 := by
    unfold Number.memoryLimit at hwidest
    have hpow : Nat.pow 2 36 ≤ Nat.pow 2 53 := by decide
    omega
  have hnot : (Number.float x).less (.int (widestRow g.rows)) = false := by
    rw [← Bool.not_eq_true]
    intro hless
    rw [columnCount, Number.greatest_eq] at hcolumns
    split at hcolumns
    · cases hcolumns
    · next hmin =>
        rw [hcolumns] at hmin
        exact hmin hless
  have hnext : (Number.float x).less (.int (r.col + 1)) = false := by
    rw [← Bool.not_eq_true]
    intro hless
    have := Number.less_int_of_le hless (show (r.col : Int) + 1 ≤ widestRow g.rows by omega)
    rw [hnot] at this
    cases this
  obtain ⟨y, hy, hless⟩ := Number.exists_sub_one_of_not_less hsmall hnext
  obtain rfl := Except.ok.inj (hlast.symm.trans hy)
  exact hless

end Lemmas

end Grid

/-- The expression of a numeral without a power of ten. -/
def Numeral.expression (n : Numeral) : Formula.Expression :=
  if n.negative then .signed .minus (.literal n.text) else .literal n.text

namespace PlainNumeral

open Formula

section Lemmas

variable {x : Number} {n : Numeral}

theorem isLiteral_text
    (h : PlainNumeral x n) :
    IsLiteral n.text := by
  cases h with
  | whole hequal hi =>
      rw [Numeral.text, Option.elim_none, Option.elim_none, List.append_nil, List.append_nil]
      exact .whole ⟨Nat.toDigits_ne_nil, fun c hc => Text.isDigit_of_mem_toDigits hc⟩
  | point hfinite hne hwhole hfraction hvalue =>
      rw [Numeral.text, Option.elim_some, Option.elim_none, List.append_nil]
      exact .point hwhole hfraction.2

/-- A plain numeral between parentheses prints its expression. -/
theorem isPrinting_expression
    (h : PlainNumeral x n) :
    IsPrinting .operand n.expression
      ('(' :: (Binary64.signText n.negative ++ n.text) ++ [')']) := by
  refine .parentheses (.ofProduct (.ofOperand ?_))
  unfold Numeral.expression Binary64.signText
  split
  · exact .signed .minus (.literal h.isLiteral_text)
  · exact .literal h.isLiteral_text

/-- Digits on both sides of a point write the number that they are the parts of. -/
theorem literalValue_point
    {whole fraction : List Char}
    (hwhole : IsDigits whole) :
    literalValue (whole ++ '.' :: fraction)
      = .ok (.float (Numeral.toBinary64 ⟨false, whole, some fraction, none⟩)) := by
  have hdigits : ∀ c ∈ whole, (c != '.') = true := by
    intro c hc
    rw [bne_iff_ne]
    rintro rfl
    exact absurd (hwhole.2 '.' hc) (by decide)
  have htake : (whole ++ '.' :: fraction).takeWhile (· != '.') = whole := by
    rw [List.takeWhile_append_of_pos hdigits, List.takeWhile_cons_of_neg (by simp), List.append_nil]
  have hdrop : (whole ++ '.' :: fraction).dropWhile (· != '.') = '.' :: fraction := by
    rw [List.dropWhile_append_of_pos hdigits, List.dropWhile_cons_of_neg (by simp)]
  rw [literalValue, if_pos (by simp), htake, hdrop]
  rfl

/-- The expression of a plain numeral has a finite number for its value that equals the one
it was written for. -/
theorem exists_value_expression
    (h : PlainNumeral x n) :
    ∃ y, n.expression.value = .ok y ∧ y.isFinite = true ∧ y.equal x = true
      ∧ y ≠ .float Binary64.negativeZero := by
  cases h with
  | @whole _ i hequal hi =>
      have hexpression : Numeral.expression ⟨decide (i < 0), Nat.toDigits 10 i.natAbs, none, none⟩
          = .ofInt i := by
        simp [Numeral.expression, Expression.ofInt, Numeral.text]
      refine ⟨.int i, ?_, rfl, by rwa [Number.equal_comm], by simp⟩
      rw [hexpression]
      exact Expression.value_of_integerValue (integerValue?_ofInt hi)
  | @point x whole fraction hfinite hne hwhole hfraction hvalue =>
      have hsigned : Expression.value (.literal (whole ++ '.' :: fraction))
          = .ok (.float (Numeral.toBinary64 ⟨false, whole, some fraction, none⟩)) :=
        literalValue_point hwhole
      have hexpression : (Numeral.expression ⟨x.isNegative, whole, some fraction, none⟩).value
          = .ok (.float x) := by
        unfold Numeral.expression
        simp only [Numeral.text, Option.elim_some, Option.elim_none, List.append_nil]
        split
        · next hnegative =>
            rw [Expression.value, hsigned]
            rw [hnegative] at hvalue
            have hneg : (Numeral.toBinary64 ⟨false, whole, some fraction, none⟩).neg = x := by
              rw [← hvalue]
              exact Binary64.neg_ofDecimal _ _
            exact congrArg (fun y => Except.ok (Number.float y)) hneg
        · next hpositive =>
            rw [Bool.not_eq_true] at hpositive
            rw [hpositive] at hvalue
            rw [hsigned, hvalue]
      refine ⟨.float x, hexpression, hfinite, Number.equal_self_of_isFinite hfinite, ?_⟩
      intro hzero
      obtain rfl := Number.float.inj hzero
      cases hne

end Lemmas

end PlainNumeral

namespace Formula

namespace Source

section Lemmas

variable {g : Grid} {r : Reference} {s : List Char}

theorem present_single :
    g.source.present ⟨r, r⟩ = [r].filter fun r => !g.source.isEmpty r := by
  rw [present, Range.toList_single]

/-- The argument that is a single label holds its cell if that is not empty, also where
the columns cannot be counted. -/
theorem present_label
    {m : Type → Type} (value : Reference → m (Option Scalar)) (today : Date)
    (hfits : ∀ x, g.columnCount = .float x → g.FitsMemory)
    (hs : Reference.parse? s = .ok (some r)) :
    (g.source.environment today value).present s = .ok (g.source.present ⟨r, r⟩) := by
  cases hcolumns : g.columnCount with
  | int columns =>
      rw [present_eq (Grid.hasColumns hcolumns), rangeOf?_single hs]
      rfl
  | float x =>
      obtain ⟨last, hlast, hclip⟩ := Range.exists_clippedTo?_single r x g.rowCount
      have hclip' : (Range.mk r r).clippedTo? (g.source.environment today value).columns
          (g.source.environment today value).rows = .ok (if last.less (.int r.col) then none
            else (Range.mk r r).clipped? (r.col + 1) g.rowCount) := by
        rw [← hclip, ← hcolumns]
        rfl
      rw [Environment.present, rangeCells_eq, rangeOf?_single hs, present_single]
      simp only [bind, Except.bind, hclip', pure, Except.pure, Except.map]
      congr 1
      have hinside := Range.toList_clipped? (Range.mk r r) (r.col + 1) g.rowCount
      rw [Range.toList_single] at hinside
      cases hr : g.source.isEmpty r with
      | true =>
          split
          · simp [hr]
          · rw [hinside, List.filter_filter]
            simp [environment, hr]
      | false =>
          have hrow := (Grid.lt_of_isEmpty_eq_false hr).2
          have hless :=
            Grid.not_less_col_of_isEmpty_eq_false (hfits x hcolumns) hcolumns hlast hr
          rw [if_neg (by simp [hless]), hinside, List.filter_filter]
          simp [environment, hr, hrow]

/-- A function of a range that is a single label has the value of a walk to its cell. -/
theorem attempt_callFormula_label
    (today : Date) {f : Aggregate} {name label : String}
    (hfits : ∀ x, g.columnCount = .float x → g.FitsMemory)
    (hname : Aggregate.ofName? name = some f)
    (hlabel : Reference.parse? label.toList = .ok (some r)) :
    g.source.attempt today (callFormula name label)
      = (g.source.walked today f ⟨r, r⟩).map fun x => some (.number x) := by
  have hne : label.toList ≠ [] := by
    intro hnil
    rw [hnil] at hlabel
    cases hlabel
  have hclose := Reference.not_mem_of_parse? hlabel (c := ')') (by decide) (by decide) (by decide)
  rw [attempt, evaluateText_call _ hname hne hclose,
    Environment.aggregate_eq_aggregateOf (readsEmpty_read _ _), present_label _ _ hfits hlabel,
    ofExcept, pure_bind, walked_eq]
  exact run_map _ (fun x : Number => some (Scalar.number x)) []

/-- The sum of a single cell is that of zero and its number. -/
theorem walked_sum_single
    (src : Source) (today : Date) (r : Reference) :
    src.walked today .sum ⟨r, r⟩ = (do (Number.int 0).add (← src.reading today r)) := by
  rw [walked, Range.toList_single, Environment.walk, Environment.total, List.foldlM_cons]
  simp only [List.foldlM_nil, bind_pure]
  exact run_bind_ofExcept _ (fun x : Number => (Number.int 0).add x) []

theorem reading_of_isEmpty
    {src : Source} {r : Reference}
    (hr : src.isEmpty r = true)
    (today : Date) :
    src.reading today r = .ok (.int 0) := by
  have hnumeric : src.numeric today r = pure (.int 0) :=
    Environment.numeric_of_isEmpty (readsEmpty_read today src.formulas) hr
  rw [reading, hnumeric]
  rfl

/-- The extremes of a single cell are its number. -/
theorem walked_extreme_single
    (src : Source) (today : Date) (r : Reference)
    {f : Aggregate}
    (hf : f = .least ∨ f = .greatest) :
    src.walked today f ⟨r, r⟩ = src.reading today r := by
  rw [walked_eq, present, Range.toList_single]
  cases hr : src.isEmpty r with
  | true =>
      rw [reading_of_isEmpty hr]
      rcases hf with rfl | rfl <;> simp [hr] <;> rfl
  | false =>
      have hnumeric : ((src.environment today (src.read today src.formulas)).aggregateOf f [r]
          : Evaluation Number) = src.numeric today r := by
        rcases hf with rfl | rfl <;>
          simp [Environment.aggregateOf, Number.least, Number.greatest] <;> rfl
      rw [List.filter_cons_of_pos (by simp [hr]), List.filter_nil, hnumeric]
      rfl

end Lemmas

end Source

/-- The value of arithmetic in which numbers stand for the labels. -/
def valueOfArithmetic (s : List Char) : Except Fault Number := do
  let e ← (Expression.parse s).mapError .syntaxFault
  let x ← e.value
  if x.isFinite then return x else throw .nonFiniteResult

/-- What arithmetic makes of a number that it writes between parentheses, with a zero added. -/
def plusZero (x : Number) : Except Fault Number := do
  let text ← x.plain
  valueOfArithmetic ('(' :: text.toList ++ [')'] ++ ['+', '0'])

section Arithmetic

variable {m : Type → Type} [Monad m] [MonadExcept Fault m] [LawfulFailure m]

theorem ofExcept_bind
    {α β : Type}
    (x : Except Fault α) (f : α → Except Fault β) :
    (ofExcept (x >>= f) : m β) = ofExcept x >>= fun a => ofExcept (f a) := by
  cases x with
  | error fault => exact (LawfulFailure.throw_bind fault fun a => ofExcept (f a)).symm
  | ok a => exact (pure_bind a fun a => ofExcept (f a)).symm

theorem Environment.arithmetic_eq
    (env : Environment m) (s : List Char) :
    env.arithmetic s
      = (do ofExcept (valueOfArithmetic (← (segments s).mapM env.substitute).flatten)) := by
  rw [arithmetic]
  refine bind_congr fun pieces => ?_
  rw [valueOfArithmetic, ofExcept_bind]
  refine bind_congr fun e => ?_
  rw [ofExcept_bind]
  refine bind_congr fun x => ?_
  split <;> rfl

theorem segments_plusZero
    {r : Reference} {letters digits : List Char}
    (h : IsNamedBy r letters digits) :
    segments (letters ++ digits ++ ['+', '0'])
      = [.label letters digits, .verbatim ['+'], .verbatim ['0']] := by
  have hcut : IsCut (letters ++ digits ++ '+' :: ['0'])
      ([.label letters digits] ++ .verbatim ['+'] :: ['0'].map fun c => .verbatim [c]) :=
    (isCut_label h).append_cons (by decide) (isCut_digits (by simp))
  have hall := hcut [] (by rintro c r ⟨⟩)
  rwa [List.append_nil, segments, List.append_nil] at hall

/-- Arithmetic on a label and a zero reads the cell and works on its number alone. -/
theorem Environment.arithmetic_plusZero
    (env : Environment m)
    {r : Reference} {s : List Char}
    (h : IsLabelOf r s) :
    env.arithmetic (s ++ ['+', '0']) = (do ofExcept (plusZero (← env.numeric r))) := by
  obtain ⟨letters, digits, rfl, hnamed⟩ := h.exists_parts
  have hlabel : env.substitute (.label letters digits)
      = (do
        let text ← ofExcept (← env.numeric r).plain
        return '(' :: text.toList ++ [')']) := by
    rw [Environment.substitute, hnamed.reads, ofExcept, pure_bind]
  rw [arithmetic_eq, segments_plusZero hnamed, List.mapM_cons, hlabel]
  simp only [List.mapM_cons, List.mapM_nil, Environment.substitute, bind_assoc, pure_bind]
  refine bind_congr fun x => ?_
  rw [plusZero, ofExcept_bind]
  refine bind_congr fun text => ?_
  simp

/-- A label with a zero added is arithmetic. -/
theorem evaluateText_plusZero
    (env : Environment m)
    {r : Reference} {s : List Char}
    (h : IsLabelOf r s) :
    evaluateText env ('=' :: (s ++ ['+', '0']))
      = (do return some (.number (← (do ofExcept (plusZero (← env.numeric r)))))) := by
  have htrim : Text.trim ('=' :: (s ++ ['+', '0'])) = '=' :: (s ++ ['+', '0']) := by
    simpa using Text.trim_cons_append_singleton (c := '=') (d := '0') (by decide) (by decide)
      (s ++ ['+'])
  have hwritten : IsWritten IsLabelOf .sum (.sum .plus (.cell r) (.literal ['0']))
      (s ++ Sign.plus.char :: ['0']) :=
    .sum .plus (.ofProduct (.ofOperand (.cell h)))
      (.ofOperand (.literal (by simp) (by simp)))
  have hshape : Shape.ofBody (s ++ ['+', '0']) = .arithmetic (s ++ ['+', '0']) := by
    rcases hwritten.ofBody_cases with hshape | ⟨_, _, _, -, hcell, -⟩
    · exact hshape
    · cases hcell
  rw [evaluateText_eq, htrim, Shape.ofText?, hshape, Environment.valueOf,
    env.arithmetic_plusZero h]

/-- What arithmetic makes of a number with a zero added is an equal number. -/
theorem exists_plusZero
    {x : Number}
    (hfinite : x.isFinite = true)
    (htext : x.HasText) :
    ∃ y, plusZero x = .ok y ∧ y.equal x = true := by
  obtain ⟨n, hnumeral, hplain⟩ := exists_plainNumeral hfinite htext
  obtain ⟨y, hvalue, hyfinite, hequal, hne⟩ := hnumeral.exists_value_expression
  have hzero : IsPrinting .product (.literal ['0']) ['0'] :=
    .ofOperand (.literal (.whole ⟨by simp, by simp⟩))
  have hprints := hnumeral.isPrinting_expression
  have hparse : Expression.parse
      ('(' :: (Binary64.signText n.negative ++ n.text) ++ [')'] ++ '+' :: ['0'])
        = .ok (.binary .add n.expression (.literal ['0'])) := by
    have hop : Operator.add.isProduct = false := rfl
    exact Expression.parse_of_isPrinting (.sum hop (.ofProduct (.ofOperand hprints)) hzero)
  have hsum : (Expression.binary .add n.expression (.literal ['0'])).value = .ok y := by
    have hliteral : (Expression.literal ['0']).value = .ok (.int 0) := by decide
    rw [Expression.value, hvalue, hliteral]
    exact Number.add_zero hne
  refine ⟨y, ?_, hequal⟩
  rw [plusZero, hplain]
  simp only [bind, Except.bind, String.toList_ofList, valueOfArithmetic, hparse, Except.mapError,
    hsum, hyfinite]
  rfl

end Arithmetic

/-- The formulas that read the cell of a label as a number. -/
def readers (label : String) : List String :=
  [callFormula "SUM" label, callFormula "MIN" label, callFormula "MAX" label,
    "=" ++ label ++ "+0"]

section Readings

variable {g : Grid} {r : Reference} {label formula : String} {today : Date}

theorem IsLabelOf.parse?_eq
    {s : List Char}
    (h : IsLabelOf r s) :
    Reference.parse? s = .ok (some r) := by
  have htrim := h.trim
  obtain ⟨letters, digits, rfl, hnamed⟩ := h.exists_parts
  rw [Reference.parse?, htrim, Reference.splitLabel?_append hnamed.letters_ne_nil hnamed.digits_ne_nil
    hnamed.isLabelLetter hnamed.isDigit]
  exact hnamed.reads

/-- Each of the formulas reads the cell in a context of its own and works on its number
alone, and makes an equal number of one that is finite and can be written. -/
theorem exists_attempt_of_mem_readers
    (hfits : ∀ x, g.columnCount = .float x → g.FitsMemory)
    (hlabel : r.label = .ok label)
    (h : formula ∈ readers label)
    (today : Date) :
    ∃ f : Number → Except Fault Number,
      g.source.attempt today formula
        = (do f (← g.source.reading today r)).map (fun x => some (Scalar.number x))
      ∧ ∀ x, x.isFinite = true → x.HasText → ∃ y, f x = .ok y ∧ y.equal x = true := by
  have hname := isLabelOf_toList hlabel
  have hextreme : ∀ {f : Aggregate} {name : String}, Aggregate.ofName? name = some f →
      f = .least ∨ f = .greatest →
      g.source.attempt today (callFormula name label)
        = (do Except.ok (← g.source.reading today r)).map (fun x => some (Scalar.number x)) := by
    intro f name hf hextreme
    rw [Source.attempt_callFormula_label today hfits hf hname.parse?_eq,
      Source.walked_extreme_single _ _ _ hextreme]
    cases g.source.reading today r <;> rfl
  have hsame : ∀ x : Number, x.isFinite = true → x.HasText →
      ∃ y, Except.ok x = (Except.ok y : Except Fault Number) ∧ y.equal x = true := by
    intro x hfinite _
    exact ⟨x, rfl, Number.equal_self_of_isFinite hfinite⟩
  simp only [readers, List.mem_cons, List.not_mem_nil, or_false] at h
  rcases h with rfl | rfl | rfl | rfl
  · refine ⟨(Number.int 0).add, ?_, fun x hfinite _ => Number.exists_zero_add hfinite⟩
    rw [Source.attempt_callFormula_label today hfits rfl hname.parse?_eq,
      Source.walked_sum_single]
  · exact ⟨Except.ok, hextreme rfl (.inl rfl), hsame⟩
  · exact ⟨Except.ok, hextreme rfl (.inr rfl), hsame⟩
  · refine ⟨plusZero, ?_, fun x => exists_plusZero⟩
    have htext : ("=" ++ label ++ "+0").toList = '=' :: (label.toList ++ ['+', '0']) := by simp
    rw [Source.attempt, htext, evaluateText_plusZero _ hname]
    refine (Source.run_map _ (fun x : Number => some (Scalar.number x)) []).trans ?_
    exact congrArg _ (Source.run_bind_ofExcept _ plusZero [])

/-- The number at a position is the one that its cell shows, zero if it shows none. -/
theorem numericValue_eq
    (g : Grid) (r : Reference) (today : Date) :
    g.numericValue today r.col r.row
      = (g.source.reading today r).toOption.getD (.int 0) := by
  have hrun : ((g.source.numeric today r).run.run []).1 = g.source.reading today r := rfl
  rw [Grid.numericValue, Reference.ofInts?_natCast]
  simp only [hrun]
  cases g.source.reading today r <;> rfl

/-- All ways of reading a cell as a number agree.  Where the cell cannot be read, every
formula that reads it fails, and it counts as zero; where it can, every formula and the
direct reading give a number equal to the one it shows, if that is finite and can be
written.  A cell that is empty, or lies outside the grid, shows zero.  Only where the columns
cannot be counted does it matter that the rows fit memory: past `2 ^ 53` the comparison with
the last column would round. -/
theorem readings_agree
    (hfits : ∀ x, g.columnCount = .float x → g.FitsMemory)
    (hlabel : r.label = .ok label)
    (today : Date) :
    (∃ fault, g.source.reading today r = .error fault
        ∧ (∀ formula ∈ readers label,
          g.source.evaluate today formula = some (.text errorMarker))
        ∧ g.numericValue today r.col r.row = .int 0)
      ∨ ∃ x, g.source.reading today r = .ok x
        ∧ (g.source.isEmpty r = true → x = .int 0)
        ∧ g.numericValue today r.col r.row = x
        ∧ (x.isFinite = true → x.HasText → ∀ formula ∈ readers label,
          ∃ y, g.source.evaluate today formula = some (.number y) ∧ y.equal x = true) := by
  have hdirect := numericValue_eq g r today
  cases hreading : g.source.reading today r with
  | error fault =>
      rw [hreading] at hdirect
      refine .inl ⟨fault, rfl, fun formula hformula => ?_, hdirect⟩
      obtain ⟨f, hattempt, -⟩ := exists_attempt_of_mem_readers hfits hlabel hformula today
      rw [Source.evaluate, hattempt, hreading]
      rfl
  | ok x =>
      rw [hreading] at hdirect
      refine .inr ⟨x, rfl, fun hempty => ?_, hdirect, fun hfinite htext formula hformula => ?_⟩
      · rw [Source.reading_of_isEmpty hempty] at hreading
        exact (Except.ok.inj hreading).symm
      · obtain ⟨f, hattempt, hf⟩ := exists_attempt_of_mem_readers hfits hlabel hformula today
        obtain ⟨y, hy, hequal⟩ := hf x hfinite htext
        refine ⟨y, ?_, hequal⟩
        have hvalue : (do f (← g.source.reading today r)) = Except.ok y := by
          rw [hreading]
          exact hy
        rw [Source.evaluate, hattempt, hvalue]
        rfl

/-- A text with an amount in front, in a grid whose columns cannot be counted. -/
def amountRow : Grid :=
  gridOf (.float (Numeral.toBinary64 ⟨false, ['1', '0'], some ['5'], none⟩))
    [[none, some (.plain (.text "$1,234.50 paid") .text none)]]

/-- A cell that shows a number with digits behind the point. -/
theorem readings_agree_amountRow :
    amountRow.FitsMemory ∧ Reference.label ⟨1, 0⟩ = .ok "B1"
      ∧ amountRow.numericValue ⟨2024, 3, 9, by decide⟩ 1 0
        = .float (Numeral.toBinary64 ⟨false, ['1', '2', '3', '4'], some ['5', '0'], none⟩)
      ∧ ∀ formula ∈ readers "B1", ∃ y,
        amountRow.source.evaluate ⟨2024, 3, 9, by decide⟩ formula = some (.number y)
          ∧ y.equal (.float (Numeral.toBinary64
            ⟨false, ['1', '2', '3', '4'], some ['5', '0'], none⟩)) = true := by
  have hfits : amountRow.FitsMemory := by
    intro row hrow
    obtain rfl := List.mem_singleton.1 hrow
    decide
  have hlabel : Reference.label ⟨1, 0⟩ = .ok "B1" := by decide +kernel
  have hreading : amountRow.source.reading ⟨2024, 3, 9, by decide⟩ ⟨1, 0⟩
      = .ok (.float (Numeral.toBinary64
        ⟨false, ['1', '2', '3', '4'], some ['5', '0'], none⟩)) := by
    decide +kernel
  refine ⟨hfits, hlabel, ?_⟩
  rcases readings_agree (fun _ _ => hfits) hlabel ⟨2024, 3, 9, by decide⟩ with
    ⟨fault, hfault, -⟩ | ⟨x, hx, -, hdirect, hformulas⟩
  · cases hreading.symm.trans hfault
  · obtain rfl := Except.ok.inj (hreading.symm.trans hx)
    exact ⟨hdirect, hformulas (by decide +kernel) trivial⟩

end Readings

end Formula
end Spreadsheet
