import Spreadsheet.Formula.Source
import Spreadsheet.Proofs.Formula.Capitals
import Spreadsheet.Proofs.Formula.Simulation
import Spreadsheet.Proofs.Formula.Splitting

/-!
# Formulas in either case

Evaluation of a formula and of the same formula in capitals goes the same way: both read
the same cells in the same order, and both fail at the same point or go on with the same
values.  Where they fail the faults may differ, since a fault can name a part of the text.
A number that is joined to a text is written as it stands, so a formula must not hold the
letter of a power of ten.

Results: two computations agree if their steps do (`Agrees.bind`), evaluation agrees with
evaluation in capitals (`evaluateText_agrees`), and a formula has the same value in upper
and in lower case (`Source.evaluate_toUpper_eq_toLower`).
-/

namespace Spreadsheet
namespace Formula

open Text (capitals)

/-- Two outcomes are values that are related, or faults. -/
inductive OutcomesAgree {α β : Type} (R : α → β → Prop) : Except Fault α → Except Fault β → Prop
  | ok
      {a : α} {b : β}
      (h : R a b) :
      OutcomesAgree R (.ok a) (.ok b)
  | error
      (fault fault' : Fault) :
      OutcomesAgree R (.error fault) (.error fault')

/-- Two computations remember the same values, and their outcomes agree. -/
def Agrees {α β : Type} (R : α → β → Prop) (x : Evaluation α) (y : Evaluation β) : Prop :=
  ∀ memo : Memo, (x memo).2 = (y memo).2 ∧ OutcomesAgree R (x memo).1 (y memo).1

/-- A text without quotes in which no power of ten can stand. -/
structure IsCaseless (s : List Char) : Prop where
  unquoted : '"' ∉ s
  noPower : HasNoPower s

theorem OutcomesAgree.mono
    {α β : Type} {R R' : α → β → Prop} {x : Except Fault α} {y : Except Fault β}
    (h : OutcomesAgree R x y)
    (hR : ∀ a b, R a b → R' a b) :
    OutcomesAgree R' x y := by
  cases h with
  | ok hab => exact .ok (hR _ _ hab)
  | error fault fault' => exact .error fault fault'

theorem OutcomesAgree.toOption_eq
    {α : Type} {x y : Except Fault α}
    (h : OutcomesAgree Eq x y) :
    x.toOption = y.toOption := by
  cases h with
  | ok hab => rw [hab]
  | error fault fault' => rfl

namespace Agrees

variable {α β γ δ : Type} {R : α → β → Prop} {S : γ → δ → Prop}

theorem pure
    {a : α} {b : β}
    (h : R a b) :
    Agrees R (Pure.pure a) (Pure.pure b) :=
  fun _ => ⟨rfl, .ok h⟩

theorem throw
    (fault fault' : Fault) :
    Agrees R (throw fault) (throw fault') :=
  fun _ => ⟨rfl, .error fault fault'⟩

theorem refl
    (x : Evaluation α) :
    Agrees Eq x x := by
  intro memo
  refine ⟨rfl, ?_⟩
  cases (x memo).1 with
  | error fault => exact .error fault fault
  | ok a => exact .ok rfl

theorem mono
    {x : Evaluation α} {y : Evaluation β} {R' : α → β → Prop}
    (h : Agrees R x y)
    (hR : ∀ a b, R a b → R' a b) :
    Agrees R' x y :=
  fun memo => ⟨(h memo).1, (h memo).2.mono hR⟩

/-- What follows computations that agree agrees if it does for related values. -/
theorem bind
    {x : Evaluation α} {y : Evaluation β} {f : α → Evaluation γ} {g : β → Evaluation δ}
    (h : Agrees R x y)
    (hnext : ∀ a b, R a b → Agrees S (f a) (g b)) :
    Agrees S (x >>= f) (y >>= g) := by
  intro memo
  obtain ⟨hmemo, houtcome⟩ := h memo
  cases hx : x memo with
  | mk outcome later =>
      cases hy : y memo with
      | mk outcome' later' =>
          rw [hx, hy] at hmemo houtcome
          obtain rfl : later = later' := hmemo
          cases houtcome with
          | ok hab =>
              rw [Attempt.bind_of_ok hx, Attempt.bind_of_ok hy]
              exact hnext _ _ hab later
          | error fault fault' =>
              rw [Attempt.bind_of_error hx, Attempt.bind_of_error hy]
              exact ⟨rfl, .error fault fault'⟩

/-- The same computation may be followed by ones that agree for each of its values. -/
theorem bind_same
    {f : α → Evaluation γ} {g : α → Evaluation δ}
    (x : Evaluation α)
    (hnext : ∀ a, Agrees S (f a) (g a)) :
    Agrees S (x >>= f) (x >>= g) := by
  refine (Agrees.refl x).bind fun a b hab => ?_
  rw [hab]
  exact hnext b

theorem ofExcept_bind
    {x : Except Fault α} {f : α → Evaluation γ} {g : α → Evaluation δ}
    (h : ∀ a, x = .ok a → Agrees S (f a) (g a)) :
    Agrees S (ofExcept x >>= f) (ofExcept x >>= g) := by
  cases x with
  | error fault => exact Agrees.throw fault fault
  | ok a => exact h a rfl

/-- Computations that agree item by item agree one after the other. -/
theorem mapM
    {ι κ : Type} {f : ι → Evaluation α} {g : κ → Evaluation β} {next : ι → κ} {items : List ι}
    (h : ∀ i ∈ items, Agrees R (f i) (g (next i))) :
    Agrees (List.Forall₂ R) (items.mapM f) ((items.map next).mapM g) := by
  induction items with
  | nil =>
      rw [List.map_nil, List.mapM_nil, List.mapM_nil]
      exact Agrees.pure .nil
  | cons i items ih =>
      obtain ⟨hfirst, hothers⟩ := List.forall_mem_cons.1 h
      rw [List.map_cons, List.mapM_cons, List.mapM_cons]
      refine hfirst.bind fun a b hab => ?_
      refine (ih hothers).bind fun others others' hothers => ?_
      exact Agrees.pure (.cons hab hothers)

end Agrees

section Texts

variable {s : List Char}

theorem IsCaseless.of_isInfix
    {part : List Char}
    (h : IsCaseless s)
    (hpart : part <:+: s) :
    IsCaseless part where
  unquoted := fun hmem => h.unquoted (hpart.subset hmem)
  noPower := fun c d hcd => h.noPower c d (hcd.trans hpart)

/-- A formula inside a formula gets an equals sign. -/
theorem IsCaseless.equals
    (h : IsCaseless s) :
    IsCaseless ('=' :: s) where
  unquoted := by simpa using h.unquoted
  noPower := by
    intro c d hcd hc
    rcases List.infix_cons_iff.1 hcd with hprefix | hpart
    · obtain ⟨rfl, -⟩ := List.cons_prefix_cons.1 hprefix
      exact absurd hc (by decide)
    · exact h.noPower c d hpart hc

/-- An argument that is a number has no letters. -/
theorem capitals_eq_self_of_number
    {x : Number}
    (hargument : IsArgument s)
    (h : IsCaseless s)
    (hread : Number.read? s = .ok (some x)) :
    capitals s = s := by
  obtain ⟨n, rest, hscan, hrest⟩ := Number.exists_of_read? hread
  have hcases : ∀ c ∈ s, c ≠ ',' → IsNumberMark c ∨ c = 'e' ∨ c = 'E' ∨ c = '\n' := by
    intro c hc hcomma
    have hkept : c ∈ Number.withoutCommas s := List.mem_filter.2 ⟨hc, by simpa using hcomma⟩
    exact (Numeral.mem_cases_of_scan? hscan hkept).imp_right
      (Or.imp_right (Or.imp_right (hrest c)))
  -- A comma of the argument would stand between parentheses, which no number has.
  have hcomma : ',' ∉ s := by
    intro hmem
    obtain ⟨front, back, hs⟩ := List.append_of_mem hmem
    refine hargument.whole front back hs (Nesting.behind_of_plain fun c hc => ?_)
    have hcs : c ∈ s := hs ▸ List.mem_append_left _ hc
    refine ⟨fun hquote => h.unquoted (hquote ▸ hcs), ?_, ?_⟩
    · rintro rfl
      exact absurd (hcases '(' hcs (by decide)) (by decide)
    · rintro rfl
      exact absurd (hcases ')' hcs (by decide)) (by decide)
  have hplain : Number.withoutCommas s = s := by
    refine List.filter_eq_self.2 fun c hc => ?_
    rw [bne_iff_ne]
    rintro rfl
    exact hcomma hc
  rw [hplain] at hscan
  refine Text.capitals_eq_self fun c hc => ?_
  rcases Numeral.isNumberMark_of_scan? hscan h.noPower hc with hmark | hfeed
  · exact hmark.toUpper_eq
  · rw [hrest c hfeed]
    rfl

/-- What an argument that is a number reads as. -/
theorem read?_of_argument_number
    {x : Number}
    (h : Argument.ofText s = .ok (.number x)) :
    Number.read? s = .ok (some x) := by
  unfold Argument.ofText at h
  split at h
  · simp [Pure.pure, Except.pure] at h
  cases hread : Number.read? s with
  | error fault => simp [hread, bind, Except.bind] at h
  | ok number =>
      cases number with
      | some y => simpa [hread, bind, Except.bind, Pure.pure, Except.pure] using h
      | none =>
          cases hr : Reference.parse? s with
          | error fault => simp [hread, hr, bind, Except.bind] at h
          | ok r =>
              simp only [hread, hr, bind, Except.bind, Pure.pure, Except.pure] at h
              cases r with
              | some r => simp at h
              | none => by_cases hs : s.isEmpty <;> simp [hs] at h

end Texts

namespace Environment

variable {env : Environment Evaluation} {s : List Char}

theorem rangeCells_capitals
    (env : Environment Evaluation) (s : List Char) :
    env.rangeCells (capitals s) = env.rangeCells s := by
  have hcolon : (capitals (Text.trim s)).contains ':' = (Text.trim s).contains ':' := by
    rw [Bool.eq_iff_iff, List.contains_iff_mem, List.contains_iff_mem,
      Text.mem_capitals_iff (by decide)]
  have hrange : rangeOf? (capitals s) = rangeOf? s := by
    simp only [rangeOf?, Text.trim_capitals, hcolon, Range.parse?_capitals,
      Reference.parse?_capitals]
  rw [rangeCells_eq, rangeCells_eq, hrange]

/-- A function of a range has the same value in either case. -/
theorem aggregate_capitals
    (env : Environment Evaluation) (f : Aggregate) (range : List Char) :
    env.aggregate f (capitals range) = env.aggregate f range := by
  rw [aggregate, rangeCells_capitals, aggregate]

theorem single_capitals
    (env : Environment Evaluation) (letters digits : List Char) :
    env.single (capitals letters) (capitals digits) = env.single letters digits := by
  rw [single, Reference.ofParts?_capitals, single]

/-- The texts that stand for a piece and for the piece in capitals differ in case only. -/
theorem substitute_agrees
    (env : Environment Evaluation) (piece : Segment) :
    Agrees (fun text text' => capitals text = capitals text') (env.substitute piece)
      (env.substitute piece.capitals) := by
  cases piece with
  | verbatim text => exact Agrees.pure (Text.capitals_capitals text).symm
  | label letters digits =>
      have hsame : env.substitute (Segment.label letters digits).capitals
          = env.substitute (.label letters digits) := by
        rw [Segment.capitals, substitute, Reference.ofParts?_capitals, substitute]
      rw [hsame]
      exact (Agrees.refl _).mono fun text text' htext => congrArg capitals htext

theorem capitals_flatten
    {pieces pieces' : List (List Char)}
    (h : List.Forall₂ (fun text text' => capitals text = capitals text') pieces pieces') :
    capitals pieces.flatten = capitals pieces'.flatten := by
  induction h with
  | nil => rfl
  | cons hfirst _ ih =>
      rw [List.flatten_cons, List.flatten_cons, Text.capitals_append, Text.capitals_append,
        hfirst, ih]

theorem arithmetic_agrees
    (env : Environment Evaluation) (s : List Char) :
    Agrees Eq (env.arithmetic s) (env.arithmetic (capitals s)) := by
  unfold arithmetic
  rw [segments_capitals]
  refine (Agrees.mapM fun piece _ => env.substitute_agrees piece).bind fun pieces pieces' h => ?_
  rcases parse_of_capitals_eq (capitals_flatten h) with hsame | ⟨⟨fault, hfault⟩, fault', hfault'⟩
  · rw [hsame]
    exact Agrees.refl _
  · rw [hfault, hfault']
    exact Agrees.throw _ _

section Arguments

variable {nested nested' : Unit → Evaluation (Option Scalar)}

theorem operand_agrees
    (hs : '"' ∉ s)
    (hnested : Agrees Eq (nested ()) (nested' ())) :
    Agrees Eq (env.operand s nested) (env.operand (capitals s) nested') := by
  unfold operand
  rw [ofText_capitals hs]
  refine Agrees.bind_same _ fun argument => ?_
  cases argument with
  | formula => exact hnested
  | _ => exact Agrees.refl _

theorem branch_agrees
    (hs : '"' ∉ s)
    (hnested : Agrees Eq (nested ()) (nested' ())) :
    Agrees Eq (env.branch s nested) (env.branch (capitals s) nested') := by
  unfold branch
  rw [ofText_capitals hs]
  refine Agrees.bind_same _ fun argument => ?_
  cases argument with
  | formula => exact hnested
  | _ => exact Agrees.refl _

/-- A number is joined as it is written, which has no letters. -/
theorem part_agrees
    (hargument : IsArgument s)
    (hs : IsCaseless s)
    (hnested : Agrees Eq (nested ()) (nested' ())) :
    Agrees Eq (env.part s nested) (env.part (capitals s) nested') := by
  unfold part
  rw [ofText_capitals hs.unquoted]
  refine Agrees.ofExcept_bind fun argument hmeaning => ?_
  cases argument with
  | number x =>
      rw [capitals_eq_self_of_number hargument hs (read?_of_argument_number hmeaning)]
      exact Agrees.refl _
  | formula => exact hnested.bind fun value value' hvalue => hvalue ▸ Agrees.refl _
  | _ => exact Agrees.refl _

end Arguments

variable {nested nested' : List Char → Evaluation (Option Scalar)}

theorem conditionOf_agrees
    (hs : IsCaseless s)
    (hnested : ∀ part, part <:+: s → Agrees Eq (nested part) (nested' (capitals part))) :
    Agrees Eq (env.conditionOf nested s) (env.conditionOf nested' (capitals s)) := by
  unfold conditionOf
  rw [splitArguments_capitals]
  cases hargs : splitArguments s with
  | error fault => exact Agrees.throw _ _
  | ok args =>
      have hmem : ∀ part ∈ args, part <:+: s := fun part => isInfix_of_mem_splitArguments hargs
      rcases args with _ | ⟨condition, _ | ⟨whenTrue, others⟩⟩
      · exact Agrees.throw _ _
      · exact Agrees.throw _ _
      have hbranch : ∀ part ∈ condition :: whenTrue :: others,
          Agrees Eq (env.branch part fun _ => nested part)
            (env.branch (capitals part) fun _ => nested' (capitals part)) := fun part hpart =>
        branch_agrees (hs.of_isInfix (hmem part hpart)).unquoted (hnested part (hmem part hpart))
      have hoperand : ∀ part, part <:+: condition →
          Agrees Eq (env.operand part fun _ => nested part)
            (env.operand (capitals part) fun _ => nested' (capitals part)) := fun part hpart =>
        have hpart := hpart.trans (hmem condition (by simp))
        operand_agrees (hs.of_isInfix hpart).unquoted (hnested part hpart)
      simp only [Except.map, List.map_cons, List.length_map]
      split
      · exact Agrees.throw _ _
      cases hparts : splitComparison condition with
      | error fault =>
          obtain ⟨fault', hfault'⟩ := exists_splitComparison_capitals hparts
          rw [hfault']
          exact Agrees.throw _ _
      | ok parts =>
          obtain ⟨left, comparison, right⟩ := parts
          obtain ⟨hleft, hright⟩ := isInfix_of_splitComparison hparts
          rw [splitComparison_capitals hparts]
          refine (hoperand left hleft).bind fun x x' hx => ?_
          refine (hoperand right hright).bind fun y y' hy => ?_
          rw [hx, hy]
          split
          · exact hbranch whenTrue (by simp)
          · cases others with
            | nil => exact Agrees.refl _
            | cons whenFalse others => exact hbranch whenFalse (by simp)

theorem joinOf_agrees
    (hs : IsCaseless s)
    (hnested : ∀ part, part <:+: s → Agrees Eq (nested part) (nested' (capitals part))) :
    Agrees Eq (env.joinOf nested s) (env.joinOf nested' (capitals s)) := by
  unfold joinOf
  rw [splitArguments_capitals]
  cases hargs : splitArguments s with
  | error fault => exact Agrees.throw _ _
  | ok args =>
      cases args with
      | nil => exact Agrees.throw _ _
      | cons first others =>
          have hpart : ∀ part ∈ first :: others,
              Agrees Eq (env.part part fun _ => nested part)
                (env.part (capitals part) fun _ => nested' (capitals part)) := fun part hpart =>
            have hinside := isInfix_of_mem_splitArguments hargs hpart
            part_agrees (isArgument_of_mem hargs hpart) (hs.of_isInfix hinside)
              (hnested part hinside)
          refine (Agrees.mapM hpart).bind fun texts texts' htexts => ?_
          rw [List.forall₂_eq_eq_eq] at htexts
          rw [htexts]
          exact Agrees.refl _

end Environment

/-- Evaluation agrees with evaluation in capitals. -/
theorem evaluateText_agrees
    (env : Environment Evaluation)
    {s : List Char}
    (hs : IsCaseless s) :
    Agrees Eq (evaluateText env s) (evaluateText env (capitals s)) := by
  rw [evaluateText_eq, evaluateText_eq, Text.trim_capitals, ofText?_capitals]
  have htrim := hs.of_isInfix (isInfix_trim s)
  -- A formula inside the formula is shorter, with the equals sign that it gets.
  have hnested : ∀ {arguments part : List Char} {shape : Shape},
      Shape.ofText? (Text.trim s) = some shape → shape.arguments? = some arguments →
      arguments.length + 3 ≤ (Text.trim s).length → part <:+: arguments →
      Agrees Eq (evaluateText env ('=' :: part)) (evaluateText env ('=' :: capitals part)) := by
    intro arguments part shape hshape harguments hlength hpart
    have := length_trim_le s
    have := hpart.length_le
    have hinside := htrim.of_isInfix (hpart.trans (isInfix_arguments hshape harguments))
    exact evaluateText_agrees env hinside.equals
  cases hshape : Shape.ofText? (Text.trim s) with
  | none => exact Agrees.throw _ _
  | some shape =>
      cases shape with
      | today => exact Agrees.refl _
      | aggregate f range =>
          simp only [Option.map_some, Shape.capitals, Environment.valueOf,
            Environment.aggregate_capitals]
          exact Agrees.refl _
      | reference letters digits =>
          simp only [Option.map_some, Shape.capitals, Environment.valueOf,
            Environment.single_capitals]
          exact Agrees.refl _
      | arithmetic expression =>
          refine (env.arithmetic_agrees expression).bind fun x x' hx => ?_
          rw [hx]
          exact Agrees.refl _
      | condition arguments =>
          refine Environment.conditionOf_agrees
            (htrim.of_isInfix (isInfix_arguments hshape rfl)) fun part hpart => ?_
          exact hnested hshape rfl (length_of_condition hshape) hpart
      | join arguments =>
          refine Environment.joinOf_agrees
            (htrim.of_isInfix (isInfix_arguments hshape rfl)) fun part hpart => ?_
          exact hnested hshape rfl (length_of_join hshape) hpart
termination_by s.length
decreasing_by
  simp only [List.length_cons]
  omega

namespace Source

variable {src : Source} {today : Date} {f : String}

theorem evaluate_eq_getD
    (src : Source) (today : Date) (f : String) :
    src.evaluate today f = (src.attempt today f).toOption.getD (some (.text errorMarker)) := by
  unfold evaluate
  cases src.attempt today f <;> rfl

/-- A formula has the same value in capitals. -/
theorem evaluate_capitals
    (hs : IsCaseless f.toList) :
    src.evaluate today (String.ofList (capitals f.toList)) = src.evaluate today f := by
  have hagree := (evaluateText_agrees (src.environment today (src.read today src.formulas)) hs []).2
  rw [evaluate_eq_getD, evaluate_eq_getD, attempt, attempt, String.toList_ofList]
  exact congrArg (·.getD (some (.text errorMarker))) hagree.toOption_eq.symm

/-- In lower case a formula still has no quotes and no power of ten. -/
theorem isCaseless_toLower
    (hascii : ∀ c ∈ f.toList, c.toNat < 0x80)
    (hquotes : '"' ∉ f.toList)
    (hpowers : ∀ c d, [c, d] <:+: f.toList → c.isDigit = true ∨ c = '.' → d ≠ 'e' ∧ d ≠ 'E') :
    IsCaseless (f.toList.map Char.toLower) where
  unquoted := by
    intro hmem
    obtain ⟨c, hc, hquote⟩ := List.mem_map.1 hmem
    rw [Text.toLower_eq_iff (by decide)] at hquote
    exact hquotes (hquote ▸ hc)
  noPower := by
    intro c d hcd hends
    obtain ⟨part, hpart, hmap⟩ := List.infix_map_iff.1 hcd
    obtain ⟨c, rest, rfl, rfl, hrest⟩ := List.map_eq_cons_iff.1 hmap.symm
    obtain ⟨d, others, rfl, rfl, hothers⟩ := List.map_eq_cons_iff.1 hrest
    obtain rfl := List.map_eq_nil_iff.1 hothers
    have hsame : c.toLower = c := by
      have hlower := Text.toLower_lt (hascii c (hpart.subset (by simp)))
      rcases hends with hdecimal | hpoint
      · exact Text.toLower_of_isDigit (Text.isDigit_of_isDecimal hlower hdecimal)
      · rw [hpoint, (Text.toLower_eq_iff (by decide)).1 hpoint]
    have hdigit : c.isDigit = true ∨ c = '.' := by
      rw [hsame] at hends
      exact hends.imp_left (Text.isDigit_of_isDecimal (hascii c (hpart.subset (by simp))))
    obtain ⟨hsmall, hcapital⟩ := hpowers c d hpart hdigit
    exact ⟨fun h => (Numeral.toLower_eq_mark (.inl h)).elim hsmall hcapital,
      fun h => (Numeral.toLower_eq_mark (.inr h)).elim hsmall hcapital⟩

/-- A formula of ASCII characters without quotes, in which no letter of a power of ten
follows a digit or a point, has the same value in upper and in lower case. -/
theorem evaluate_toUpper_eq_toLower
    (hascii : ∀ c ∈ f.toList, c.toNat < 0x80)
    (hquotes : '"' ∉ f.toList)
    (hpowers : ∀ c d, [c, d] <:+: f.toList → c.isDigit = true ∨ c = '.' → d ≠ 'e' ∧ d ≠ 'E')
    (src : Source) (today : Date) :
    src.evaluate today f.toUpper = src.evaluate today f.toLower := by
  have hlower : f.toLower.toList = f.toList.map Char.toLower := String.toList_map
  have hupper : f.toUpper.toList = f.toList.map Char.toUpper := String.toList_map
  have hcapitals : f.toUpper = String.ofList (capitals f.toLower.toList) := by
    rw [hlower, Text.capitals_map_toLower, capitals, ← hupper, String.ofList_toList]
  have hcaseless : IsCaseless f.toLower.toList := by
    rw [hlower]
    exact isCaseless_toLower hascii hquotes hpowers
  rw [hcapitals]
  exact evaluate_capitals hcaseless

/-- Two numbers in a row. -/
def twoNumbers : Source :=
  ⟨.int 2, 1, fun r => if r.row = 0 ∧ r.col < 2 then
    some (.plain (.number (.int (r.col + 2))) .number none) else none, []⟩

/-- A condition, a join, a range and a function that does not exist. -/
def mixedFormula : String := "=If(a1>=1.5,Concat(b1,7,Max(A1:b2)),nope(1))"

/-- Neighbours in a text stand next to each other in it. -/
theorem mem_zip_tail_of_isInfix
    {c d : Char} {s : List Char}
    (h : [c, d] <:+: s) :
    (c, d) ∈ s.zip s.tail := by
  induction s with
  | nil => simp at h
  | cons first s ih =>
      rcases List.infix_cons_iff.1 h with hprefix | hinner
      · obtain ⟨rfl, rest, rfl⟩ := List.cons_prefix_cons.1 hprefix
        exact List.mem_cons_self
      · have hlater := ih hinner
        cases s with
        | nil => cases hlater
        | cons second s => exact List.mem_cons_of_mem _ hlater

/-- The small letters of a formula, its functions and its labels make no difference. -/
theorem evaluate_toUpper_eq_toLower_mixedFormula :
    twoNumbers.evaluate ⟨2024, 3, 9, by decide⟩ mixedFormula.toUpper = some (.text "373")
      ∧ twoNumbers.evaluate ⟨2024, 3, 9, by decide⟩ mixedFormula.toLower = some (.text "373") := by
  have hall : mixedFormula.toList.all (fun c => decide (c.toNat < 0x80)) = true := by decide
  have hascii : ∀ c ∈ mixedFormula.toList, c.toNat < 0x80 :=
    fun c hc => of_decide_eq_true (List.all_eq_true.1 hall c hc)
  have hneighbours : (mixedFormula.toList.zip mixedFormula.toList.tail).all (fun p =>
      !(p.1.isDigit || p.1 == '.') || (p.2 != 'e' && p.2 != 'E')) = true := by decide
  have hpowers : ∀ c d, [c, d] <:+: mixedFormula.toList → c.isDigit = true ∨ c = '.' →
      d ≠ 'e' ∧ d ≠ 'E' := by
    intro c d hcd hc
    have hpair := List.all_eq_true.1 hneighbours (c, d) (mem_zip_tail_of_isInfix hcd)
    rcases hc with hdigit | rfl
    · simpa [hdigit] using hpair
    · simpa using hpair
  have hupper : twoNumbers.evaluate ⟨2024, 3, 9, by decide⟩ mixedFormula.toUpper
      = some (.text "373") := by decide +kernel
  exact ⟨hupper, (evaluate_toUpper_eq_toLower hascii (by decide) hpowers twoNumbers
    ⟨2024, 3, 9, by decide⟩).symm.trans hupper⟩

end Source

end Formula
end Spreadsheet
