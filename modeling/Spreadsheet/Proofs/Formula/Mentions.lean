import Mathlib.Data.List.Infix
import Spreadsheet.Formula.Evaluation
import Spreadsheet.Proofs.Reference.Label

/-!
# Cells mentioned by a text

A text mentions a cell if some part of it is a label of that cell, or a range
that holds it.  Every text that evaluation cuts out of a formula is a part of
that formula, so it mentions no cell that the formula does not mention.

Results: the parts of a formula are parts of its text (`isInfix_arguments`,
`isInfix_of_mem_splitArguments`, `isInfix_of_splitComparison`,
`isInfix_of_label_mem_segments`), an equals sign in front mentions nothing more
(`Mentions.of_equals`), and every mentioned cell has a label
(`Mentions.exists_label`).
-/

namespace Spreadsheet
namespace Formula

/-- The cells that some part of a text names, by a label or within a range. -/
inductive Mentions (s : List Char) : Reference → Prop
  | label
      {part : List Char} {r : Reference}
      (hpart : part <:+: s)
      (hlabel : Reference.parse? part = .ok (some r)) :
      Mentions s r
  | range
      {part : List Char} {range : Range} {r : Reference}
      (hpart : part <:+: s)
      (hrange : Range.parse? part = .ok (some range))
      (hr : r ∈ range) :
      Mentions s r

theorem Mentions.of_isInfix
    {part s : List Char} {r : Reference}
    (hpart : part <:+: s)
    (h : Mentions part r) :
    Mentions s r := by
  cases h with
  | label hp hlabel => exact .label (hp.trans hpart) hlabel
  | range hp hrange hr => exact .range (hp.trans hpart) hrange hr

/-- A text mentions no other cells than some. -/
def MentionsOnly (cells : Reference → Prop) (s : List Char) : Prop :=
  ∀ ⦃r : Reference⦄, Mentions s r → cells r

theorem MentionsOnly.of_isInfix
    {cells : Reference → Prop} {part s : List Char}
    (h : MentionsOnly cells s)
    (hpart : part <:+: s) :
    MentionsOnly cells part :=
  fun _ hr => h (hr.of_isInfix hpart)

section Parts

theorem isInfix_trim
    (s : List Char) :
    Text.trim s <:+: s := by
  have hleft : Text.trimLeft s <:+ s := List.dropWhile_suffix _
  have hright : Text.trimRight (Text.trimLeft s) <+: Text.trimLeft s := by
    rw [← List.reverse_suffix]
    simpa [Text.trimRight] using List.dropWhile_suffix (l := (Text.trimLeft s).reverse) Text.isBlank
  exact hright.isInfix.trans hleft.isInfix

theorem isInfix_of_callParts?
    {s arguments : List Char} {name : String}
    (h : callParts? s = some (name, arguments)) :
    arguments <:+: s := by
  unfold callParts? at h
  simp only at h
  split at h
  · simp at h
  · next c tail htail =>
      split at h
      · simp only [Option.some.injEq, Prod.mk.injEq] at h
        obtain ⟨-, rfl⟩ := h
        have hsuffix : c :: tail <:+ s := by
          rw [← htail]
          exact List.dropWhile_suffix _
        exact (List.dropLast_prefix tail).isInfix.trans
          ((List.suffix_cons c tail).trans hsuffix).isInfix
      · simp at h

/-- The arguments of a shape, where it is a call with any. -/
def Shape.arguments? : Shape → Option (List Char)
  | .aggregate _ range => some range
  | .condition arguments => some arguments
  | .join arguments => some arguments
  | _ => none

theorem arguments_of_ofCall?
    {name : String} {arguments a : List Char} {shape : Shape}
    (h : Shape.ofCall? name arguments = some shape)
    (ha : shape.arguments? = some a) :
    a = arguments := by
  unfold Shape.ofCall? at h
  split at h
  · split at h
    · simp at h
    · obtain rfl := Option.some.inj h
      exact (Option.some.inj ha).symm
  · repeat' split at h
    all_goals simp only [reduceCtorEq, Option.some.injEq] at h
    all_goals subst h
    all_goals simp only [Shape.arguments?, reduceCtorEq, Option.some.injEq] at ha
    all_goals exact ha.symm

/-- The arguments of a call are a part of the formula. -/
theorem isInfix_arguments
    {s a : List Char} {shape : Shape}
    (h : Shape.ofText? s = some shape)
    (ha : shape.arguments? = some a) :
    a <:+: s := by
  unfold Shape.ofText? at h
  split at h
  · next body =>
      obtain rfl := Option.some.inj h
      refine List.IsInfix.trans ?_ (List.suffix_cons '=' body).isInfix
      unfold Shape.ofBody at ha
      split at ha
      · next shape hshape =>
          obtain ⟨⟨name, arguments⟩, hparts, hcall⟩ := Option.bind_eq_some_iff.1 hshape
          rw [arguments_of_ofCall? hcall ha]
          exact isInfix_of_callParts? hparts
      · split at ha <;> simp [Shape.arguments?] at ha
  · simp at h

theorem isInfix_arithmetic
    {s e : List Char}
    (h : Shape.ofText? s = some (.arithmetic e)) :
    e <:+: s := by
  unfold Shape.ofText? at h
  split at h
  · next body =>
      have h := Option.some.inj h
      unfold Shape.ofBody at h
      split at h
      · next shape hshape =>
          obtain ⟨⟨name, arguments⟩, hparts, hcall⟩ := Option.bind_eq_some_iff.1 hshape
          subst h
          unfold Shape.ofCall? at hcall
          repeat' split at hcall
          all_goals simp at hcall
      · split at h
        · simp at h
        · obtain rfl := Shape.arithmetic.inj h
          exact (List.suffix_cons '=' body).isInfix
  · simp at h

/-- The label of a single reference is a part of the formula. -/
theorem isInfix_reference
    {s letters digits : List Char}
    (h : Shape.ofText? s = some (.reference letters digits)) :
    letters ++ digits <:+: s
      ∧ Reference.splitLabel? (letters ++ digits) = some (letters, digits) := by
  unfold Shape.ofText? at h
  split at h
  · next body =>
      have h := Option.some.inj h
      unfold Shape.ofBody at h
      split at h
      · next shape hshape =>
          obtain ⟨⟨name, arguments⟩, -, hcall⟩ := Option.bind_eq_some_iff.1 hshape
          subst h
          unfold Shape.ofCall? at hcall
          repeat' split at hcall
          all_goals simp at hcall
      · split at h
        · next hlabel =>
            obtain ⟨rfl, rfl⟩ := Shape.reference.inj h
            have hbody := Reference.append_of_splitLabel? hlabel
            rw [hbody]
            exact ⟨(isInfix_trim body).trans (List.suffix_cons '=' body).isInfix, hlabel⟩
        · simp at h
  · simp at h

theorem isInfix_of_mem_scanArguments
    {position depth : Nat} {inQuotes : Bool} {current s a : List Char}
    {args : List (List Char)}
    (h : scanArguments position depth inQuotes current s = .ok args)
    (ha : a ∈ args) :
    a <:+: current.reverse ++ s := by
  induction s generalizing position depth inQuotes current args with
  | nil =>
      simp only [scanArguments] at h
      split at h
      · simp at h
      · split at h
        · simp at h
        · simp only [Except.ok.injEq] at h
          subst h
          simp only [List.mem_singleton] at ha
          subst ha
          simpa using isInfix_trim current.reverse
  | cons c s ih =>
      have step : ∀ {p d : Nat} {q : Bool},
          scanArguments p d q (c :: current) s = .ok args →
            a <:+: current.reverse ++ c :: s := by
        intro p d q hp
        simpa using ih hp ha
      simp only [scanArguments] at h
      split at h
      · exact step h
      split at h
      · exact step h
      split at h
      · exact step h
      split at h
      · split at h
        · simp at h
        · exact step h
      split at h
      · split at h
        · next rest hrest =>
            simp only [Except.ok.injEq] at h
            subst h
            rcases List.mem_cons.1 ha with rfl | ha
            · exact List.infix_append_of_infix_left (isInfix_trim _)
            · have hrec : a <:+: s := by simpa using ih hrest ha
              exact List.infix_append_of_infix_right (List.infix_cons hrec)
        · simp at h
      · exact step h

theorem isInfix_of_mem_splitArguments
    {s a : List Char} {args : List (List Char)}
    (h : splitArguments s = .ok args)
    (ha : a ∈ args) :
    a <:+: s := by
  unfold splitArguments at h
  split at h
  · simp only [Except.ok.injEq] at h
    subst h
    simp at ha
  · simpa using isInfix_of_mem_scanArguments h ha

theorem Comparison.isSuffix_of_atFront?
    {s rest : List Char} {c : Comparison}
    (h : Comparison.atFront? s = some (c, rest)) :
    rest <:+ s := by
  unfold Comparison.atFront? at h
  split at h
  all_goals simp only [reduceCtorEq, Option.some.injEq, Prod.mk.injEq] at h
  all_goals obtain ⟨-, rfl⟩ := h
  all_goals
    first
      | exact List.suffix_cons _ _
      | exact (List.suffix_cons _ _).trans (List.suffix_cons _ _)

theorem isInfix_of_scanComparison
    {depth : Int} {inQuotes : Bool} {before s left right : List Char} {c : Comparison}
    (h : scanComparison depth inQuotes before s = some (left, c, right)) :
    left <:+: before.reverse ++ s ∧ right <:+: before.reverse ++ s := by
  induction s generalizing depth inQuotes before with
  | nil => simp [scanComparison] at h
  | cons d s ih =>
      have step : ∀ {e : Int} {q : Bool},
          scanComparison e q (d :: before) s = some (left, c, right) →
            left <:+: before.reverse ++ d :: s ∧ right <:+: before.reverse ++ d :: s := by
        intro e q hp
        simpa using ih hp
      simp only [scanComparison] at h
      split at h
      · exact step h
      split at h
      · exact step h
      split at h
      · exact step h
      split at h
      · exact step h
      split at h
      · split at h
        · next hfront =>
            have hrest := Comparison.isSuffix_of_atFront? hfront
            simp only [Option.some.injEq, Prod.mk.injEq] at h
            obtain ⟨rfl, -, rfl⟩ := h
            exact ⟨List.infix_append_left, (hrest.trans (List.suffix_append _ _)).isInfix⟩
        · exact step h
      · exact step h

theorem isInfix_of_splitComparison
    {s left right : List Char} {c : Comparison}
    (h : splitComparison s = .ok (left, c, right)) :
    left <:+: s ∧ right <:+: s := by
  unfold splitComparison at h
  split at h
  · next l c' r hscan =>
      simp only [Except.ok.injEq, Prod.mk.injEq] at h
      obtain ⟨rfl, -, rfl⟩ := h
      obtain ⟨hl, hr⟩ := isInfix_of_scanComparison hscan
      simp only [List.reverse_nil, List.nil_append] at hl hr
      exact ⟨(isInfix_trim l).trans hl, (isInfix_trim r).trans hr⟩
  · exact absurd h (by simp)

/-- A label that arithmetic finds is a part of the text. -/
theorem isInfix_of_label_mem_segments
    {s letters digits : List Char}
    (h : Segment.label letters digits ∈ segments s) :
    letters ++ digits <:+: s
      ∧ Reference.splitLabel? (letters ++ digits) = some (letters, digits) := by
  fun_induction segments s with
  | case1 => simp at h
  | case2 c r hnone ih =>
      simp only [List.mem_cons, reduceCtorEq, false_or] at h
      exact (ih h).imp_left List.infix_cons
  | case3 c r hletters letters rest digits hdigits ih =>
      simp only [List.mem_cons, reduceCtorEq, false_or] at h
      exact (ih h).imp_left fun hp => hp.trans (List.dropWhile_suffix _).isInfix
  | case4 c r hletters head rest tail hdigits ih =>
      have hrest : rest <:+ c :: r := List.dropWhile_suffix _
      rcases List.mem_cons.1 h with heq | h
      · obtain ⟨rfl, rfl⟩ := Segment.label.inj heq
        refine ⟨?_, Reference.splitLabel?_append hletters (by simpa using hdigits)
          (fun c hc => List.mem_takeWhile_imp hc) (fun c hc => List.mem_takeWhile_imp hc)⟩
        have hsplit : head ++ (tail ++ rest.dropWhile Char.isDigit) = c :: r := by
          rw [List.takeWhile_append_dropWhile]
          exact List.takeWhile_append_dropWhile
        rw [← hsplit, ← List.append_assoc]
        exact List.infix_append_left
      · exact (ih h).imp_left fun hp =>
          hp.trans ((List.dropWhile_suffix _).trans hrest).isInfix

end Parts

section Equals

theorem trimRight_cons
    {c : Char}
    (hc : Text.isBlank c = false)
    (s : List Char) :
    Text.trimRight (c :: s) = c :: Text.trimRight s := by
  unfold Text.trimRight
  rw [List.reverse_cons, List.dropWhile_append]
  split
  · next h =>
      rw [List.isEmpty_iff] at h
      simp [hc, h]
  · simp

theorem parse?_equals
    (s : List Char) :
    Reference.parse? ('=' :: s) = .ok none := by
  have hblank : Text.isBlank '=' = false := by decide
  have hletter : Reference.isLabelLetter '=' = false := by decide
  have htrim : Text.trim ('=' :: s) = '=' :: Text.trimRight s := by
    rw [Text.trim, Text.trimLeft_cons, hblank]
    simp [trimRight_cons hblank]
  simp [Reference.parse?, htrim, Reference.splitLabel?, hletter]

theorem range_parse?_equals
    {s : List Char} {range : Range}
    (h : Range.parse? ('=' :: s) = .ok (some range)) :
    False := by
  unfold Range.parse? at h
  split at h
  · next first second hsplit =>
      have hfirst : ∃ rest, first = '=' :: rest := by
        rw [List.splitOn_cons_eq_if_modifyHead, if_neg (by decide)] at hsplit
        cases htail : s.splitOn ':' with
        | nil => simp [htail] at hsplit
        | cons rest others =>
            rw [htail, List.modifyHead_cons] at hsplit
            exact ⟨rest, (List.cons.inj hsplit).1.symm⟩
      obtain ⟨rest, rfl⟩ := hfirst
      rw [parse?_equals] at h
      cases hsecond : Reference.parse? second with
      | error fault => simp [hsecond, bind, Except.bind] at h
      | ok r => simp [hsecond, bind, Except.bind, pure, Except.pure] at h
  · simp [pure, Except.pure] at h

/-- An equals sign in front mentions nothing more. -/
theorem Mentions.of_equals
    {s : List Char} {r : Reference}
    (h : Mentions ('=' :: s) r) :
    Mentions s r := by
  have hpart : ∀ {part : List Char}, part <:+: '=' :: s →
      part = [] ∨ (∃ rest, part = '=' :: rest) ∨ part <:+: s := by
    intro part hp
    rcases List.infix_cons_iff.1 hp with hp | hp
    · rcases List.prefix_cons_iff.1 hp with rfl | ⟨rest, rfl, -⟩
      · exact Or.inl rfl
      · exact Or.inr (Or.inl ⟨rest, rfl⟩)
    · exact Or.inr (Or.inr hp)
  cases h with
  | label hp hlabel =>
      rcases hpart hp with rfl | ⟨rest, rfl⟩ | hp
      · simp [Reference.parse?, Reference.splitLabel?] at hlabel
      · simp [parse?_equals] at hlabel
      · exact .label hp hlabel
  | range hp hrange hr =>
      rcases hpart hp with rfl | ⟨rest, rfl⟩ | hp
      · simp [Range.parse?, pure, Except.pure] at hrange
      · exact (range_parse?_equals hrange).elim
      · exact .range hp hrange hr

end Equals

section Labels

theorem corners_of_range_parse?
    {s : List Char} {range : Range}
    (h : Range.parse? s = .ok (some range)) :
    ∃ first second : List Char,
      Reference.parse? first = .ok (some range.start)
        ∧ Reference.parse? second = .ok (some range.stop) := by
  unfold Range.parse? at h
  split at h
  · next first second _ =>
      cases hfirst : Reference.parse? first with
      | error fault => simp [hfirst, bind, Except.bind] at h
      | ok start =>
          cases hsecond : Reference.parse? second with
          | error fault => simp [hfirst, hsecond, bind, Except.bind] at h
          | ok stop =>
              cases start <;> cases stop <;>
                simp [hfirst, hsecond, bind, Except.bind, pure, Except.pure] at h
              subst h
              exact ⟨first, second, hfirst, hsecond⟩
  · simp [pure, Except.pure] at h

/-- A mentioned cell has a label. -/
theorem Mentions.exists_label
    {s : List Char} {r : Reference}
    (h : Mentions s r) :
    ∃ label, r.label = .ok label := by
  apply Reference.exists_label_of_row_lt
  cases h with
  | label _ hlabel => exact Reference.row_lt_of_parse? hlabel
  | range _ hrange hr =>
      obtain ⟨first, second, hfirst, hsecond⟩ := corners_of_range_parse? hrange
      have hstart := Reference.row_lt_of_parse? hfirst
      have hstop := Reference.row_lt_of_parse? hsecond
      have hrow := (Range.mem_def.1 hr).2.2.2
      unfold Range.maxRow at hrow
      omega

end Labels

end Formula
end Spreadsheet
