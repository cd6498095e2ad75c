import Spreadsheet.Proofs.Formula.Context
import Spreadsheet.Proofs.Formula.Written

/-!
# References to formula cells

What a formula cell shows is the value of its source, and no cell is in progress
when that is evaluated.  A reference to the cell enters it first, and so notices
sooner that the source comes back to it.  The memo and the guard do not matter
for the outcome, though: with every cell computed anew, the reference takes one
step more than the source, so both finish or neither does.

Results: a single label has the value of its cell (`evaluateText_of_isLabelOf`),
and a reference to a formula cell has the value of its source
(`evaluate_label`).
-/

namespace Spreadsheet
namespace Formula

section Labels

variable {r : Reference} {s : List Char}

/-- A label writes its own cell. -/
theorem isLabelOf_toList
    {label : String}
    (h : r.label = .ok label) :
    IsLabelOf r label.toList := by
  obtain ⟨htext, -⟩ := Reference.toList_label h
  have hupper : ∀ c ∈ label.toList, c.toUpper = c := by
    intro c hc
    rw [htext, List.mem_append] at hc
    refine dif_neg fun hlower => ?_
    have hfrom : 97 ≤ c.toNat := hlower.1
    rcases hc with hletter | hdigit
    · have hto := (Reference.isCapital_of_mem_columnLetters hletter).2
      omega
    · have hto : c.toNat ≤ 57 := (Char.isDigit_iff_toNat.1 (Text.isDigit_of_mem_toDigits hdigit)).2
      omega
  exact ⟨label, h, (List.map_congr_left hupper).trans (List.map_id _)⟩

/-- A label has no blanks around it. -/
theorem IsLabelOf.trim
    (h : IsLabelOf r s) :
    Text.trim s = s := by
  refine Text.trim_of_ends (fun c hc => ?_) h.getLast?_not_blank
  obtain ⟨letters, digits, rfl, hparts⟩ := h.exists_parts
  rw [List.head?_append_of_ne_nil _ hparts.letters_ne_nil] at hc
  exact Reference.not_isBlank_of_isLabelLetter (hparts.isLabelLetter c (List.mem_of_head? hc))

/-- A label behind the equals sign is a single reference. -/
theorem IsLabelOf.exists_ofBody
    (h : IsLabelOf r s) :
    ∃ letters digits, Shape.ofBody s = .reference letters digits
      ∧ Reference.ofParts? letters digits = .ok (some r) := by
  have hwritten : IsWritten IsLabelOf .operand (.cell r) s := .cell h
  obtain ⟨letters, digits, hs, hparts⟩ := h.exists_parts
  have hsplit : Reference.splitLabel? s = some (letters, digits) := by
    rw [hs]
    exact Reference.splitLabel?_append hparts.letters_ne_nil hparts.digits_ne_nil hparts.isLabelLetter
      hparts.isDigit
  refine ⟨letters, digits, ?_, hparts.reads⟩
  unfold Shape.ofBody
  split
  · next shape hshape =>
      obtain ⟨call, hcall, hshape⟩ := Option.bind_eq_some_iff.1 hshape
      cases (hwritten.namesNoFunction.ofCall?_eq_none hcall).symm.trans hshape
  · rw [h.trim, hsplit]

/-- A single label has the value of its cell, zero if it is empty. -/
theorem evaluateText_of_isLabelOf
    {m : Type → Type} [Monad m] [MonadExcept Fault m] [LawfulMonad m]
    (env : Environment m)
    (h : IsLabelOf r s) :
    evaluateText env ('=' :: s)
      = (do return some ((← env.value r).getD (.number (.int 0)))) := by
  have hequals : Text.isBlank '=' = false := by decide
  have htrim : Text.trim ('=' :: s) = '=' :: s := by
    rw [Text.trim, Text.trimLeft_cons, hequals]
    simp [trimRight_cons hequals, trimRight_of_last h.getLast?_not_blank]
  obtain ⟨letters, digits, hshape, hreads⟩ := h.exists_ofBody
  rw [evaluateText_eq, htrim, Shape.ofText?, hshape, Environment.valueOf, Environment.single,
    hreads, ofExcept, pure_bind]

end Labels

section Chaining

variable {src : Source} {today : Date} {r : Reference} {cell : Cell} {source : String}
  {s : List Char}

namespace Source

/-- Within no step a reference to a formula cell finishes. -/
theorem recomputeText_label_zero
    (hcell : src.cell? r = some cell)
    (hsource : cell.source? = some source)
    (hlabel : IsLabelOf r s) :
    src.recomputeText today 0 ('=' :: s) = none := by
  rw [recomputeText, evaluateText_of_isLabelOf _ hlabel]
  exact Bounded.bind_of_none _ (recompute_zero hcell hsource)

/-- A reference to a formula cell takes one step more than the source of the
cell. -/
theorem recomputeText_label_add_one
    (src : Source) (today : Date)
    (hcell : src.cell? r = some cell)
    (hsource : cell.source? = some source)
    (hlabel : IsLabelOf r s)
    (bound : Nat) :
    src.recomputeText today (bound + 1) ('=' :: s)
      = (do return some ((← src.recomputeText today bound source.toList).getD
          (.number (.int 0)))) := by
  rw [recomputeText, evaluateText_of_isLabelOf _ hlabel]
  exact congrArg (· >>= _) (recompute_add_one hcell hsource bound)

end Source

/-- What a formula cell shows is what a reference to it reads, a missing value
counting as zero; also where the cell refers to itself or to a cycle. -/
theorem evaluate_label
    {g : Grid} {label : String}
    (hcell : g.get? r = some cell)
    (hsource : cell.source? = some source)
    (hlabel : r.label = .ok label) :
    g.source.evaluate today ("=" ++ label)
      = some ((g.source.evaluate today source).getD (.number (.int 0))) := by
  have hformulas : ∀ r, g.source.IsFormula r → r ∈ g.source.formulas :=
    fun r hr => Grid.mem_formulas hr
  have htext : ("=" ++ label).toList = '=' :: label.toList := by simp
  have hname := isLabelOf_toList hlabel
  have hstep := Source.recomputeText_label_add_one g.source today hcell hsource hname
  by_cases hnever : ∀ bound, g.source.recomputeText today bound source.toList = none
  · have hreference : ∀ bound,
        g.source.recomputeText today bound ("=" ++ label).toList = none := by
      intro bound
      rw [htext]
      cases bound with
      | zero => exact Source.recomputeText_label_zero hcell hsource hname
      | succ bound =>
          rw [hstep]
          exact Bounded.bind_of_none _ (hnever bound)
    rw [Source.evaluate_of_cycles hformulas hreference, Source.evaluate_of_cycles hformulas hnever]
    rfl
  · obtain ⟨bound, hbound⟩ := not_forall.1 hnever
    obtain ⟨outcome, houtcome⟩ := Option.ne_none_iff_exists'.1 hbound
    rw [Source.evaluate_of_finishes hformulas houtcome]
    cases outcome with
    | error fault =>
        have hreference : g.source.recomputeText today (bound + 1) ("=" ++ label).toList
            = some (.error fault) := by
          rw [htext, hstep]
          exact Bounded.bind_of_error _ houtcome
        rw [Source.evaluate_of_finishes hformulas hreference]
        rfl
    | ok value =>
        have hreference : g.source.recomputeText today (bound + 1) ("=" ++ label).toList
            = some (.ok (some (value.getD (.number (.int 0))))) := by
          rw [htext, hstep]
          exact Bounded.bind_of_ok _ houtcome
        rw [Source.evaluate_of_finishes hformulas hreference]
        rfl

/-- A text that looks like a formula and a formula, each reading the other, and a
formula that names itself in the branch that is not taken; the branch taken is
an empty cell. -/
def entwinedCells : Grid where
  minColumns := .int 4
  rows := [[some (.plain (.text "=B1+1") .text none), some (.formula "=A1*2" (by decide) none),
    some (.formula "=IF(D1=0,D1,C1)" (by decide) none)]]
  history := .empty History.defaultLimit

theorem evaluate_label_entwinedCells :
    ∃ looksLike selfNaming,
      entwinedCells.get? ⟨0, 0⟩ = some looksLike ∧ looksLike.source? = some "=B1+1"
        ∧ Reference.label ⟨0, 0⟩ = .ok "A1"
        ∧ entwinedCells.source.evaluate ⟨2024, 3, 9, by decide⟩ ("=" ++ "A1")
          = some ((entwinedCells.source.evaluate ⟨2024, 3, 9, by decide⟩ "=B1+1").getD
            (.number (.int 0)))
        ∧ entwinedCells.get? ⟨2, 0⟩ = some selfNaming
        ∧ selfNaming.source? = some "=IF(D1=0,D1,C1)"
        ∧ Reference.label ⟨2, 0⟩ = .ok "C1"
        ∧ entwinedCells.source.evaluate ⟨2024, 3, 9, by decide⟩ ("=" ++ "C1")
          = some ((entwinedCells.source.evaluate ⟨2024, 3, 9, by decide⟩ "=IF(D1=0,D1,C1)").getD
            (.number (.int 0))) := by
  have hA : Reference.label ⟨0, 0⟩ = .ok "A1" := by decide +kernel
  have hC : Reference.label ⟨2, 0⟩ = .ok "C1" := by decide +kernel
  exact ⟨_, _, rfl, by decide, hA, evaluate_label rfl (by decide) hA, rfl, by decide, hC,
    evaluate_label rfl (by decide) hC⟩

end Chaining

end Formula
end Spreadsheet
