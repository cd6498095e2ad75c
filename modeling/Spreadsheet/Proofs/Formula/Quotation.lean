import Spreadsheet.Proofs.Formula.Calls
import Spreadsheet.Proofs.Formula.Cutting
import Spreadsheet.Proofs.Formula.Splitting

/-!
# Quoted text in formulas

A quotation is an argument whatever it quotes, and no comparison sign starts outside the
quotes before it ends.  So the quotations of a join are its parts, those of a condition
its operands and branches, and each of them means the text that it quotes.

Results: two quotations are cut at the sign between them (`splitComparison_quote`), and
what a join of quotations is, and a condition on them (`quotations_come_through`).
-/

namespace Spreadsheet
namespace Formula

/-- A text between double quotes, its own double quotes written twice. -/
def quotation (s : String) : String := String.ofList (quote s.toList)

/-- A join of quotations. -/
def joinFormula (texts : List String) : String :=
  callFormula "CONCAT" (String.intercalate "," (texts.map quotation))

/-- A condition that compares two quotations and has two of them for its branches. -/
def conditionFormula (comparison : Comparison) (a b x y : String) : String :=
  callFormula "IF" (quotation a ++ comparison.sign ++ quotation b
    ++ "," ++ quotation x ++ "," ++ quotation y)

section Splitting

open Nesting

/-- No sign starts outside the quotes of a quotation. -/
theorem atFront?_within_quote
    {s front rest : List Char}
    (h : quote s = front ++ rest)
    (hrest : rest ≠ [])
    (hfront : outside.behind front = outside)
    (tail : List Char) :
    Comparison.atFront? (rest ++ tail) = none := by
  rcases nesting_within_quote h hrest with hinside | ⟨-, hhead⟩
  · rw [hfront] at hinside
    cases hinside
  · cases rest with
    | nil => cases hhead
    | cons c rest =>
        obtain rfl := Option.some.inj hhead
        rfl

/-- Two quotations are cut at the sign between them. -/
theorem splitComparison_quote
    (comparison : Comparison) (a b : List Char) :
    splitComparison (quote a ++ (comparison.sign.toList ++ quote b))
      = .ok (quote a, comparison, quote b) := by
  have hsign : Comparison.atFront? (comparison.sign.toList ++ quote b)
      = some (comparison, quote b) :=
    atFront?_sign (fun _ => by simp [quote]) (fun _ => by simp [quote])
  have hpassed : ∀ front rest, quote a = front ++ rest → rest ≠ [] →
      outside.behind front = outside →
        Comparison.atFront? (rest ++ (comparison.sign.toList ++ quote b)) = none :=
    fun front rest h hrest hfront => atFront?_within_quote h hrest hfront _
  rw [splitComparison_append hpassed (behind_quote rfl a) hsign, (isArgument_quote a).trimmed,
    (isArgument_quote b).trimmed]

/-- Two quotations with a sign between them are one argument. -/
theorem isArgument_comparison
    (comparison : Comparison) (a b : List Char) :
    IsArgument (quote a ++ (comparison.sign.toList ++ quote b)) where
  balanced := by
    have hsign : IsBalanced comparison.sign.toList := by cases comparison <;> decide
    exact (isBalanced_quote a).append (hsign.append (isBalanced_quote b))
  trimmed := by
    have htrim := Text.trim_cons_append_singleton (c := '"') (d := '"') (by decide) (by decide)
      (doubleQuotes a ++ '"' :: (comparison.sign.toList ++ '"' :: doubleQuotes b))
    simpa [quote] using htrim
  whole := by
    have hsign : outside.HidesCommas comparison.sign.toList := by cases comparison <;> decide
    rw [hidesCommas_append, hidesCommas_append, behind_quote rfl, behind_sign]
    exact ⟨hidesCommas_quote a, hsign, hidesCommas_quote b⟩

end Splitting

section Evaluation

variable {m : Type → Type} [Monad m] [MonadExcept Fault m]
variable {env : Environment m} {nested : Unit → m (Option Scalar)}

/-- A quotation means the text that it quotes. -/
theorem Argument.ofText_quote
    (s : List Char) :
    Argument.ofText (quote s) = .ok (.quoted s) := by
  rw [Argument.ofText, if_pos (isQuoted_quote s), unquote_quote]
  rfl

variable [LawfulMonad m]

theorem operand_quote
    (s : List Char) :
    env.operand (quote s) nested = pure (some (.text (String.ofList s))) := by
  rw [Environment.operand, Argument.ofText_quote]
  exact pure_bind _ _

theorem branch_quote
    (s : List Char) :
    env.branch (quote s) nested = pure (some (.text (String.ofList s))) := by
  rw [Environment.branch, Argument.ofText_quote]
  exact pure_bind _ _

theorem part_quote
    (s : List Char) :
    env.part (quote s) nested = pure (String.ofList s) := by
  rw [Environment.part, Argument.ofText_quote]
  exact pure_bind _ _

/-- A call of a function is what its name and its arguments make of it. -/
theorem ofText?_callFormula
    {name : String} {shape : Shape}
    (argument : String)
    (hfront : '(' ∉ name.toList)
    (hread : String.ofList ((Text.trim name.toList).map nameLetter) = name)
    (hcall : Shape.ofCall? name argument.toList = some shape) :
    Shape.ofText? (Text.trim (callFormula name argument).toList) = some shape := by
  rw [trim_callFormula, toList_callFormula, Shape.ofText?, Shape.ofBody, callParts?_call hfront,
    hread]
  simp [hcall]

theorem toList_intercalate_quotations
    (texts : List String) :
    (String.intercalate "," (texts.map quotation)).toList
      = [','].intercalate (texts.map fun s => quote s.toList) := by
  rw [String.toList_intercalate]
  simp [quotation, Function.comp_def]

/-- The value of a join of quotations. -/
theorem evaluateText_join
    {texts : List String}
    (hne : texts ≠ []) :
    evaluateText env (joinFormula texts).toList = pure (some (.text (String.join texts))) := by
  have hparts : splitArguments ([','].intercalate (texts.map fun s => quote s.toList))
      = .ok (texts.map fun s => quote s.toList) := by
    refine splitArguments_join (by simpa using hne) (fun h => ?_) ?_
    · obtain ⟨s, -, hs⟩ := List.mem_map.1 (h ▸ List.mem_singleton_self ([] : List Char))
      cases hs
    · rw [List.forall_mem_map]
      exact fun s _ => isArgument_quote s.toList
  have htexts : ((texts.map fun s => quote s.toList).mapM fun part =>
      env.part part fun _ => evaluateText env ('=' :: part)) = pure texts := by
    simp only [List.mapM_map, Function.comp_def, part_quote, String.ofList_toList]
    exact (List.mapM_pure (f := id)).trans (by rw [List.map_id])
  rw [evaluateText_eq, joinFormula, ofText?_callFormula _ (by decide) (by decide) rfl,
    Environment.valueOf, Environment.joinOf, toList_intercalate_quotations, hparts]
  cases texts with
  | nil => exact absurd rfl hne
  | cons s texts =>
      simp only [List.map_cons] at htexts ⊢
      rw [htexts, pure_bind]

/-- The value of a condition on quotations. -/
theorem evaluateText_condition
    (comparison : Comparison) (a b x y : String) :
    evaluateText env (conditionFormula comparison a b x y).toList
      = pure (some (.text
        (if comparison.compare (some (.text a)) (some (.text b)) then x else y))) := by
  have hparts : splitArguments ([','].intercalate
      [quote a.toList ++ (comparison.sign.toList ++ quote b.toList), quote x.toList,
        quote y.toList])
      = .ok [quote a.toList ++ (comparison.sign.toList ++ quote b.toList), quote x.toList,
        quote y.toList] := by
    refine splitArguments_join (by simp) (by simp) ?_
    simp [isArgument_quote, isArgument_comparison]
  have harguments : (quotation a ++ comparison.sign ++ quotation b
      ++ "," ++ quotation x ++ "," ++ quotation y).toList
        = [','].intercalate [quote a.toList ++ (comparison.sign.toList ++ quote b.toList),
          quote x.toList, quote y.toList] := by
    simp [quotation, List.intercalate_cons_cons]
  rw [evaluateText_eq, conditionFormula, ofText?_callFormula _ (by decide) (by decide) rfl,
    Environment.valueOf, Environment.conditionOf, harguments, hparts]
  simp only [List.length_singleton, Nat.lt_irrefl, reduceIte, splitComparison_quote,
    operand_quote, branch_quote, String.ofList_toList, pure_bind]
  split <;> rfl

end Evaluation

namespace Source

section Lemmas

variable {src : Source} {today : Date} {formula : String} {value : Option Scalar}

/-- A value that is found without reading a cell is the value of the formula. -/
theorem evaluate_of_pure
    (h : evaluateText (src.environment today (src.read today src.formulas)) formula.toList
      = (pure value : Evaluation (Option Scalar))) :
    src.evaluate today formula = value := by
  rw [evaluate, attempt, h]
  rfl

/-- Quoted texts come through: a join of quotations is what the texts make together, and a
condition on quotations compares their texts and has the text of one of its branches. -/
theorem quotations_come_through
    (src : Source) (today : Date) :
    (∀ texts : List String, texts ≠ [] →
        src.evaluate today (joinFormula texts) = some (.text (String.join texts)))
      ∧ ∀ (comparison : Comparison) (a b x y : String),
        src.evaluate today (conditionFormula comparison a b x y)
          = some (.text
            (if comparison.compare (some (.text a)) (some (.text b)) then x else y)) :=
  ⟨fun _ hne => evaluate_of_pure (evaluateText_join hne),
    fun comparison a b x y => evaluate_of_pure (evaluateText_condition comparison a b x y)⟩

/-- Texts of signs, quotes, parentheses, labels and blanks. -/
theorem quotations_come_through_signs :
    (⟨.int 1, 0, fun _ => none, []⟩ : Source).evaluate ⟨2024, 3, 9, by decide⟩
        (joinFormula [",\"(", "", " A1>=\n", "\"\""])
      = some (.text (String.join [",\"(", "", " A1>=\n", "\"\""])) :=
  (quotations_come_through ⟨.int 1, 0, fun _ => none, []⟩ ⟨2024, 3, 9, by decide⟩).1
    [",\"(", "", " A1>=\n", "\"\""] (by decide)

end Lemmas

end Source

end Formula
end Spreadsheet
