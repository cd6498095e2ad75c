import Spreadsheet.Proofs.Formula.Chaining
import Spreadsheet.Proofs.Text.Trimming

/-!
# Calls of functions of a range

A call is an equals sign, the name of a function, and an argument between parentheses.
The argument of a function of a range is a label, or two labels with a colon between
them, in letters of either case and with any blanks around them.

Results: such a call has the value of its function (`evaluateText_call`), and two texts
that are read as cells name the range between them (`rangeOf?_corners`).
-/

namespace Spreadsheet
namespace Formula

/-- The text of a call with one argument. -/
def callFormula (name argument : String) : String :=
  "=" ++ name ++ "(" ++ argument ++ ")"

section Calls

variable {name : String} {f : Aggregate} {argument : List Char}

/-- The names of the functions of a range. -/
theorem mem_of_ofName?
    (h : Aggregate.ofName? name = some f) :
    name ∈ ["SUM", "AVERAGE", "AVG", "COUNT", "MIN", "MAX"] := by
  unfold Aggregate.ofName? at h
  split at h <;> simp_all

/-- A name of a function is read as it stands. -/
theorem name_of_ofName?
    (h : Aggregate.ofName? name = some f) :
    '(' ∉ name.toList ∧ String.ofList ((Text.trim name.toList).map nameLetter) = name := by
  have hall : ∀ name ∈ ["SUM", "AVERAGE", "AVG", "COUNT", "MIN", "MAX"],
      '(' ∉ name.toList ∧ String.ofList ((Text.trim name.toList).map nameLetter) = name := by
    decide
  exact hall name (mem_of_ofName? h)

theorem callParts?_call
    {front : List Char}
    (hfront : '(' ∉ front)
    (argument : List Char) :
    callParts? (front ++ '(' :: (argument ++ [')']))
      = some (String.ofList ((Text.trim front).map nameLetter), argument) := by
  have hopen : ∀ c ∈ front, (c != '(') = true := by
    intro c hc
    rw [bne_iff_ne]
    rintro rfl
    exact hfront hc
  have htake : (front ++ '(' :: (argument ++ [')'])).takeWhile (· != '(') = front := by
    rw [List.takeWhile_append_of_pos hopen, List.takeWhile_cons_of_neg (by simp), List.append_nil]
  have hdrop : (front ++ '(' :: (argument ++ [')'])).dropWhile (· != '(')
      = '(' :: (argument ++ [')']) := by
    rw [List.dropWhile_append_of_pos hopen, List.dropWhile_cons_of_neg (by simp)]
  simp only [callParts?, htake, hdrop]
  simp

theorem ofBody_call
    (hname : Aggregate.ofName? name = some f)
    (hne : argument ≠ [])
    (hclose : ')' ∉ argument) :
    Shape.ofBody (name.toList ++ '(' :: (argument ++ [')'])) = .aggregate f argument := by
  obtain ⟨hfront, hread⟩ := name_of_ofName? hname
  have hcall : Shape.ofCall? name argument = some (.aggregate f argument) := by
    simp [Shape.ofCall?, hname, hne, hclose]
  rw [Shape.ofBody, callParts?_call hfront, hread]
  simp [hcall]

theorem toList_callFormula
    (name argument : String) :
    (callFormula name argument).toList
      = '=' :: (name.toList ++ '(' :: (argument.toList ++ [')'])) := by
  simp [callFormula]

theorem trim_callFormula
    (name argument : String) :
    Text.trim (callFormula name argument).toList = (callFormula name argument).toList := by
  have htrim := Text.trim_cons_append_singleton (c := '=') (d := ')') (by decide) (by decide)
    (name.toList ++ '(' :: argument.toList)
  simpa [toList_callFormula] using htrim

/-- A call of a function of a range has the value of the function. -/
theorem evaluateText_call
    {m : Type → Type} [Monad m] [MonadExcept Fault m] [LawfulMonad m]
    (env : Environment m)
    {argument : String}
    (hname : Aggregate.ofName? name = some f)
    (hne : argument.toList ≠ [])
    (hclose : ')' ∉ argument.toList) :
    evaluateText env (callFormula name argument).toList
      = (do return some (.number (← env.aggregate f argument.toList))) := by
  rw [evaluateText_eq, trim_callFormula, toList_callFormula, Shape.ofText?,
    ofBody_call hname hne hclose, Environment.valueOf]

end Calls

section Arguments

variable {s first second : List Char} {r p q : Reference}

theorem parse?_of_trim_eq
    {t : List Char}
    (h : Text.trim s = Text.trim t) :
    Reference.parse? s = Reference.parse? t := by
  rw [Reference.parse?, Reference.parse?, h]

/-- A single label names the range of its cell alone. -/
theorem rangeOf?_single
    (h : Reference.parse? s = .ok (some r)) :
    rangeOf? s = .ok (some ⟨r, r⟩) := by
  have hcolon : (Text.trim s).contains ':' = false := by
    have hmem := Reference.not_mem_of_parse? h (c := ':') (by decide) (by decide) (by decide)
    simpa using fun hc => hmem ((isInfix_trim s).subset hc)
  have htrim : Reference.parse? (Text.trim s) = .ok (some r) := by
    rw [parse?_of_trim_eq (Text.trim_trim s), h]
  rw [rangeOf?, hcolon, htrim]
  rfl

/-- Two labels with a colon between them name the range between their cells. -/
theorem rangeOf?_corners
    (hfirst : Reference.parse? first = .ok (some p))
    (hsecond : Reference.parse? second = .ok (some q)) :
    rangeOf? (first ++ ':' :: second) = .ok (some ⟨p, q⟩) := by
  have hcolon : Text.isBlank ':' = false := by decide
  have htrim : Text.trim (first ++ ':' :: second)
      = Text.trimLeft first ++ ':' :: Text.trimRight second := by
    have hleft : Text.trimLeft (first ++ ':' :: second) = Text.trimLeft first ++ ':' :: second := by
      unfold Text.trimLeft
      rw [List.dropWhile_append, List.dropWhile_cons_of_neg (by simp [hcolon])]
      split
      · next hnil => rw [List.isEmpty_iff.1 hnil, List.nil_append]
      · rfl
    rw [Text.trim, hleft, trimRight_append_cons hcolon]
  have hfirst' : Reference.parse? (Text.trimLeft first) = .ok (some p) := by
    rw [parse?_of_trim_eq (Text.trim_trimLeft first), hfirst]
  have hsecond' : Reference.parse? (Text.trimRight second) = .ok (some q) := by
    rw [parse?_of_trim_eq (Text.trim_trimRight second), hsecond]
  rw [rangeOf?, htrim, if_pos (by simp), Range.parse?_corners hfirst' hsecond']

end Arguments

end Formula
end Spreadsheet
