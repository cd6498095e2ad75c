import Spreadsheet.Reference.Label

/-!
# Shapes of formulas

A formula is an equals sign and then a function call, a single cell label, or
arithmetic.  Function names are read without regard to case.  A call whose
parentheses hold nothing that its function could take is left to arithmetic.

Results: the text between the parentheses of a call is shorter than the formula
by at least the equals sign and both parentheses (`length_of_condition`,
`length_of_join`).
-/

namespace Spreadsheet
namespace Formula

/-- The functions of a range of cells. -/
inductive Aggregate where
  | sum
  | average
  | count
  | least
  | greatest
deriving DecidableEq, Repr

/-- The shapes that a formula can have. -/
inductive Shape where
  | today
  | aggregate (f : Aggregate) (range : List Char)
  | condition (arguments : List Char)
  | join (arguments : List Char)
  | reference (letters digits : List Char)
  | arithmetic (expression : List Char)
deriving DecidableEq, Repr

/-- A letter of a function name in upper case; the four letters that equal an
ASCII letter when case is ignored count as that letter. -/
def nameLetter (c : Char) : Char :=
  if c = 'ı' ∨ c = 'İ' then 'I'
  else if c = 'ſ' then 'S'
  else if c = '\u212a' then 'K'
  else c.toUpper

/-- The name before the first parenthesis and the text up to the last one, if
that ends the text. -/
def callParts? (s : List Char) : Option (String × List Char) :=
  let name := s.takeWhile (· != '(')
  match s.dropWhile (· != '(') with
  | [] => none
  | _ :: tail =>
      if tail.getLast? = some ')' then
        some (String.ofList ((Text.trim name).map nameLetter), tail.dropLast)
      else
        none

/-- The aggregate with a name. -/
def Aggregate.ofName? : String → Option Aggregate
  | "SUM" => some .sum
  | "AVERAGE" | "AVG" => some .average
  | "COUNT" => some .count
  | "MIN" => some .least
  | "MAX" => some .greatest
  | _ => none

/-- The call of a named function with the text between its parentheses. -/
def Shape.ofCall? (name : String) (arguments : List Char) : Option Shape :=
  match Aggregate.ofName? name with
  | some f =>
      if arguments.isEmpty || arguments.contains ')' then none
      else some (.aggregate f arguments)
  | none =>
      if name = "TODAY" then
        if arguments.all Text.isBlank then some .today else none
      else if name = "IF" then some (.condition arguments)
      else if name = "CONCAT" ∨ name = "CONCATENATE" then some (.join arguments)
      else none

/-- The shape of what follows the equals sign. -/
def Shape.ofBody (s : List Char) : Shape :=
  match (callParts? s).bind fun (name, arguments) => Shape.ofCall? name arguments with
  | some shape => shape
  | none =>
      match Reference.splitLabel? (Text.trim s) with
      | some (letters, digits) => .reference letters digits
      | none => .arithmetic s

/-- The shape of a formula without blanks around it; none without the equals
sign. -/
def Shape.ofText? : List Char → Option Shape
  | '=' :: s => some (Shape.ofBody s)
  | _ => none

section Lemmas

theorem length_of_callParts?
    {s arguments : List Char} {name : String}
    (h : callParts? s = some (name, arguments)) :
    arguments.length + 2 ≤ s.length := by
  unfold callParts? at h
  simp only at h
  split at h
  · simp at h
  · next c tail htail =>
      split at h
      · next hlast =>
          simp only [Option.some.injEq, Prod.mk.injEq] at h
          obtain ⟨-, rfl⟩ := h
          have hle : (s.dropWhile (· != '(')).length ≤ s.length :=
            (List.dropWhile_suffix _).length_le
          rw [htail] at hle
          have hpos : tail ≠ [] := by
            rintro rfl
            simp at hlast
          have := List.length_pos_iff.2 hpos
          simp only [List.length_dropLast, List.length_cons] at *
          omega
      · simp at h

theorem eq_arguments_of_ofCall?
    {name : String} {arguments a : List Char}
    (h : Shape.ofCall? name arguments = some (.condition a)
      ∨ Shape.ofCall? name arguments = some (.join a)) :
    a = arguments := by
  unfold Shape.ofCall? at h
  split at h
  · split at h <;> simp at h
  · repeat' split at h
    all_goals simp at h
    all_goals exact h.symm

theorem length_of_ofBody
    {s a : List Char}
    (h : Shape.ofBody s = .condition a ∨ Shape.ofBody s = .join a) :
    a.length + 2 ≤ s.length := by
  unfold Shape.ofBody at h
  split at h
  · next shape hshape =>
      obtain ⟨⟨name, arguments⟩, hparts, hcall⟩ := Option.bind_eq_some_iff.1 hshape
      have hname : Shape.ofCall? name arguments = some (.condition a)
          ∨ Shape.ofCall? name arguments = some (.join a) := by
        rcases h with rfl | rfl
        · exact Or.inl hcall
        · exact Or.inr hcall
      rw [eq_arguments_of_ofCall? hname]
      exact length_of_callParts? hparts
  · split at h <;> simp at h

theorem length_of_condition
    {t a : List Char}
    (h : Shape.ofText? t = some (.condition a)) :
    a.length + 3 ≤ t.length := by
  unfold Shape.ofText? at h
  split at h
  · have := length_of_ofBody (Or.inl (Option.some.inj h))
    simp only [List.length_cons]
    omega
  · simp at h

theorem length_of_join
    {t a : List Char}
    (h : Shape.ofText? t = some (.join a)) :
    a.length + 3 ≤ t.length := by
  unfold Shape.ofText? at h
  split at h
  · have := length_of_ofBody (Or.inr (Option.some.inj h))
    simp only [List.length_cons]
    omega
  · simp at h

end Lemmas

end Formula
end Spreadsheet
