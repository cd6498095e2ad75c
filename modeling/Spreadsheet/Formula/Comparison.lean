import Spreadsheet.Scalar

/-!
# Comparisons

The seven comparison signs of a condition, two of them for inequality.  Numbers
are compared in value and texts by their characters; any other pair is unequal
and unordered.

Results: reading the sign of a comparison gives it back (`ofSign?_sign`), and
what is left behind a sign is shorter (`length_of_atFront?`).
-/

namespace Spreadsheet
namespace Formula

/-- A comparison sign. -/
inductive Comparison where
  | atLeast
  | atMost
  | unequal
  | unequalBang
  | greater
  | less
  | equal
deriving DecidableEq, Repr

namespace Comparison

/-- How a comparison is written. -/
def sign : Comparison → String
  | .atLeast => ">="
  | .atMost => "<="
  | .unequal => "<>"
  | .unequalBang => "!="
  | .greater => ">"
  | .less => "<"
  | .equal => "="

/-- The comparison with a sign. -/
def ofSign? : String → Option Comparison
  | ">=" => some .atLeast
  | "<=" => some .atMost
  | "<>" => some .unequal
  | "!=" => some .unequalBang
  | ">" => some .greater
  | "<" => some .less
  | "=" => some .equal
  | _ => none

/-- The comparison whose sign a text starts with, the longer sign first, and
the rest of the text. -/
def atFront? : List Char → Option (Comparison × List Char)
  | '>' :: '=' :: s => some (.atLeast, s)
  | '<' :: '=' :: s => some (.atMost, s)
  | '<' :: '>' :: s => some (.unequal, s)
  | '!' :: '=' :: s => some (.unequalBang, s)
  | '>' :: s => some (.greater, s)
  | '<' :: s => some (.less, s)
  | '=' :: s => some (.equal, s)
  | _ => none

/-- The comparison asks for inequality. -/
def isUnequal : Comparison → Bool
  | .unequal | .unequalBang => true
  | _ => false

/-- The comparison holds of two values in this order; without an order only
inequality holds. -/
def holds (c : Comparison) (order : Option Ordering) : Bool :=
  match c with
  | .atLeast => order == some .gt || order == some .eq
  | .atMost => order == some .lt || order == some .eq
  | .unequal | .unequalBang => order != some .eq
  | .greater => order == some .gt
  | .less => order == some .lt
  | .equal => order == some .eq

end Comparison

/-- The operands that can be compared with each other, and their order. -/
inductive Comparability where
  | incomparable
  | comparable (order : Option Ordering)
deriving DecidableEq, Repr

/-- How two values compare: numbers by value, texts by code point. -/
def comparability : Option Scalar → Option Scalar → Comparability
  | some (.number x), some (.number y) => .comparable (x.order? y)
  | some (.text s), some (.text t) => .comparable (some (compare s t))
  | _, _ => .incomparable

/-- The truth of a comparison of two values. -/
def Comparison.compare (c : Comparison) (x y : Option Scalar) : Bool :=
  match comparability x y with
  | .incomparable => c == .unequal || c == .unequalBang
  | .comparable order => c.holds order

/-- The truth of a comparison given by its sign.  An unknown sign matters only
between operands that can be compared. -/
def compareBySign (sign : String) (x y : Option Scalar) : Except Fault Bool :=
  match Comparison.ofSign? sign, comparability x y with
  | some c, _ => .ok (c.compare x y)
  | none, .incomparable => .ok false
  | none, .comparable _ => .error (.syntaxFault (.unknownComparison sign))

section Lemmas

@[simp] theorem Comparison.ofSign?_sign
    (c : Comparison) :
    Comparison.ofSign? c.sign = some c := by
  cases c <;> rfl

/-- What is left behind a sign is shorter than the text. -/
theorem Comparison.length_of_atFront?
    {s rest : List Char} {c : Comparison}
    (h : Comparison.atFront? s = some (c, rest)) :
    rest.length < s.length := by
  unfold Comparison.atFront? at h
  split at h <;> simp at h <;> obtain ⟨-, rfl⟩ := h <;>
    simp only [List.length_cons] <;> omega

end Lemmas

end Formula
end Spreadsheet
