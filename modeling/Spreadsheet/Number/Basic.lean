import Spreadsheet.Binary64.Arithmetic
import Spreadsheet.Binary64.Order
import Spreadsheet.Fault

/-!
# Numbers

A number is an integer of any size or a binary floating-point number; the two
kinds stay apart even where their values agree.  Arithmetic on two integers is
exact but for division, which gives the nearest binary number.  With a binary
number on either side the integer is rounded first, and is refused if it is too
large for that.  Comparison is always exact.

Results: a number that is not undefined equals itself (`equal_self`), equality is
symmetric (`equal_comm`), and integers are ordered as ever (`less_int`).
-/

namespace Spreadsheet

/-- An integer or a binary floating-point number. -/
inductive Number where
  | int (i : Int)
  | float (x : Binary64)
deriving DecidableEq

namespace Number

instance : Inhabited Number := ⟨.int 0⟩

/-- The binary number nearest to a number. -/
def toBinary64 : Number → Except Fault Binary64
  | .int i => (Binary64.ofInt? i).elim (.error .tooLarge) .ok
  | .float x => .ok x

/-- Neither infinite nor undefined. -/
def isFinite : Number → Bool
  | .int _ => true
  | .float x => x.isFinite

/-- The place on the line; the undefined number has none. -/
def place? : Number → Option Place
  | .int i => some (.at (i * Binary64.unitsPerOne))
  | .float x => x.place?

/-- The exact order of two numbers, if both have a place. -/
def order? (x y : Number) : Option Ordering :=
  match x.place?, y.place? with
  | some p, some q => some (p.compare q)
  | _, _ => none

/-- Equal in value. -/
def equal (x y : Number) : Bool := x.order? y == some .eq

/-- Less in value. -/
def less (x y : Number) : Bool := x.order? y == some .lt

/-- The value is zero. -/
def isZero (x : Number) : Bool := x.equal (.int 0)

/-- An operation on two numbers that is exact on integers. -/
def combine (ofInts : Int → Int → Int) (ofFloats : Binary64 → Binary64 → Binary64) :
    Number → Number → Except Fault Number
  | .int i, .int j => .ok (.int (ofInts i j))
  | x, y => do
      let a ← x.toBinary64
      let b ← y.toBinary64
      return .float (ofFloats a b)

/-- The sum. -/
def add : Number → Number → Except Fault Number := combine (· + ·) Binary64.add

/-- The difference. -/
def sub : Number → Number → Except Fault Number := combine (· - ·) Binary64.sub

/-- The product. -/
def mul : Number → Number → Except Fault Number := combine (· * ·) Binary64.mul

/-- The quotient; that of two integers is the binary number nearest to it. -/
def div : Number → Number → Except Fault Number
  | .int i, .int j =>
      (Binary64.ofQuotient (decide (i < 0) != decide (j < 0))
        (i.natAbs * Binary64.unitsPerOne) j.natAbs).unlessInfinite.elim
          (.error .tooLarge) fun x => .ok (.float x)
  | x, y => do
      let a ← x.toBinary64
      let b ← y.toBinary64
      return .float (a.div b)

/-- The opposite number. -/
def neg : Number → Number
  | .int i => .int (-i)
  | .float x => .float x.neg

/-- The magnitude. -/
def abs : Number → Number
  | .int i => .int i.natAbs
  | .float x => .float x.abs

/-- No memory holds this many things. -/
def memoryLimit : Int := Nat.pow 2 36

/-- No list is asked to hold this many things. -/
def lengthLimit : Int := Nat.pow 2 63

/-- How many things a number counts out, for a list of them; a binary number
counts none, though it may be whole. -/
def count : Number → Except Fault Nat
  | .int i =>
      if i < memoryLimit then .ok i.toNat
      else if i < lengthLimit then .error .outOfMemory
      else .error .tooLarge
  | .float _ => .error .wrongType

/-- The whole part, the fraction dropped. -/
def truncate : Number → Except Fault Int
  | .int i => .ok i
  | .float x =>
      match x.truncate? with
      | some i => .ok i
      | none => .error (if x = .nan then .unrepresentable else .tooLarge)

/-- The sum of a list of numbers from the left, starting at the integer zero. -/
def sum (xs : List Number) : Except Fault Number :=
  xs.foldlM add (.int 0)

/-- The first least of some numbers. -/
def least (x : Number) (xs : List Number) : Number :=
  xs.foldl (fun best y => if y.less best then y else best) x

/-- The first greatest of some numbers. -/
def greatest (x : Number) (xs : List Number) : Number :=
  xs.foldl (fun best y => if best.less y then y else best) x

section Lemmas

theorem equal_self
    {x : Number}
    (h : x ≠ .float .nan) :
    x.equal x = true := by
  cases x with
  | int i => simp [equal, order?, place?, Place.compare_self]
  | float x =>
      cases x with
      | nan => exact absurd rfl h
      | infinite negative =>
          cases negative <;> simp [equal, order?, place?, Binary64.place?, Place.compare_self]
      | finite negative units fits =>
          simp [equal, order?, place?, Binary64.place?, Place.compare_self]

theorem order?_swap
    (x y : Number) :
    (x.order? y).map Ordering.swap = y.order? x := by
  unfold order?
  cases x.place? <;> cases y.place? <;> simp [Place.compare_swap]

theorem equal_comm
    (x y : Number) :
    x.equal y = y.equal x := by
  unfold equal
  rw [← order?_swap x y]
  cases x.order? y with
  | none => rfl
  | some o => cases o <;> rfl

@[simp] theorem less_int
    (i j : Int) :
    less (.int i) (.int j) = decide (i < j) := by
  have hpos : (0 : Int) < (Binary64.unitsPerOne : Int) := by
    have := Binary64.unitsPerOne_pos
    omega
  have hlt : i * (Binary64.unitsPerOne : Int) < j * (Binary64.unitsPerOne : Int) ↔ i < j :=
    Int.mul_lt_mul_right hpos
  rw [Bool.eq_iff_iff]
  simp only [less, order?, place?, Place.compare, beq_iff_eq, Option.some.injEq,
    Int.compare_eq_lt, hlt, decide_eq_true_eq]

@[simp] theorem add_int
    (i j : Int) :
    add (.int i) (.int j) = .ok (.int (i + j)) := rfl

end Lemmas

end Number
end Spreadsheet
