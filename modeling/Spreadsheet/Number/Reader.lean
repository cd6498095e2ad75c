import Spreadsheet.Number.Basic
import Spreadsheet.Text.Blank
import Spreadsheet.Text.Digit

/-!
# Reading numbers

A number is written as an optional sign, digits of any script with at most one
point among them, and an optional power of ten.  Without point and power it is
an integer.  Commas may stand anywhere and do not count.

`read?` takes a whole text, `coerceText` the number at the front of one.

Result: what is read is finite (`read?_isFinite`).
-/

namespace Spreadsheet

/-- The parts of a written number. -/
structure Numeral where
  negative : Bool
  whole : List Char
  /-- The digits after the point, if there is a point. -/
  fraction : Option (List Char)
  /-- The sign and digits of the power of ten, if there is one. -/
  power : Option (Bool × List Char)
deriving DecidableEq, Repr

namespace Numeral

/-- A sign at the front, and the rest. -/
def scanSign : List Char → Bool × List Char
  | '-' :: s => (true, s)
  | '+' :: s => (false, s)
  | s => (false, s)

/-- The digits at the front, and the rest. -/
def scanDigits (s : List Char) : List Char × List Char :=
  (s.takeWhile Text.isDecimal, s.dropWhile Text.isDecimal)

/-- A power of ten at the front, if it is complete. -/
def scanPower (s : List Char) : Option (Bool × List Char) × List Char :=
  match s with
  | 'e' :: t | 'E' :: t =>
      let (negative, u) := scanSign t
      let (digits, rest) := scanDigits u
      if digits.isEmpty then (none, s) else (some (negative, digits), rest)
  | _ => (none, s)

/-- The longest number at the front of a text, and the rest. -/
def scan? (s : List Char) : Option (Numeral × List Char) :=
  let (negative, s₁) := scanSign s
  let (whole, s₂) := scanDigits s₁
  match s₂ with
  | '.' :: s₃ =>
      let (fraction, s₄) := scanDigits s₃
      if whole.isEmpty && fraction.isEmpty then
        none
      else
        let (power, rest) := scanPower s₄
        some (⟨negative, whole, some fraction, power⟩, rest)
  | _ =>
      if whole.isEmpty then
        none
      else
        let (power, rest) := scanPower s₂
        some (⟨negative, whole, none, power⟩, rest)

/-- The power of ten as an integer. -/
def exponent (n : Numeral) : Int :=
  match n.power with
  | none => 0
  | some (negative, digits) =>
      if negative then -(Text.decimalNat digits : Int) else Text.decimalNat digits

/-- The binary number nearest to what is written. -/
def toBinary64 (n : Numeral) : Binary64 :=
  let fraction := n.fraction.getD []
  Binary64.ofDecimal n.negative (Text.decimalNat (n.whole ++ fraction))
    (n.exponent - fraction.length)

/-- The integer written by a sign and digits. -/
def integer (negative : Bool) (digits : List Char) : Except Fault Int :=
  if digitLimit < digits.length then
    .error .tooManyDigits
  else
    .ok (if negative then -(Text.decimalNat digits : Int) else Text.decimalNat digits)

/-- The number that is written; a magnitude beyond the binary range is none. -/
def value? (n : Numeral) : Except Fault (Option Number) :=
  if n.fraction.isNone && n.power.isNone then
    return some (.int (← integer n.negative n.whole))
  else
    let x := n.toBinary64
    return if x.isFinite then some (.float x) else none

end Numeral

namespace Number

/-- The text less its commas. -/
def withoutCommas (s : List Char) : List Char :=
  s.filter (· != ',')

/-- The number that a text is; a line feed may follow it. -/
def read? (s : List Char) : Except Fault (Option Number) :=
  match Numeral.scan? (withoutCommas s) with
  | some (n, []) | some (n, ['\n']) => n.value?
  | _ => return none

/-- The symbols that mark an amount of money. -/
def currencySymbols : List Char := ['$', '€', '£']

/-- The number at the front of a text without its currency symbols and commas,
zero if there is none. -/
def coerceText (s : List Char) : Except Fault Number :=
  let plain := Text.trim ((Text.trim s).filter fun c => !(currencySymbols.contains c || c == ','))
  match Numeral.scan? plain with
  | some (n, _) => do return (← n.value?).getD (.int 0)
  | none => return .int 0

section Lemmas

theorem value?_isFinite
    {n : Numeral} {x : Number}
    (h : n.value? = .ok (some x)) :
    x.isFinite = true := by
  unfold Numeral.value? at h
  split at h
  · cases hi : Numeral.integer n.negative n.whole with
    | error e => simp [hi, bind, Except.bind] at h
    | ok i =>
        simp only [hi, bind, Except.bind, pure, Except.pure, Except.ok.injEq,
          Option.some.injEq] at h
        subst h
        rfl
  · simp only [pure, Except.pure, Except.ok.injEq] at h
    split at h
    · next hx =>
        obtain rfl := Option.some.inj h
        exact hx
    · exact absurd h (by simp)

/-- A text is never read as an infinity or an undefined number. -/
theorem read?_isFinite
    {s : List Char} {x : Number}
    (h : read? s = .ok (some x)) :
    x.isFinite = true := by
  unfold read? at h
  split at h
  · exact value?_isFinite h
  · exact value?_isFinite h
  · simp [pure, Except.pure] at h

end Lemmas

end Number
end Spreadsheet
