import Spreadsheet.Date
import Spreadsheet.Yaml.Quoted

/-!
# Days and times in settings files

Bare text that is a day, or a time of a day: the day year first with hyphens,
the time with colons after a `T` or blanks, and then the place on earth by its
distance from the zero meridian.  Such text is kept as it stands, but it must be
one that the calendar and the clock know.

Results: each part has as many digits as it may have (`length_of_digitRun?`), and
empty text is no day (`stamp?_nil`).
-/

namespace Spreadsheet
namespace Yaml

/-- What bare text with a day in it is. -/
inductive Stamp where
  | day
  | time
deriving DecidableEq, Repr

namespace Stamp

/-- The digits at the front, if there are so many, and the rest. -/
def digitRun? (least most : Nat) (s : List Char) : Option (List Char × List Char) :=
  let digits := s.takeWhile Char.isDigit
  if least ≤ digits.length ∧ digits.length ≤ most then
    some (digits, s.dropWhile Char.isDigit)
  else
    none

/-- The text after a character. -/
def after? (c : Char) : List Char → Option (List Char)
  | [] => none
  | d :: s => if d = c then some s else none

/-- How many minutes a place is from the zero meridian. -/
def zone? (s : List Char) : Option Nat :=
  if s.isEmpty then
    some 0
  else
    match s.dropWhile isBlank with
    | ['Z'] => some 0
    | sign :: s => do
        let s ← if sign = '+' ∨ sign = '-' then some s else none
        let (hour, s) ← digitRun? 1 2 s
        if s.isEmpty then
          return Text.decimalNat hour * 60
        else
          let (minute, s) ← digitRun? 2 2 (← after? ':' s)
          if s.isEmpty then
            return Text.decimalNat hour * 60 + Text.decimalNat minute
          else
            none
    | [] => none

/-- The text between a day and a time, left out. -/
def afterDay? : List Char → Option (List Char)
  | 'T' :: s | 't' :: s => some s
  | c :: s => if isBlank c then some (s.dropWhile isBlank) else none
  | [] => none

end Stamp

/-- What bare text is if it is written like a day or a time; it fails if there is
none such. -/
def stamp? (s : List Char) : Option (Except Fault Stamp) := do
  let (year, s) ← Stamp.digitRun? 4 4 s
  let (month, s) ← Stamp.digitRun? 1 2 (← Stamp.after? '-' s)
  let (day, s) ← Stamp.digitRun? 1 2 (← Stamp.after? '-' s)
  let isDay := (Date.ofParts? (Text.decimalNat year) (Text.decimalNat month)
    (Text.decimalNat day)).isSome
  if s.isEmpty then
    if month.length = 2 ∧ day.length = 2 then
      return if isDay then .ok .day else .error .unrepresentable
    else
      none
  else
    let (hour, s) ← Stamp.digitRun? 1 2 (← Stamp.afterDay? s)
    let (minute, s) ← Stamp.digitRun? 2 2 (← Stamp.after? ':' s)
    let (second, s) ← Stamp.digitRun? 2 2 (← Stamp.after? ':' s)
    let zone ← Stamp.zone? (((Stamp.after? '.' s).map fun s => s.dropWhile Char.isDigit).getD s)
    if isDay && Text.decimalNat hour < 24 && Text.decimalNat minute < 60
        && Text.decimalNat second < 60 && zone < 24 * 60 then
      return .ok .time
    else
      return .error .unrepresentable

section Lemmas

/-- A run has as many digits as were asked for. -/
theorem Stamp.length_of_digitRun?
    {least most : Nat} {s digits rest : List Char}
    (h : digitRun? least most s = some (digits, rest)) :
    least ≤ digits.length ∧ digits.length ≤ most := by
  simp only [digitRun?] at h
  split at h
  · next hlength =>
      obtain ⟨rfl, -⟩ := Prod.mk.inj (Option.some.inj h)
      exact hlength
  · simp at h

/-- No day is written without a digit in front. -/
theorem stamp?_nil :
    stamp? [] = none := rfl

end Lemmas

end Yaml
end Spreadsheet
