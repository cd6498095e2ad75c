import Spreadsheet.Text.Blank
import Spreadsheet.Text.Digit

/-!
# Calendar dates

A date is written year first with hyphens (`2024-03-09`) or month first with
slashes (`3/9/2024`, `03/09/24`).  The two-digit years 00 to 68 belong to the
twenty-first century, 69 to 99 to the twentieth.  The Gregorian calendar is
used for every year from 1 to 9999.

A date is written month first without leading zeros.  That it is a day of the
calendar is part of its type.
-/

namespace Spreadsheet

namespace Date

/-- Years with a 29th of February. -/
def isLeapYear (year : Nat) : Bool :=
  year % 4 == 0 && (year % 100 != 0 || year % 400 == 0)

/-- How many days a month has; zero if there is no such month. -/
def daysInMonth (year month : Nat) : Nat :=
  match month with
  | 2 => if isLeapYear year then 29 else 28
  | 4 | 6 | 9 | 11 => 30
  | 1 | 3 | 5 | 7 | 8 | 10 | 12 => 31
  | _ => 0

/-- The day is on the calendar. -/
def IsDay (year month day : Nat) : Prop :=
  1 ≤ year ∧ year ≤ 9999 ∧ 1 ≤ day ∧ day ≤ daysInMonth year month

instance (year month day : Nat) : Decidable (IsDay year month day) :=
  inferInstanceAs (Decidable (_ ∧ _))

end Date

/-- A day of the calendar. -/
structure Date where
  year : Nat
  month : Nat
  day : Nat
  isDay : Date.IsDay year month day
deriving DecidableEq

namespace Date

/-- The day with these parts, if there is one. -/
def ofParts? (year month day : Nat) : Option Date :=
  if h : IsDay year month day then some ⟨year, month, day, h⟩ else none

/-- Four digits, two and two, in ASCII, with hyphens between. -/
def ofHyphens? : List Char → Option Date
  | [a, b, c, d, '-', e, f, '-', g, h] =>
      if [a, b, c, d, e, f, g, h].all Char.isDigit then
        ofParts? (Text.decimalNat [a, b, c, d]) (Text.decimalNat [e, f])
          (Text.decimalNat [g, h])
      else
        none
  | _ => none

/-- A month number of one or two digits. -/
def month? : List Char → Option Nat
  | ['1', c] => if c = '0' ∨ c = '1' ∨ c = '2' then some (Text.decimalNat ['1', c]) else none
  | ['0', c] | [c] => if c.isDigit ∧ c ≠ '0' then some (Text.decimalNat [c]) else none
  | _ => none

/-- A day number of one or two digits; the second may be of any script after a
one or a two. -/
def day? : List Char → Option Nat
  | ['3', c] => if c = '0' ∨ c = '1' then some (Text.decimalNat ['3', c]) else none
  | ['1', c] => if Text.isDecimal c then some (Text.decimalNat ['1', c]) else none
  | ['2', c] => if Text.isDecimal c then some (Text.decimalNat ['2', c]) else none
  | ['0', c] | [c] => if c.isDigit ∧ c ≠ '0' then some (Text.decimalNat [c]) else none
  | _ => none

/-- A year of four digits, or of two within the current hundred. -/
def year? (s : List Char) : Option Nat :=
  if s.all Text.isDecimal then
    let n := Text.decimalNat s
    match s.length with
    | 4 => some n
    | 2 => some (if n ≤ 68 then 2000 + n else 1900 + n)
    | _ => none
  else
    none

/-- Month, day and year with slashes between. -/
def ofSlashes? (s : List Char) : Option Date :=
  match s.splitOn '/' with
  | [m, d, y] => do ofParts? (← year? y) (← month? m) (← day? d)
  | _ => none

/-- The date that a text is, blanks around it apart. -/
def parse? (s : List Char) : Option Date :=
  let text := Text.trim s
  (ofHyphens? text).or (ofSlashes? text)

/-- Month, day and year without leading zeros. -/
def format (d : Date) : String :=
  d.month.repr ++ "/" ++ d.day.repr ++ "/" ++ d.year.repr

end Date
end Spreadsheet
