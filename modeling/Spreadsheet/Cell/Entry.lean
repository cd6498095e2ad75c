import Spreadsheet.Cell.Basic
import Spreadsheet.Date

/-!
# Typed entries

What a text means when it is typed into a cell, and the text that a cell offers
for editing.  A text is tried as a checkbox, a formula, an amount of money, a
number and a date, in this order, and is otherwise kept as it is.

Result: what is typed never leaves a blank cell (`Cell.ofTyped?_ne_blank`).
-/

namespace Spreadsheet

/-- The meaning of a typed text. -/
inductive Entry where
  | nothing
  | checkbox (checked : Bool)
  | formula (source : String)
  | currency (symbol : Char) (amount : Binary64)
  | number (x : Number)
  | date (words : String)
  | text (raw : String)
deriving DecidableEq

namespace Entry

/-- The amount written by digits and commas, with digits behind at most one
point. -/
def amount? (s : List Char) : Option Binary64 :=
  let isWhole : Char → Bool := fun c => c.isDigit || c == ','
  let whole := s.takeWhile isWhole
  let fraction :=
    match s.dropWhile isWhole with
    | '.' :: r => r
    | r => r
  if whole.isEmpty || !fraction.all Char.isDigit then
    none
  else
    let digits := Number.withoutCommas whole ++ fraction
    if digits.isEmpty then
      none
    else
      let x := Binary64.ofDecimal false (Text.decimalNat digits) (-(fraction.length : Int))
      if x.isFinite then some x else none

/-- A currency symbol and an amount. -/
def currency? : List Char → Option Entry
  | c :: s =>
      if Number.currencySymbols.contains c then (amount? s).map (.currency c) else none
  | [] => none

/-- The meaning of a text that is not a number: a date, or just text. -/
def ofWords (raw : String) (trimmed : List Char) : Entry :=
  if (Date.parse? trimmed).isSome then .date (String.ofList trimmed) else .text raw

/-- The meaning of a text. -/
def ofText (raw : String) : Except Fault Entry :=
  let text := Text.trim raw.toList
  match text with
  | [] => return .nothing
  | ['[', ']'] | ['[', ' ', ']'] => return .checkbox false
  | ['[', 'x', ']'] | ['[', 'X', ']'] => return .checkbox true
  | '=' :: _ => return .formula (String.ofList text)
  | _ =>
      match currency? text with
      | some entry => return entry
      | none => do
          match ← Number.read? text with
          | some x => return .number x
          | none => return ofWords raw text

/-- The value that an entry stores. -/
def value? : Entry → Option Scalar
  | .nothing => none
  | .checkbox checked => some (.bool checked)
  | .formula source => some (.text source)
  | .currency _ amount => some (.number (.float amount))
  | .number x => some (.number x)
  | .date words => some (.text words)
  | .text raw => some (.text raw)

/-- The name of the type that an entry has. -/
def typeName : Entry → String
  | .nothing | .text _ => Kind.text.name
  | .checkbox _ => Kind.checkbox.name
  | .formula _ => formulaTypeName
  | .currency _ _ => Kind.currency.name
  | .number _ => Kind.number.name
  | .date _ => Kind.date.name

end Entry

/-- The symbol that needs no mention in a format. -/
def defaultSymbol : String := "$"

/-- The format of amounts in a currency. -/
def currencyFormat (symbol : Char) : String :=
  if symbol = '$' then "currency" else "currency:" ++ String.singleton symbol

/-- The symbol that a format names, `fallback` if it is a currency format that
names none. -/
def currencySymbol? (format fallback : Option String) : Option String :=
  match format with
  | none => none
  | some format =>
      let s := format.toList
      if "currency".toList.isPrefixOf s then
        let symbol := (s.dropWhile (· != ':')).drop 1
        if symbol.isEmpty then fallback else some (String.ofList symbol)
      else
        none

namespace Cell

/-- The cell that an entry stores. -/
def ofTyped? : Entry → Option Cell
  | .nothing => none
  | .checkbox checked => some (.plain (.bool checked) .checkbox none)
  | .formula source =>
      if h : source = "" then none else some (.formula source h none)
  | .currency symbol amount =>
      some (.plain (.number (.float amount)) .currency (some (currencyFormat symbol)))
  | .number x => some (.plain (.number x) .number none)
  | .date words => some (.plain (.text words) .date none)
  | .text raw => some (.plain (.text raw) .text none)

/-- The cell that a typed text stores; none clears the position. -/
def ofInput? (raw : String) : Except Fault (Option Cell) := do
  return ofTyped? (← Entry.ofText raw)

/-- The text that a cell offers for editing. -/
def inputText : Cell → Except Fault String
  | .blank => return ""
  | .formula source _ _ => return source
  | .plain (.bool checked) _ _ => return if checked then "[x]" else "[ ]"
  | .plain (.number x) kind format => do
      let text ← x.plain
      if kind = .currency then
        return ((currencySymbol? format (some defaultSymbol)).getD defaultSymbol) ++ text
      else
        return text
  | .plain (.text s) _ _ => return s

/-- The text that a position offers for editing. -/
def inputTextAt : Option Cell → Except Fault String
  | none => return ""
  | some c => c.inputText

section Lemmas

theorem ofTyped?_ne_blank
    (e : Entry) :
    ofTyped? e ≠ some .blank := by
  cases e <;> simp [ofTyped?]

end Lemmas

end Cell
end Spreadsheet
