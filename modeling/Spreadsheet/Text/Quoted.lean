import Spreadsheet.Text.Printable

/-!
# Quoted text

The form in which a message quotes a text: between single quotes, or between
double quotes when the text holds a single quote and no double one.  The
backslash, the quote in use and the characters without a visible form are
escaped, the latter by their code in two, four or eight hexadecimal digits.

Results: the quoted form starts and ends with its quote (`quote_eq`), and a
text of plain printable characters is only put between quotes
(`flatMap_escape_plain`).
-/

namespace Spreadsheet
namespace Text

/-- The `width` lowest hexadecimal digits of a number, highest first. -/
def hexDigits : (width : Nat) → Nat → List Char
  | 0, _ => []
  | w + 1, n => hexDigits w (n / 16) ++ [Nat.digitChar (n % 16)]

/-- The quote that surrounds a text. -/
def quoteFor (s : List Char) : Char :=
  if s.contains '\'' && !s.contains '"' then '"' else '\''

/-- One character as it stands between quotes. -/
def escape (quote c : Char) : List Char :=
  if c = quote ∨ c = '\\' then ['\\', c]
  else if c = '\t' then ['\\', 't']
  else if c = '\n' then ['\\', 'n']
  else if c = '\r' then ['\\', 'r']
  else if isPrintable c then [c]
  else if c.toNat < 0x100 then ['\\', 'x'] ++ hexDigits 2 c.toNat
  else if c.toNat < 0x10000 then ['\\', 'u'] ++ hexDigits 4 c.toNat
  else ['\\', 'U'] ++ hexDigits 8 c.toNat

/-- The quoted form of a text. -/
def quote (s : List Char) : List Char :=
  let q := quoteFor s
  q :: s.flatMap (escape q) ++ [q]

/-- The quoted form of a string. -/
def quoted (s : String) : String :=
  String.ofList (quote s.toList)

section Lemmas

theorem quote_eq
    (s : List Char) :
    quote s = quoteFor s :: (s.flatMap (escape (quoteFor s)) ++ [quoteFor s]) := rfl

/-- A character that needs no escape. -/
def IsPlain (quote c : Char) : Prop :=
  c ≠ quote ∧ c ≠ '\\' ∧ c ≠ '\t' ∧ c ≠ '\n' ∧ c ≠ '\r' ∧ isPrintable c = true

theorem escape_plain
    {q c : Char}
    (h : IsPlain q c) :
    escape q c = [c] := by
  obtain ⟨h₁, h₂, h₃, h₄, h₅, h₆⟩ := h
  simp [escape, h₁, h₂, h₃, h₄, h₅, h₆]

theorem flatMap_escape_plain
    {q : Char} {s : List Char}
    (h : ∀ c ∈ s, IsPlain q c) :
    s.flatMap (escape q) = s := by
  induction s with
  | nil => rfl
  | cons c s ih =>
      simp only [List.mem_cons, forall_eq_or_imp] at h
      simp [List.flatMap_cons, escape_plain h.1, ih h.2]

end Lemmas

end Text
end Spreadsheet
