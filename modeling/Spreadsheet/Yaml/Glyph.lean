import Spreadsheet.Fault

/-!
# The characters of a settings file

The characters of a text with their places.  The notation of a settings file
means something by the column where a word begins, and by the line where it
ends, so both are noted once, before anything is read.

Results: every character of the text is kept (`map_char_placed`), and the first
one stands where the count begins (`head?_placed`).
-/

namespace Spreadsheet
namespace Yaml

/-- A character and its place, counted from zero. -/
structure Glyph where
  char : Char
  line : Nat
  column : Nat
  /-- How many characters come before it. -/
  index : Nat
deriving DecidableEq, Repr

/-- A character that ends a line. -/
def isLineEnd (c : Char) : Bool :=
  c == '\n' || c == '\u0085' || c == '\u2028' || c == '\u2029'

/-- A character between words. -/
def isGap (c : Char) : Bool := c == ' ' || c == '\t' || isLineEnd c

/-- A mark that may stand at the front of a text, and takes no place in it. -/
def orderMark : Char := '\ufeff'

/-- A character that a settings file may hold. -/
def isAllowed (c : Char) : Bool :=
  c == '\t' || c == '\n' || (' ' ≤ c && c ≤ '~') || c == '\u0085'
    || ('\u00a0' ≤ c && c ≤ '\ufffd') || 0x10000 ≤ c.toNat

/-- The text with one way to end a line. -/
def unified : List Char → List Char
  | '\r' :: '\n' :: s => '\n' :: unified s
  | '\r' :: s => '\n' :: unified s
  | c :: s => c :: unified s
  | [] => []

/-- The characters with their places, the first one being known. -/
def placed (line column index : Nat) : List Char → List Glyph
  | [] => []
  | c :: s =>
      ⟨c, line, column, index⟩ ::
        if isLineEnd c then
          placed (line + 1) 0 (index + 1) s
        else
          placed line (if c == orderMark then column else column + 1) (index + 1) s

/-- The characters of a settings file with their places. -/
def glyphs (s : String) : Except Fault (List Glyph) :=
  let s := unified s.toList
  if s.all isAllowed then
    .ok (placed 0 0 0 (if s.head? = some orderMark then s.tail else s))
  else
    .error (.unreadableSettings .character)

/-- A word cannot go on here. -/
def gapAhead : List Glyph → Bool
  | [] => true
  | g :: _ => isGap g.char

/-- A document begins or ends here: three dashes or points, and a gap. -/
def markAhead : List Glyph → Bool
  | a :: b :: c :: rest =>
      (a.char == '-' || a.char == '.') && b.char == a.char && c.char == a.char && gapAhead rest
  | _ => false

/-- The character that a text has for the end of a line. -/
def lineEndChar (c : Char) : Char := if c == '\u0085' then '\n' else c

/-- The line ends at the front, with the blanks between and after them.  There
are none to be had where a document begins or ends. -/
def skipLines (isBlank : Char → Bool) : List Glyph → Option (List Char) × List Glyph
  | [] => (some [], [])
  | g :: rest =>
      if isBlank g.char then
        skipLines isBlank rest
      else if isLineEnd g.char then
        if markAhead rest then
          (none, rest)
        else
          let (more, after) := skipLines isBlank rest
          (more.map (lineEndChar g.char :: ·), after)
      else
        (some [], g :: rest)

/-- The empty lines after the end of a line. -/
def emptyLines (isBlank : Char → Bool) (s : List Glyph) : Option (List Char) × List Glyph :=
  if markAhead s then (none, s) else skipLines isBlank s

/-- What the end of a line inside a text stands for, with the empty lines after
it: a blank, or one line end less than there are. -/
def folded (first : Char) (more : List Char) : List Char :=
  if lineEndChar first != '\n' then lineEndChar first :: more
  else if more.isEmpty then [' ']
  else more

section Lemmas

/-- No character is lost. -/
theorem map_char_placed
    (line column index : Nat) (s : List Char) :
    (placed line column index s).map Glyph.char = s := by
  induction s generalizing line column index with
  | nil => rfl
  | cons c s ih =>
      rw [placed, List.map_cons]
      split <;> rw [ih]

theorem head?_placed
    (line column index : Nat) (c : Char) (s : List Char) :
    (placed line column index (c :: s)).head? = some ⟨c, line, column, index⟩ := rfl

theorem length_skipLines_le
    (isBlank : Char → Bool) (s : List Glyph) :
    (skipLines isBlank s).2.length ≤ s.length := by
  induction s with
  | nil => simp [skipLines]
  | cons g rest ih =>
      rw [skipLines]
      split
      · exact Nat.le_succ_of_le ih
      · split
        · split
          · simp
          · exact Nat.le_succ_of_le ih
        · simp

theorem length_emptyLines_le
    (isBlank : Char → Bool) (s : List Glyph) :
    (emptyLines isBlank s).2.length ≤ s.length := by
  rw [emptyLines]
  split
  · simp
  · exact length_skipLines_le isBlank s

end Lemmas

end Yaml
end Spreadsheet
