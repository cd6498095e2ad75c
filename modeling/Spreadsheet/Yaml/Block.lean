import Spreadsheet.Yaml.Glyph

/-!
# Block text in settings files

Text that stands in lines of its own below a mark, all indented alike.  The mark
says whether its line ends are kept or folded into blanks, what becomes of the
line ends after the last line, and how deep the lines are indented, if the first
of them does not show it.

Result: the empty lines between two lines are taken from the text, which is no
longer after them (`length_betweenLines_le`).
-/

namespace Spreadsheet
namespace Yaml

/-- What becomes of the line ends after the last line of a block. -/
inductive Closing where
  | none
  | one
  | all
deriving DecidableEq, Repr

/-- What is said at the mark of a block. -/
structure BlockHead where
  isFolded : Bool
  closing : Closing
  /-- How much deeper the lines are indented, if that is said. -/
  depth : Option Nat

/-- The sign for the line ends after the last line. -/
def closing? (c : Char) : Option Closing :=
  if c = '+' then some .all else if c = '-' then some .none else none

/-- The digit for the indentation. -/
def depth? (c : Char) : Option Nat :=
  if c.isDigit && c != '0' then some (c.toNat - '0'.toNat) else none

/-- The sign and the digit after the mark of a block, in either order. -/
def blockSigns (isFolded : Bool) (s : List Glyph) : BlockHead × List Glyph :=
  match s with
  | [] => (⟨isFolded, .one, none⟩, [])
  | a :: rest =>
      match closing? a.char, depth? a.char with
      | some closing, _ =>
          match rest with
          | b :: after =>
              match depth? b.char with
              | some depth => (⟨isFolded, closing, some depth⟩, after)
              | none => (⟨isFolded, closing, none⟩, rest)
          | [] => (⟨isFolded, closing, none⟩, [])
      | none, some depth =>
          match rest with
          | b :: after =>
              match closing? b.char with
              | some closing => (⟨isFolded, closing, some depth⟩, after)
              | none => (⟨isFolded, .one, some depth⟩, rest)
          | [] => (⟨isFolded, .one, some depth⟩, [])
      | none, none => (⟨isFolded, .one, none⟩, s)

/-- The lines after that of a mark, on which only a comment may follow. -/
def afterMarkLine (s : List Glyph) : Except Fault (List Glyph) :=
  let isBlank (g : Glyph) := g.char == ' '
  let isInside (g : Glyph) := !isLineEnd g.char
  match s with
  | [] => .ok []
  | g :: _ =>
      if !(isBlank g || isLineEnd g.char) then
        .error (.unreadableSettings .token)
      else
        match s.dropWhile isBlank with
        | [] => .ok []
        | g :: rest =>
            if isLineEnd g.char then .ok rest
            else if g.char == '#' then .ok ((rest.dropWhile isInside).tail)
            else .error (.unreadableSettings .token)

/-- The empty lines at the front of a block, the deepest column in them, and what
follows. -/
def firstLines (deepest : Nat) : List Glyph → List Char × Nat × List Glyph
  | [] => ([], deepest, [])
  | g :: rest =>
      if g.char == ' ' then
        firstLines (max deepest (g.column + 1)) rest
      else if isLineEnd g.char then
        let (breaks, deepest, after) := firstLines deepest rest
        (lineEndChar g.char :: breaks, deepest, after)
      else
        ([], deepest, g :: rest)

/-- The empty lines between those of a block, and what follows. -/
def betweenLines (indent : Nat) : List Glyph → List Char × List Glyph
  | [] => ([], [])
  | g :: rest =>
      if g.char == ' ' && g.column < indent then
        betweenLines indent rest
      else if isLineEnd g.char then
        let (breaks, after) := betweenLines indent rest
        (lineEndChar g.char :: breaks, after)
      else
        ([], g :: rest)

/-- A line of a block begins here. -/
def isLineOf (indent : Nat) : List Glyph → Bool
  | [] => false
  | g :: _ => g.column == indent

/-- The line here is indented further than its block. -/
def isDeeper : List Glyph → Bool
  | [] => false
  | g :: _ => g.char == ' ' || g.char == '\t'

section Lemmas

theorem length_betweenLines_le
    (indent : Nat) (s : List Glyph) :
    (betweenLines indent s).2.length ≤ s.length := by
  induction s with
  | nil => simp [betweenLines]
  | cons g rest ih =>
      rw [betweenLines]
      split
      · exact Nat.le_succ_of_le ih
      · split
        · exact Nat.le_succ_of_le ih
        · simp

end Lemmas

/-- The lines of a block with the empty ones between them, and what follows;
`breaks` are the line ends before them that are to be written. -/
def blockLines (head : BlockHead) (indent : Nat) (breaks : List Char) :
    List Glyph → List Char × List Glyph
  | [] => (match head.closing with | .all => breaks | _ => [], [])
  | g :: rest =>
      let inside := rest.takeWhile fun g => !isLineEnd g.char
      let line := breaks ++ g.char :: inside.map Glyph.char
      match h : rest.dropWhile fun g => !isLineEnd g.char with
      | [] => (line, [])
      | ending :: later =>
          have : (betweenLines indent later).2.length < (g :: rest).length := by
            have hle := length_betweenLines_le indent later
            have hrest : (rest.dropWhile fun g => !isLineEnd g.char).length ≤ rest.length :=
              (List.dropWhile_sublist _).length_le
            rw [h, List.length_cons] at hrest
            simp only [List.length_cons]
            omega
          let next := betweenLines indent later
          let lineEnd := lineEndChar ending.char
          if isLineOf indent next.2 then
            let isJoined := head.isFolded && lineEnd == '\n' && !isDeeper (g :: rest)
              && !isDeeper next.2
            let between :=
              if !isJoined then [lineEnd] else if next.1.isEmpty then [' '] else []
            let (more, after) := blockLines head indent next.1 next.2
            (line ++ between ++ more, after)
          else
            let ends :=
              match head.closing with
              | .none => []
              | .one => [lineEnd]
              | .all => lineEnd :: next.1
            (line ++ ends, next.2)
termination_by s => s.length
decreasing_by exact this

/-- The text of a block after its mark, in a block of the given column, and what
follows. -/
def readBlock (isFolded : Bool) (column : Int) (s : List Glyph) :
    Except Fault (List Char × List Glyph) := do
  let (head, rest) := blockSigns isFolded s
  let rest ← afterMarkLine rest
  let least := (max 1 (column + 1)).toNat
  let (breaks, indent, rest) :=
    match head.depth with
    | some depth =>
        let indent := least + depth - 1
        let (breaks, rest) := betweenLines indent rest
        (breaks, indent, rest)
    | none =>
        let (breaks, deepest, rest) := firstLines 0 rest
        (breaks, max least deepest, rest)
  if isLineOf indent rest then
    return blockLines head indent breaks rest
  else
    return (match head.closing with | .all => breaks | _ => [], rest)

end Yaml
end Spreadsheet
