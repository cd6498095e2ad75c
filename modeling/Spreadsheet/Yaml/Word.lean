import Spreadsheet.Yaml.Glyph

/-!
# Bare text in settings files

Text without quotes: words and the gaps between them, up to what cannot be part
of a word.  It may go on over several lines, as long as each is indented; a line
end in it counts as a blank.

Result: a word that was begun takes its characters from the text
(`append_wordPart`).
-/

namespace Spreadsheet
namespace Yaml

/-- A character that sets off the parts of what stands between brackets. -/
def isBracketMark (c : Char) : Bool :=
  c == ',' || c == '[' || c == ']' || c == '\x7b' || c == '\x7d'

/-- A colon before this ends a word; between brackets a bracket or comma does
too. -/
def endsKey (inBrackets : Bool) : List Glyph → Bool
  | [] => true
  | g :: _ => isGap g.char || (inBrackets && isBracketMark g.char)

/-- The character is no part of a word, if this follows it. -/
def endsWord (inBrackets : Bool) (c : Char) (rest : List Glyph) : Bool :=
  isGap c || (c == ':' && endsKey inBrackets rest)
    || (inBrackets && (isBracketMark c || c == '?'))

/-- The word at the front, and what follows it. -/
def wordPart (inBrackets : Bool) : List Glyph → List Char × List Glyph
  | [] => ([], [])
  | g :: rest =>
      if endsWord inBrackets g.char rest then
        ([], g :: rest)
      else
        let (part, after) := wordPart inBrackets rest
        (g.char :: part, after)

/-- The gap after a word. -/
structure WordGap where
  /-- What stands for it in the text, if a word follows. -/
  filler : List Char
  /-- A line ended in it. -/
  crossed : Bool
  after : List Glyph

/-- The gap at the front. -/
def wordGap (s : List Glyph) : WordGap :=
  let isBlank (c : Char) := c == ' '
  match s.dropWhile fun g => isBlank g.char with
  | [] => ⟨(s.takeWhile fun g => isBlank g.char).map Glyph.char, false, []⟩
  | g :: rest =>
      if isLineEnd g.char then
        let (more, after) := emptyLines isBlank rest
        ⟨(more.map (folded g.char)).getD [], true, after⟩
      else
        ⟨(s.takeWhile fun g => isBlank g.char).map Glyph.char, false, g :: rest⟩

/-- The text ends here, although a gap came before: a comment begins, or the line
is not indented. -/
def stopsWords (inBrackets : Bool) (indent : Nat) : List Glyph → Bool
  | [] => true
  | g :: _ => g.char == '#' || (!inBrackets && g.column < indent)

section Lemmas

/-- A word and what follows it make up the text. -/
theorem append_wordPart
    (inBrackets : Bool) (s : List Glyph) :
    (wordPart inBrackets s).1 ++ (wordPart inBrackets s).2.map Glyph.char
      = s.map Glyph.char := by
  induction s with
  | nil => rfl
  | cons g rest ih =>
      rw [wordPart]
      split
      · rfl
      · simpa using ih

theorem length_wordPart
    (inBrackets : Bool) (s : List Glyph) :
    (wordPart inBrackets s).1.length + (wordPart inBrackets s).2.length = s.length := by
  simpa using congrArg List.length (append_wordPart inBrackets s)

theorem length_after_wordGap_le
    (s : List Glyph) :
    (wordGap s).after.length ≤ s.length := by
  have hle : (s.dropWhile fun g => g.char == ' ').length ≤ s.length :=
    (List.dropWhile_sublist _).length_le
  unfold wordGap
  dsimp only
  split
  · simp
  · next g rest hs =>
      rw [hs, List.length_cons] at hle
      split
      · exact Nat.le_trans (length_emptyLines_le _ rest) (by omega)
      · simpa using hle

end Lemmas

/-- Bare text: the words from here on, whether the last gap crossed a line, and
what follows. -/
def words (inBrackets : Bool) (indent : Nat) (s : List Glyph) :
    List Char × Bool × List Glyph :=
  let part := wordPart inBrackets s
  let gap := wordGap part.2
  if h : part.1 = [] then
    ([], false, s)
  else if gap.filler.isEmpty || stopsWords inBrackets indent gap.after then
    (part.1, gap.crossed, gap.after)
  else
    have : (wordGap (wordPart inBrackets s).2).after.length < s.length := by
      have hpart := length_wordPart inBrackets s
      have hgap := length_after_wordGap_le (wordPart inBrackets s).2
      have hpos : 0 < (wordPart inBrackets s).1.length := List.length_pos_iff.2 h
      omega
    let (more, crossed, after) := words inBrackets indent gap.after
    if more.isEmpty then
      (part.1, gap.crossed, gap.after)
    else
      (part.1 ++ gap.filler ++ more, crossed, after)
termination_by s.length

end Yaml
end Spreadsheet
