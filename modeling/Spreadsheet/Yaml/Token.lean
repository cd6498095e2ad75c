import Spreadsheet.Yaml.Block
import Spreadsheet.Yaml.Quoted
import Spreadsheet.Yaml.Word

/-!
# The tokens of a settings file

The words and marks of a settings file in order.  Where a block begins and ends
is told by the columns of its words, so that marks for both are set among the
others.  A word may turn out to be a key only by the colon behind it; then the
marks for the key, and for a mapping that begins with it, are set before it.

Results: an empty file has no token but its end (`tokens_nil`), and the tokens
never run out before an end or a fault (`tokensFrom_ne_nil`).
-/

namespace Spreadsheet
namespace Yaml

/-- A word or mark. -/
inductive Token where
  | documentStart
  | documentEnd
  /-- A sequence or mapping that is told by its column begins here. -/
  | sequenceStart
  | mappingStart
  /-- A sequence or mapping that is told by its column ends here. -/
  | blockEnd
  | openBracket
  | closeBracket
  | openBrace
  | closeBrace
  | comma
  | dash
  | key
  | colon
  /-- A text; a bare one may stand for a value of another kind. -/
  | text (bare : Bool) (s : List Char)
  /-- A name given to what follows. -/
  | label
  /-- What was given a name. -/
  | reference
  /-- The kind of what follows. -/
  | kind (name : List Char)
  | finish
  /-- No more can be read for this reason. -/
  | broken (cause : Fault)

/-- A word that a colon may make a key. -/
structure PossibleKey where
  /-- How many brackets are open around it. -/
  level : Nat
  /-- How many tokens come before it. -/
  place : Nat
  /-- It must be a key, since it begins a line of a mapping. -/
  required : Bool
  start : Glyph

/-- The most characters between the start of a key and its colon. -/
def keyLength : Nat := 1024

/-- A colon at a place cannot make the word a key any more. -/
def PossibleKey.isStale (k : PossibleKey) (g : Glyph) : Bool :=
  k.start.line != g.line || decide (keyLength < g.index - k.start.index)

/-- How far the tokens were found. -/
structure Scan where
  tokens : Array Token
  /-- How many brackets are open. -/
  level : Nat
  /-- The columns of the open blocks, the innermost one first. -/
  columns : List Nat
  /-- A key may begin here. -/
  keyAllowed : Bool
  keys : List PossibleKey

namespace Scan

/-- Nothing was found yet. -/
def initial : Scan := ⟨#[], 0, [], true, []⟩

/-- The column of the innermost block, one before the first if none is open. -/
def column (s : Scan) : Int :=
  match s.columns with
  | [] => -1
  | c :: _ => c

/-- One more token. -/
def push (s : Scan) (t : Token) : Scan := { s with tokens := s.tokens.push t }

/-- The blocks that are deeper than a column are closed. -/
def closedTo (s : Scan) (column : Int) : Scan :=
  if s.level = 0 then
    let closed := s.columns.takeWhile fun (c : Nat) => column < c
    { s with
      tokens := closed.foldl (fun tokens _ => tokens.push .blockEnd) s.tokens
      columns := s.columns.drop closed.length }
  else
    s

/-- A block is opened at a column that is deeper than the others; its mark is set
among the tokens. -/
def opened (s : Scan) (column place : Nat) (mark : Token) : Scan :=
  if s.level = 0 ∧ s.column < column then
    { s with
      tokens := s.tokens.insertIdxIfInBounds place mark
      columns := column :: s.columns }
  else
    s

/-- Only the words that a colon at a place can still make keys. -/
def withoutStale (s : Scan) (g : Glyph) : Except Fault Scan :=
  if s.keys.any fun k => k.isStale g && k.required then
    .error (.unreadableSettings .token)
  else
    .ok { s with keys := s.keys.filter fun k => !k.isStale g }

/-- The tokens that are read before a fault in a text shows.  A word that may be
a key is not read until it is known whether it is one. -/
def broken (s : Scan) (text : List Glyph) (cause : Fault) : List Token :=
  let isOpen (k : PossibleKey) := k.required || text.head?.any fun g => !k.isStale g
  let known := (s.keys.filter isOpen).foldl (fun n k => min n k.place) s.tokens.size
  s.tokens.toList.take known ++ [.broken cause]

/-- The word at this level is no key. -/
def withoutKey (s : Scan) : Except Fault Scan :=
  if s.keys.any fun k => k.level == s.level && k.required then
    .error (.unreadableSettings .token)
  else
    .ok { s with keys := s.keys.filter fun k => k.level != s.level }

/-- The word that begins here may be a key. -/
def withKey (s : Scan) (g : Glyph) : Except Fault Scan :=
  if s.keyAllowed then do
    let required := s.level = 0 ∧ s.column = g.column
    let s ← s.withoutKey
    return { s with keys := ⟨s.level, s.tokens.size, required, g⟩ :: s.keys }
  else
    return s

/-- A mark that begins a document or follows its end. -/
def document (s : Scan) (mark : Token) : Except Fault Scan := do
  let s ← (s.closedTo (-1)).withoutKey
  return { s with keyAllowed := false }.push mark

/-- An opening bracket. -/
def bracketOpened (s : Scan) (g : Glyph) (mark : Token) : Except Fault Scan := do
  let s ← s.withKey g
  return { s with level := s.level + 1, keyAllowed := true }.push mark

/-- A closing bracket. -/
def bracketClosed (s : Scan) (mark : Token) : Except Fault Scan := do
  let s ← s.withoutKey
  return { s with level := s.level - 1, keyAllowed := false }.push mark

/-- A dash, a question mark or a colon without a word before it may begin a
block. -/
def blockMark (s : Scan) (g : Glyph) (start mark : Token) : Except Fault Scan :=
  if s.level = 0 ∧ !s.keyAllowed then
    .error (.unreadableSettings .token)
  else do
    let s := s.opened g.column s.tokens.size start
    let s ← { s with keyAllowed := true }.withoutKey
    return s.push mark

/-- A dash. -/
def dash (s : Scan) (g : Glyph) : Except Fault Scan :=
  s.blockMark g .sequenceStart .dash

/-- A question mark. -/
def question (s : Scan) (g : Glyph) : Except Fault Scan := do
  let s ← s.blockMark g .mappingStart .key
  return { s with keyAllowed := s.level = 0 }

/-- A colon, which makes the word before it a key. -/
def colon (s : Scan) (g : Glyph) : Except Fault Scan :=
  match s.keys.find? fun k => k.level == s.level with
  | some k =>
      let s := { s with
        tokens := s.tokens.insertIdxIfInBounds k.place .key
        keys := s.keys.filter fun k => k.level != s.level
        keyAllowed := false }
      .ok ((s.opened k.start.column k.place .mappingStart).push .colon)
  | none => do
      let s ← s.blockMark g .mappingStart .colon
      return { s with keyAllowed := s.level = 0 }

/-- A word or name that may be a key. -/
def word (s : Scan) (g : Glyph) (t : Token) : Except Fault Scan := do
  let s ← s.withKey g
  return { s with keyAllowed := false }.push t

/-- All tokens, if nothing follows. -/
def finished (s : Scan) : List Token :=
  match (s.closedTo (-1)).withoutKey with
  | .ok s => (s.push .finish).tokens.toList
  | .error cause => s.broken [] cause

end Scan

/-- The text from the next word or mark on, and whether a line ended before it. -/
def skipGap (inComment crossed : Bool) : List Glyph → Bool × List Glyph
  | [] => (crossed, [])
  | g :: rest =>
      if isLineEnd g.char then skipGap false true rest
      else if inComment || g.char == ' ' then skipGap inComment crossed rest
      else if g.char == '#' then skipGap true crossed rest
      else (crossed, g :: rest)

/-- A character of a name. -/
def isNameChar (c : Char) : Bool := c.isAlphanum || c == '-' || c == '_'

/-- A character of the name of a kind. -/
def isKindChar (c : Char) : Bool :=
  c.isAlphanum || "-;/?:@&=+$,_.!~*'()[]%".toList.contains c

/-- What follows a name, which has to end there. -/
def afterName (s : List Glyph) : Except Fault (List Glyph) :=
  let rest := s.dropWhile fun g => isNameChar g.char
  let ends :=
    match rest with
    | [] => true
    | g :: _ => isGap g.char || "?:,]\x7d%@".toList.contains g.char || g.char == '\x60'
  if rest.length < s.length && ends then .ok rest else .error (.unreadableSettings .token)

/-- A word cannot begin so. -/
def isIndicator (c : Char) : Bool :=
  isGap c || isBracketMark c || "-?:#&*!|>'\"%@".toList.contains c || c == '\x60'

/-- Bare text may begin here. -/
def beginsWord (inBrackets : Bool) (c : Char) (rest : List Glyph) : Bool :=
  !isIndicator c
    || (!gapAhead rest && (c == '-' || (!inBrackets && (c == '?' || c == ':'))))

/-- The next token found, and the text after it. -/
def scanToken (s : Scan) (g : Glyph) (rest : List Glyph) : Except Fault (Scan × List Glyph) := do
  let s ← s.withoutStale g
  let s := s.closedTo g.column
  let inBrackets := s.level != 0
  let isMark := gapAhead rest || inBrackets
  if g.column = 0 ∧ g.char = '%' then
    throw (.unreadableSettings .token)
  else if g.column = 0 ∧ markAhead (g :: rest) then
    let mark := if g.char = '-' then Token.documentStart else .documentEnd
    return (← s.document mark, rest.drop 2)
  else if g.char = '[' then return (← s.bracketOpened g .openBracket, rest)
  else if g.char = '\x7b' then return (← s.bracketOpened g .openBrace, rest)
  else if g.char = ']' then return (← s.bracketClosed .closeBracket, rest)
  else if g.char = '\x7d' then return (← s.bracketClosed .closeBrace, rest)
  else if g.char = ',' then
    return ((← { s with keyAllowed := true }.withoutKey).push .comma, rest)
  else if g.char = '-' ∧ gapAhead rest then return (← s.dash g, rest)
  else if g.char = '?' ∧ isMark then return (← s.question g, rest)
  else if g.char = ':' ∧ isMark then return (← s.colon g, rest)
  else if g.char = '*' then return (← s.word g .reference, ← afterName rest)
  else if g.char = '&' then return (← s.word g .label, ← afterName rest)
  else if g.char = '!' then
    let name := rest.takeWhile fun g => isKindChar g.char
    let after := rest.drop name.length
    if gapAhead after then
      return (← s.word g (.kind (name.map Glyph.char)), after)
    else
      throw (.unreadableSettings .token)
  else if (g.char = '|' ∨ g.char = '>') ∧ !inBrackets then
    let s ← { s with keyAllowed := true }.withoutKey
    let (text, after) ← readBlock (g.char = '>') s.column rest
    return (s.push (.text false text), after)
  else if g.char = '\'' ∨ g.char = '"' then
    let (text, after) ← readQuoted g.char rest
    return (← s.word g (.text false text), after)
  else if beginsWord inBrackets g.char rest then
    let (text, crossed, after) := words inBrackets (s.column + 1).toNat (g :: rest)
    let s ← s.word g (.text true text)
    return ({ s with keyAllowed := crossed }, after)
  else
    throw (.unreadableSettings .token)

/-- The tokens of a text, as many as there are steps for. -/
def tokensFrom (steps : Nat) (s : Scan) (text : List Glyph) : List Token :=
  match steps with
  | 0 => s.broken text (.unreadableSettings .token)
  | steps + 1 =>
      let (crossed, next) := skipGap false false text
      let s := if crossed && s.level == 0 then { s with keyAllowed := true } else s
      match next with
      | [] => s.finished
      | g :: rest =>
          match scanToken s g rest with
          | .ok (s, rest) => tokensFrom steps s rest
          | .error cause => s.broken text cause

/-- The tokens of a text; each takes a character at least. -/
def tokens (text : List Glyph) : List Token :=
  tokensFrom (text.length + 1) .initial text

section Lemmas

/-- An empty file has no token but its end. -/
theorem tokens_nil :
    tokens [] = [.finish] := rfl

/-- There is always one more token: the end, or a fault. -/
theorem tokensFrom_ne_nil
    (steps : Nat) (s : Scan) (text : List Glyph) :
    tokensFrom steps s text ≠ [] := by
  induction steps generalizing s text with
  | zero => simp [tokensFrom, Scan.broken]
  | succ steps ih =>
      rw [tokensFrom]
      dsimp only
      split
      · unfold Scan.finished
        split <;> simp [Scan.push, Scan.broken]
      · split
        · exact ih _ _
        · simp [Scan.broken]

end Lemmas

end Yaml
end Spreadsheet
