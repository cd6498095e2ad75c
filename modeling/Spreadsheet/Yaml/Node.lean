import Spreadsheet.Yaml.Token

/-!
# The nodes of a settings file

A settings file holds one node: a text, a sequence of nodes, or a mapping from
nodes to nodes.  A node that is left out is the empty bare text.

A sequence or mapping stands in a block or between brackets.  A key between
brackets of a sequence makes a mapping with this one entry; a sequence below a
key may stand in the column of the key.

Results: a file with nothing in it has no node (`ofTokens_finish`), and a text
is the node that it makes (`ofTokens_text`).
-/

namespace Spreadsheet
namespace Yaml

/-- What a settings file holds. -/
inductive Node where
  /-- A text; a bare one may stand for a value of another kind. -/
  | text (bare : Bool) (s : List Char)
  | sequence (items : List Node)
  | mapping (entries : List (Node × Node))
  /-- A node of a kind that is not known. -/
  | unknown

namespace Node

/-- A node that was left out. -/
def missing : Node := .text true []

/-- What is known of a node before it is read. -/
structure Properties where
  isNamed : Bool
  kind : Option (List Char)

/-- The properties of the node that follows, and the tokens after them. -/
def properties : List Token → Properties × List Token
  | .label :: .kind name :: rest => (⟨true, some name⟩, rest)
  | .kind name :: .label :: rest => (⟨true, some name⟩, rest)
  | .kind name :: rest => (⟨false, some name⟩, rest)
  | .label :: rest => (⟨true, none⟩, rest)
  | rest => (⟨false, none⟩, rest)

/-- The node taken as one of a kind: without a name for it a text is bare, and
the name for texts keeps one as it stands. -/
def ofKind (kind : Option (List Char)) (node : Node) : Node :=
  match kind, node with
  | none, node => node
  | some [], .text _ s => .text true s
  | some [], node => node
  | some ['!', 's', 't', 'r'], .text _ s => .text false s
  | some _, _ => .unknown

/-- The fault of tokens that cannot stand where they do. -/
def misplaced : List Token → Fault
  | .broken cause :: _ => cause
  | .reference :: _ => .unreadableSettings .reference
  | _ => .unreadableSettings .order

/-- A token at which nothing is left to be read of a node. -/
abbrev Stop := Token → Bool

/-- The end of an entry of a sequence in a block. -/
def endsItem : Stop
  | .dash | .blockEnd => true
  | _ => false

/-- The end of a key or value of a mapping in a block. -/
def endsEntry : Stop
  | .key | .colon | .blockEnd => true
  | _ => false

/-- The end of an entry of a sequence in the column of its key. -/
def endsLooseItem : Stop
  | .dash | .key | .colon | .blockEnd => true
  | _ => false

/-- The end of a key between brackets. -/
def endsBracketKey : Stop
  | .colon | .comma | .closeBracket | .closeBrace => true
  | _ => false

/-- The end of a value between brackets. -/
def endsBracketValue : Stop
  | .comma | .closeBracket | .closeBrace => true
  | _ => false

/-- Where a node stands. -/
inductive Setting where
  | bracket
  | block
  /-- Below a key, where a sequence may stand in the column of the key. -/
  | entry
deriving DecidableEq

mutual

/-- The node at the front of tokens, and those after it. -/
def read (steps : Nat) (setting : Setting) (ts : List Token) :
    Except Fault (Node × List Token) :=
  match steps with
  | 0 => .error (.unreadableSettings .order)
  | steps + 1 => do
      let (found, rest) := properties ts
      let (node, rest) ←
        match rest, setting with
        | .text bare s :: rest, _ => pure (Node.text bare s, rest)
        | .openBracket :: rest, _ => do
            let (items, rest) ← bracketItems steps true rest
            pure (Node.sequence items, rest)
        | .openBrace :: rest, _ => do
            let (entries, rest) ← bracketEntries steps true rest
            pure (Node.mapping entries, rest)
        | .dash :: _, .entry => do
            let (items, rest) ← looseItems steps rest
            pure (Node.sequence items, rest)
        | .sequenceStart :: rest, .block | .sequenceStart :: rest, .entry => do
            let (items, rest) ← blockItems steps rest
            pure (Node.sequence items, rest)
        | .mappingStart :: rest, .block | .mappingStart :: rest, .entry => do
            let (entries, rest) ← blockEntries steps rest
            pure (Node.mapping entries, rest)
        | rest, _ =>
            if found.isNamed || found.kind.isSome then pure (missing, rest)
            else throw (misplaced rest)
      return (node.ofKind found.kind, rest)

/-- The node at the front of tokens, unless it was left out before one of these
ends. -/
def readUnless (steps : Nat) (isEnd : Stop) (setting : Setting) (ts : List Token) :
    Except Fault (Node × List Token) :=
  match steps with
  | 0 => .error (.unreadableSettings .order)
  | steps + 1 =>
      match ts with
      | t :: rest => if isEnd t then .ok (missing, t :: rest) else read steps setting (t :: rest)
      | [] => .error (misplaced [])

/-- The value behind a colon, if there is one, and the tokens after it. -/
def readValue (steps : Nat) (isEnd : Stop) (setting : Setting) (ts : List Token) :
    Except Fault (Node × List Token) :=
  match steps with
  | 0 => .error (.unreadableSettings .order)
  | steps + 1 =>
      match ts with
      | .colon :: rest => readUnless steps isEnd setting rest
      | rest => .ok (missing, rest)

/-- The rest of a sequence in a block. -/
def blockItems (steps : Nat) (ts : List Token) : Except Fault (List Node × List Token) :=
  match steps with
  | 0 => .error (.unreadableSettings .order)
  | steps + 1 =>
      match ts with
      | .dash :: rest => do
          let (item, rest) ← readUnless steps endsItem .block rest
          let (items, rest) ← blockItems steps rest
          return (item :: items, rest)
      | .blockEnd :: rest => .ok ([], rest)
      | rest => .error (misplaced rest)

/-- The rest of a sequence in the column of its key. -/
def looseItems (steps : Nat) (ts : List Token) : Except Fault (List Node × List Token) :=
  match steps with
  | 0 => .error (.unreadableSettings .order)
  | steps + 1 =>
      match ts with
      | .dash :: rest => do
          let (item, rest) ← readUnless steps endsLooseItem .block rest
          let (items, rest) ← looseItems steps rest
          return (item :: items, rest)
      | rest => .ok ([], rest)

/-- The rest of a mapping in a block. -/
def blockEntries (steps : Nat) (ts : List Token) :
    Except Fault (List (Node × Node) × List Token) :=
  match steps with
  | 0 => .error (.unreadableSettings .order)
  | steps + 1 =>
      match ts with
      | .key :: rest => do
          let (key, rest) ← readUnless steps endsEntry .entry rest
          let (value, rest) ← readValue steps endsEntry .entry rest
          let (entries, rest) ← blockEntries steps rest
          return ((key, value) :: entries, rest)
      | .blockEnd :: rest => .ok ([], rest)
      | rest => .error (misplaced rest)

/-- The rest of a sequence between brackets. -/
def bracketItems (steps : Nat) (isFirst : Bool) (ts : List Token) :
    Except Fault (List Node × List Token) :=
  match steps with
  | 0 => .error (.unreadableSettings .order)
  | steps + 1 =>
      match isFirst, ts with
      | _, .closeBracket :: rest => .ok ([], rest)
      | false, .comma :: rest => bracketItems steps true rest
      | false, rest => .error (misplaced rest)
      | true, .key :: rest => do
          let (key, rest) ← readUnless steps endsBracketKey .bracket rest
          let (value, rest) ← readValue steps endsBracketValue .bracket rest
          let (items, rest) ← bracketItems steps false rest
          return (.mapping [(key, value)] :: items, rest)
      | true, rest => do
          let (item, rest) ← read steps .bracket rest
          let (items, rest) ← bracketItems steps false rest
          return (item :: items, rest)

/-- The rest of a mapping between brackets. -/
def bracketEntries (steps : Nat) (isFirst : Bool) (ts : List Token) :
    Except Fault (List (Node × Node) × List Token) :=
  match steps with
  | 0 => .error (.unreadableSettings .order)
  | steps + 1 =>
      match isFirst, ts with
      | _, .closeBrace :: rest => .ok ([], rest)
      | false, .comma :: rest => bracketEntries steps true rest
      | false, rest => .error (misplaced rest)
      | true, .key :: rest => do
          let (key, rest) ← readUnless steps endsBracketKey .bracket rest
          let (value, rest) ← readValue steps endsBracketValue .bracket rest
          let (entries, rest) ← bracketEntries steps false rest
          return ((key, value) :: entries, rest)
      | true, rest => do
          let (key, rest) ← read steps .bracket rest
          let (entries, rest) ← bracketEntries steps false rest
          return ((key, missing) :: entries, rest)

end

/-- How many steps reading takes at most, for so many tokens. -/
def stepsFor (tokenCount : Nat) : Nat := 4 * tokenCount + 4

/-- Nothing but the end of the file may follow its node. -/
def ending : List Token → Except Fault Unit
  | .documentEnd :: rest => ending rest
  | .finish :: _ => .ok ()
  | .documentStart :: _ => .error (.unreadableSettings .reference)
  | rest => .error (misplaced rest)

/-- The node of a file, if there is one. -/
def ofTokens (ts : List Token) : Except Fault (Option Node) :=
  match ts with
  | .finish :: _ => .ok none
  | .documentStart :: rest => do
      let isEnd : Stop
        | .documentStart | .documentEnd | .finish => true
        | _ => false
      let (node, rest) ← readUnless (stepsFor ts.length) isEnd .block rest
      ending rest
      return some node
  | ts => do
      let (node, rest) ← read (stepsFor ts.length) .block ts
      ending rest
      return some node

section Lemmas

theorem ofTokens_finish
    (ts : List Token) :
    ofTokens (.finish :: ts) = .ok none := rfl

theorem ofTokens_text
    (bare : Bool) (s : List Char) :
    ofTokens [.text bare s, .finish] = .ok (some (.text bare s)) := by
  rfl

end Lemmas

end Node
end Yaml
end Spreadsheet
