/-!
# Paths

The place of a file or folder: the parts on the way to it, taken from the
current folder or from the top.  A part that names the folder itself is left
out; a step back to the folder before stays, since that folder may not be there.

Result: taking the steps back of a path without them changes nothing
(`resolved_of_plain`).
-/

namespace Spreadsheet

/-- The place of a file or folder. -/
structure Path where
  /-- The path starts at the top, not at the current folder. -/
  absolute : Bool
  parts : List String
deriving DecidableEq, Repr

namespace Path

/-- The current folder. -/
def here : Path := ⟨false, []⟩

/-- The path that a text writes. -/
def ofText (s : String) : Path where
  absolute := s.startsWith "/"
  parts := (s.splitOn "/").filter fun part => part != "" && part != "."

/-- The text of a path. -/
def text (p : Path) : String :=
  let below := String.intercalate "/" p.parts
  if p.absolute then "/" ++ below else if p.parts.isEmpty then "." else below

/-- The folder that a path is in. -/
def parent (p : Path) : Path := { p with parts := p.parts.dropLast }

/-- The last part of a path. -/
def name (p : Path) : String := p.parts.getLast?.getD ""

/-- A file or folder in a folder. -/
def child (p : Path) (name : String) : Path := { p with parts := p.parts ++ [name] }

/-- The path beside this one whose name is longer by an ending. -/
def withEnding (p : Path) (ending : String) : Path := p.parent.child (p.name ++ ending)

/-- One more part after those that were taken already (reversed).  A step back
takes the part before it away; at the top it goes nowhere, and before the
current folder it stays. -/
def take (absolute : Bool) (done : List String) (part : String) : List String :=
  if part = ".." then
    match done with
    | [] => if absolute then [] else [part]
    | last :: rest => if last = ".." then part :: done else rest
  else
    part :: done

/-- The path with its steps back taken. -/
def resolved (p : Path) : Path :=
  { p with parts := (p.parts.foldl (take p.absolute) []).reverse }

/-- The path lies beyond the current folder or is that folder itself: all that
it does is to step back. -/
def isAround (p : Path) : Bool := !p.absolute && p.parts.all (· == "..")

/-- The folder around the place of a path whose steps back were taken. -/
def around (p : Path) : Path := if p.isAround then p.child ".." else p.parent

/-- The path is that of a folder or lies below it. -/
def isWithin (p folder : Path) : Bool :=
  p.absolute == folder.absolute && folder.parts.isPrefixOf p.parts

/-- The folders on the way to a path, the path itself among them. -/
def steps (p : Path) : List Path :=
  (List.range p.parts.length).map fun i => { p with parts := p.parts.take (i + 1) }

section Lemmas

theorem foldl_take_of_plain
    {absolute : Bool} {parts done : List String}
    (h : ".." ∉ parts) :
    parts.foldl (take absolute) done = parts.reverse ++ done := by
  induction parts generalizing done with
  | nil => rfl
  | cons part rest ih =>
      have hpart : part ≠ ".." := fun he => h (he ▸ List.mem_cons_self)
      rw [List.foldl_cons, ih fun hm => h (List.mem_cons_of_mem _ hm)]
      simp [take, hpart]

/-- A path without steps back is its own. -/
theorem resolved_of_plain
    {p : Path}
    (h : ".." ∉ p.parts) :
    p.resolved = p := by
  simp [resolved, foldl_take_of_plain h]

end Lemmas

end Path
end Spreadsheet
