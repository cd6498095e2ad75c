import Spreadsheet.Fault
import Spreadsheet.Files.Basic

/-!
# Access to files

A path is walked part by part: each part but the last has to be a folder that is
there, and a step back leads to the folder around it.  What is found at its end
may be read, and a text or a folder may be put there.

Results: a text that was written is what is read at the place that the path leads
to (`read?_writeText`), also if it is put there to stay (`read?_replace`), and
adding to one file leaves those of other names (`read?_append_of_ne`).
-/

namespace Spreadsheet
namespace Files

/-- One part further from a folder.  A part without a name stays in it. -/
def step (f : Files) (p : Path) (part : String) : Except FileFault Path :=
  if f.hasFolder p then
    .ok (if part = "" ∨ part = "." then p
      else { p with parts := (Path.take p.absolute p.parts.reverse part).reverse })
  else
    .error (if (f.read? p).isSome then .notAFolder else .missing)

/-- The place that parts lead to, whether something is there or not. -/
def walk (f : Files) (absolute : Bool) (parts : List String) : Except FileFault Path :=
  parts.foldlM f.step ⟨absolute, []⟩

/-- The place that a path leads to. -/
def locate (f : Files) (p : Path) : Except FileFault Path :=
  f.walk p.absolute p.parts

/-- There is something at a path. -/
def finds (f : Files) (p : Path) : Bool :=
  match f.locate p with
  | .ok q => f.has q
  | .error _ => false

/-- There is something where a text leads.  What a stroke or a point at its end
follows has to be a folder. -/
def findsText (f : Files) (s : String) : Bool :=
  match s.splitOn "/" with
  | [""] => false
  | parts =>
      match f.walk (s.startsWith "/") parts with
      | .ok q => f.has q
      | .error _ => false

/-- The text at a path. -/
def readText (f : Files) (p : Path) : Except FileFault String := do
  let q ← f.locate p
  match f.read? q with
  | some text => return text
  | none => throw (if f.hasFolder q then .folder else .missing)

/-- The text at a path, if something is there. -/
def readIfAny (f : Files) (p : Path) : Except FileFault (Option String) :=
  match f.readText p with
  | .ok text => .ok (some text)
  | .error .folder => .error .folder
  | .error _ => .ok none

/-- The files with a text at a path. -/
def writeText (f : Files) (p : Path) (text : String) : Except FileFault Files := do
  let q ← f.locate p
  if f.hasFolder q then
    throw .folder
  else
    return f.write q text

/-- The files with a text added at the end of what is at a path, if that can be. -/
def append (f : Files) (p : Path) (text : String) : Files :=
  match f.locate p with
  | .ok q => if f.hasFolder q then f else f.write q (((f.read? q).getD "") ++ text)
  | .error _ => f

/-- The files with a folder at a path whose other parts are there. -/
def makeLastFolder (f : Files) (p : Path) : Except FileFault Files := do
  let q ← f.locate p
  if f.hasFolder q then
    return f
  else if (f.read? q).isSome then
    throw .taken
  else
    return f.addFolder q

/-- The files with folders for all parts from the first `n` on. -/
def makeFolderFrom (f : Files) (p : Path) : Nat → Except FileFault Files
  | 0 => f.makeLastFolder p
  | n + 1 =>
      match f.makeLastFolder p with
      | .error .missing => do
          let g ← makeFolderFrom f p.parent n
          g.makeLastFolder p
      | result => result

/-- The files with a folder at a path, and with those on the way to it. -/
def makeFolder (f : Files) (p : Path) : Except FileFault Files :=
  f.makeFolderFrom p p.parts.length

/-- A text put where it is to stay.  It first stands under a name of its own, so
that no half of it is ever seen in its place. -/
def replace (f : Files) (p : Path) (text : String) : Except FileFault Unit × Files :=
  match f.locate (p.withEnding ".tmp"), f.locate p with
  | .ok draft, .ok q =>
      if f.hasFolder draft then
        (.error .folder, f)
      else if f.hasFolder q then
        (.error .folder, f.write draft text)
      else
        (.ok (), (f.erase draft).write q text)
  | .ok draft, .error cause => (.error cause, f.write draft text)
  | .error cause, _ => (.error cause, f)

section Lemmas

/-- A part with a name of its own is the last one of the place it leads to. -/
theorem name_locate_child
    {f : Files} {p q : Path} {name : String}
    (hempty : name ≠ "")
    (hhere : name ≠ ".")
    (hback : name ≠ "..")
    (h : f.locate (p.child name) = .ok q) :
    q.name = name := by
  simp only [locate, walk, Path.child, List.foldlM_append, List.foldlM_cons, List.foldlM_nil,
    bind_pure] at h
  cases hp : p.parts.foldlM f.step ⟨p.absolute, []⟩ with
  | error cause => simp [hp, bind, Except.bind] at h
  | ok here =>
      simp only [hp, bind, Except.bind, step] at h
      split at h
      · simp only [hempty, hhere, Path.take, hback, or_self, if_false, Except.ok.injEq] at h
        subst h
        simp [Path.name]
      · simp at h

/-- Adding to one file leaves those of other names. -/
theorem read?_append_of_ne
    {f : Files} {p q : Path} {name text : String}
    (hempty : name ≠ "")
    (hhere : name ≠ ".")
    (hback : name ≠ "..")
    (hne : q.name ≠ name) :
    (f.append (p.child name) text).read? q = f.read? q := by
  unfold append
  split
  · next place hplace =>
      split
      · rfl
      · refine read?_write_of_ne _ _ ?_
        rintro rfl
        exact hne (name_locate_child hempty hhere hback hplace)
  · rfl

/-- What was put at a place to stay is found there. -/
theorem read?_replace
    {f g : Files} {p q : Path} {text : String}
    (hplace : f.locate p = .ok q)
    (h : f.replace p text = (.ok (), g)) :
    g.read? q = some text := by
  simp only [replace, hplace] at h
  split at h
  · next draft place hdraft hq =>
      obtain rfl := Except.ok.inj hq
      split at h
      · simp at h
      · split at h
        · simp at h
        · obtain rfl := (Prod.mk.inj h).2
          exact read?_write_self _ _ _
  · simp at h
  · simp at h

/-- What was written at a place is found there. -/
theorem read?_writeText
    {f g : Files} {p q : Path} {text : String}
    (hplace : f.locate p = .ok q)
    (h : f.writeText p text = .ok g) :
    g.read? q = some text := by
  simp only [writeText, hplace, bind, Except.bind] at h
  split at h
  · simp [throw, throwThe, MonadExceptOf.throw] at h
  · obtain rfl := Except.ok.inj h
    exact read?_write_self _ _ _

end Lemmas

end Files
end Spreadsheet
