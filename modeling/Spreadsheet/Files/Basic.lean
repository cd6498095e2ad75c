import Spreadsheet.Files.Path

/-!
# Files

The texts and folders that the program sees, by their paths.

Results: what was written is read (`read?_write_self`), and every other text
is untouched (`read?_write_of_ne`).
-/

namespace Spreadsheet

/-- The texts and folders that there are. -/
structure Files where
  /-- The text of the path of the current folder from the top. -/
  root : String
  /-- The folders other than the current one. -/
  folders : List Path
  texts : List (Path × String)

namespace Files

/-- A current folder with nothing in it. -/
def empty (root : String) : Files := ⟨root, [], []⟩

/-- The text of a path from the top. -/
def absoluteText (f : Files) (p : Path) : String :=
  if p.absolute then p.text else (Path.ofText (f.root ++ "/" ++ p.text)).resolved.text

/-- The text of a file whose path has no steps back. -/
def read? (f : Files) (p : Path) : Option String :=
  f.texts.lookup p

/-- There is such a folder; the folders around the current one are. -/
def hasFolder (f : Files) (p : Path) : Bool :=
  p.parts.all (· == "..") || f.folders.contains p

/-- There is such a file or folder. -/
def has (f : Files) (p : Path) : Bool :=
  (f.read? p).isSome || f.hasFolder p

/-- The files with a folder, and with those on the way to it. -/
def addFolder (f : Files) (p : Path) : Files :=
  { f with folders := f.folders ++ p.steps.filter fun q => !f.folders.contains q }

/-- The files without one of the texts. -/
def erase (f : Files) (p : Path) : Files :=
  { f with texts := f.texts.filter fun entry => entry.1 != p }

/-- The files with a text written, and with the folders on the way to it. -/
def write (f : Files) (p : Path) (text : String) : Files :=
  let g := (f.erase p).addFolder p.parent
  { g with texts := g.texts ++ [(p, text)] }

/-- The files without a folder and all that is in it. -/
def removeFolder (f : Files) (p : Path) : Files :=
  { f with
    folders := f.folders.filter fun q => !q.isWithin p
    texts := f.texts.filter fun entry => !entry.1.isWithin p }

/-- The paths of all files and folders below the current folder, in order. -/
def listing (f : Files) : List String :=
  let paths := f.folders ++ f.texts.map Prod.fst
  let below := paths.filter fun p => !p.absolute && p.parts.head? != some ".."
  (below.map Path.text).mergeSort fun a b => a ≤ b

section Lemmas

theorem lookup_filter_ne
    {texts : List (Path × String)} {p q : Path}
    (h : q ≠ p) :
    (texts.filter fun entry => entry.1 != p).lookup q = texts.lookup q := by
  induction texts with
  | nil => rfl
  | cons entry rest ih =>
      obtain ⟨k, text⟩ := entry
      by_cases hk : k = p
      · have hb : (q == k) = false := by simpa [hk] using h
        simp only [List.lookup_cons, hb]
        simpa [hk] using ih
      · by_cases hq : q = k
        · simp [hk, hq]
        · have hb : (q == k) = false := by simpa using hq
          simp [hk, List.lookup_cons, hb, ih]

theorem lookup_filter_self
    (texts : List (Path × String)) (p : Path) :
    (texts.filter fun entry => entry.1 != p).lookup p = none := by
  induction texts with
  | nil => rfl
  | cons entry rest ih =>
      obtain ⟨k, text⟩ := entry
      by_cases hk : k = p
      · simpa [hk] using ih
      · have hb : (p == k) = false := by simpa using Ne.symm hk
        simpa [hk, List.lookup_cons, hb] using ih

theorem lookup_append_singleton
    (texts : List (Path × String)) (p q : Path) (text : String) :
    (texts ++ [(p, text)]).lookup q
      = (texts.lookup q).or (if q = p then some text else none) := by
  induction texts with
  | nil =>
      by_cases h : q = p
      · simp [h]
      · have hb : (q == p) = false := by simpa using h
        simp [List.lookup_cons, hb, h]
  | cons entry rest ih =>
      obtain ⟨k, t⟩ := entry
      by_cases hk : q = k
      · simp [hk]
      · have hb : (q == k) = false := by simpa using hk
        simpa [List.lookup_cons, hb] using ih

/-- What was written is read. -/
@[simp] theorem read?_write_self
    (f : Files) (p : Path) (text : String) :
    (f.write p text).read? p = some text := by
  simp [write, read?, addFolder, erase, lookup_append_singleton, lookup_filter_self]

/-- Writing one text leaves the others. -/
theorem read?_write_of_ne
    (f : Files) {p q : Path} (text : String)
    (h : q ≠ p) :
    (f.write p text).read? q = f.read? q := by
  simp [write, read?, addFolder, erase, lookup_append_singleton, lookup_filter_ne h, h]

end Lemmas

end Files
end Spreadsheet
