import Spreadsheet.Attempt
import Spreadsheet.Document.Opening
import Spreadsheet.EventLog
import Spreadsheet.Files.Access
import Spreadsheet.Sheet.Editing

/-!
# Sessions

Work on the sheet of one document file.  The folder of the document may hold a
settings file, and keeps the event log in a folder of its own.  What happens is
logged as long as that folder is there.

An action on a session may fail, and then the changes that it made before it
failed stay made.

Results: logging touches no file of another name (`read?_log_of_ne`), and saving
makes the document what the sheet stores (`read?_saveSheet`).
-/

namespace Spreadsheet

/-- When something is done: the day, and the text of the time for the log. -/
structure Moment where
  today : Date
  stamp : String

/-- The name of the folder of the event log. -/
def logFolderName : String := "logs"

/-- The name of the file of the event log. -/
def logFileName : String := "events.ndjson"

namespace Files

/-- The folder of the event log of a folder. -/
def logFolder (folder : Path) : Path := folder.child logFolderName

/-- The file of the event log of a folder. -/
def logFile (folder : Path) : Path := (logFolder folder).child logFileName

/-- The files with an event added to the log of a folder.  An event that cannot
be written is not logged. -/
def log (f : Files) (folder : Path) (stamp : String) (e : Event) : Files :=
  match e.line stamp with
  | .ok line => f.append (logFile folder) (line ++ "\n")
  | .error _ => f

/-- The files with events added to the log of a folder, the first one first. -/
def logAll (f : Files) (folder : Path) (stamp : String) (events : List Event) : Files :=
  events.foldl (fun f e => f.log folder stamp e) f

/-- What a query finds in the event log of a folder. -/
def queryLog (f : Files) (folder : Path) (q : EventLog.Query) : Except Fault (List Json) :=
  match f.readIfAny (logFile folder) with
  | .ok text => EventLog.read (text.getD "") EventLog.defaultTail q
  | .error cause => .error (.fileFault cause)

/-- The settings of a folder. -/
def settings (f : Files) (folder : Path) (describe : Path → String) : Except Fault Settings :=
  let file := folder.child Settings.fileName
  match f.readIfAny file with
  | .ok text => Settings.ofFile (describe file) text
  | .error cause => .error (.fileFault cause)

/-- The document at a path, the initial one if nothing is there, and the events
to be logged. -/
def openDocument (f : Files) (p : Path) (strict : Bool) (source : String) :
    Except Fault (Document × List Event) :=
  match f.readIfAny p with
  | .ok (some text) => Document.openText strict (.text source) text
  | .ok none => .ok (Document.initial, [])
  | .error cause => .error (.fileFault cause)

section Lemmas

theorem read?_log_of_ne
    (f : Files) (folder : Path) (stamp : String) (e : Event) {p : Path}
    (h : p.name ≠ logFileName) :
    (f.log folder stamp e).read? p = f.read? p := by
  unfold log
  split
  · exact read?_append_of_ne (by decide) (by decide) (by decide) h
  · rfl

end Lemmas

end Files

/-- Work on the sheet of a document. -/
structure Session where
  files : Files
  document : Path
  sheet : Sheet
  /-- The sheet was changed since it was opened or saved. -/
  dirty : Bool

namespace Session

/-- An action on files that may fail; the changes before that stay. -/
abbrev FileAction (α : Type) := Attempt Fault Files α

/-- An action on a session that may fail; the changes before that stay. -/
abbrev Action (α : Type) := Attempt Fault Session α

/-- The files changed, if that can be. -/
def changeFiles (change : Files → Except FileFault Files) : FileAction Unit := fun f =>
  match change f with
  | .ok g => (.ok (), g)
  | .error cause => (.error (.fileFault cause), f)

/-- A text put into a file to stay. -/
def replaceFile (p : Path) (text : String) : FileAction Unit := fun f =>
  match f.replace p text with
  | (.ok (), g) => (.ok (), g)
  | (.error cause, g) => (.error (.fileFault cause), g)

/-- Events added to the log of a folder. -/
def logEvents (folder : Path) (stamp : String) (events : List Event) : FileAction Unit :=
  modify fun f => f.logAll folder stamp events

/-- The event of an opened document. -/
def loaded (f : Files) (document : Path) (s : Sheet) : Event :=
  .info .documentLoaded ("Loaded " ++ document.name)
    [("path", .text (f.absoluteText document)), ("rows", Json.ofNat s.rowCount),
      ("columns", .number s.columnCount)]

/-- The sheet of a document file, an empty one if there is no such file. -/
def openSheet (m : Moment) (settings : Settings) (document : Path) (strict : Bool) :
    FileAction Sheet := do
  let files ← get
  if !files.finds document then
    Sheet.create settings
  else
    let (d, events) ← files.openDocument document strict (files.absoluteText document)
    logEvents document.around m.stamp events
    let sheet ← Sheet.ofDocument settings d
    logEvents document.around m.stamp [loaded files document sheet]
    return sheet

/-- A session on a document file. -/
def start (m : Moment) (path : Path) (strict : Bool) : FileAction Session := do
  let document := path.resolved
  let folder := document.around
  let files ← get
  let settings ← files.settings folder files.absoluteText
  changeFiles fun f => f.makeFolder (Files.logFolder folder)
  let sheet ← openSheet m settings document strict
  return ⟨← get, document, sheet, false⟩

/-- A session on the document file that is named, if one is. -/
def startAt (m : Moment) (path : Option Path) (strict : Bool) : FileAction Session :=
  match path with
  | some path => start m path strict
  | none => throw (.rejected .missingPath)

/-- The event of a saved sheet. -/
def saved (document : Path) (described : String) : Event :=
  .info .documentSaved ("Saved " ++ document.name) [("path", .text described)]

/-- A sheet saved to a document file; the log of a folder tells of it. -/
def saveSheet (m : Moment) (sheet : Sheet) (document : Path) (described : String)
    (folder : Path) : FileAction Unit := do
  changeFiles fun f => f.makeFolder document.parent
  let text ← sheet.write
  replaceFile document text
  logEvents folder m.stamp [saved document described]

/-- The folder of the document. -/
def folder (s : Session) : Path := s.document.around

/-- The text of the path of the document from the top. -/
def documentText (s : Session) : String := s.files.absoluteText s.document

/-- An action on the files of a session. -/
def onFiles {α : Type} (action : FileAction α) : Action α :=
  fun s =>
    let (result, files) := action s.files
    (result, { s with files := files })

/-- A change of the sheet made, its events logged, and its result. -/
def applyOutcome {α : Type} (m : Moment) (o : Outcome α) : Action α := do
  modify fun s =>
    { s with
      files := s.files.logAll s.folder m.stamp o.events
      sheet := o.sheet }
  return o.result

/-- The sheet marked as changed. -/
def markDirty : Action Unit := modify fun s => { s with dirty := true }

section Lemmas

theorem read?_logAll_of_ne
    {f : Files} {folder p : Path} {stamp : String} {events : List Event}
    (h : p.name ≠ logFileName) :
    (f.logAll folder stamp events).read? p = f.read? p := by
  unfold Files.logAll
  induction events generalizing f with
  | nil => rfl
  | cons e events ih =>
      rw [List.foldl_cons, ih, Files.read?_log_of_ne _ _ _ _ h]

/-- A saved document holds what the sheet stores. -/
theorem read?_saveSheet
    {m : Moment} {sheet : Sheet} {document folder place : Path} {described text : String}
    {f g f' : Files}
    (hfolder : f.makeFolder document.parent = .ok g)
    (hplace : g.locate document = .ok place)
    (hname : place.name ≠ logFileName)
    (htext : sheet.write = .ok text)
    (h : saveSheet m sheet document described folder f = (.ok (), f')) :
    f'.read? place = some text := by
  have hmade : changeFiles (fun f => f.makeFolder document.parent) f = (.ok (), g) := by
    simp [changeFiles, hfolder]
  have hwritten : (liftM sheet.write : FileAction String) g = (.ok text, g) := by
    rw [htext]
    rfl
  unfold saveSheet at h
  rw [Attempt.bind_of_ok hmade, Attempt.bind_of_ok hwritten] at h
  rcases hreplace : g.replace document text with ⟨result, after⟩
  cases result with
  | error cause =>
      have hkept : replaceFile document text g = (.error (.fileFault cause), after) := by
        simp [replaceFile, hreplace]
      rw [Attempt.bind_of_error hkept] at h
      cases congrArg Prod.fst h
  | ok _ =>
      have hkept : replaceFile document text g = (.ok (), after) := by
        simp [replaceFile, hreplace]
      rw [Attempt.bind_of_ok hkept] at h
      have hf : f' = after.logAll folder m.stamp [saved document described] :=
        (congrArg Prod.snd h).symm
      rw [hf, read?_logAll_of_ne hname]
      exact Files.read?_replace hplace hreplace

end Lemmas

end Session
end Spreadsheet
