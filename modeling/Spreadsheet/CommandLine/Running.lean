import Spreadsheet.CommandLine.Command
import Spreadsheet.CommandLine.Table
import Spreadsheet.Session.Performing

/-!
# Running commands

What each command does to the files, and what it prints.  A command stops when
it was misused, when something that it was given is refused, or when something
fails on the way; what was done to the files before that stays.

Results: a line that names no command is misused and changes nothing
(`run_of_misused`), and so is a command whose file is not there
(`runCommand_of_missing`).
-/

namespace Spreadsheet

/-- Why a command stopped before it was done. -/
inductive Stop where
  | misused
  | refused (message : String)
  | failed (fault : Fault)

namespace Stop

/-- The stop for a fault, which is told in words if it is a refusal. -/
def ofFault (fault : Fault) : Stop :=
  if fault.isRefusal then .refused fault.wording else .failed fault

/-- The stop for a fault of the settings of a new document: what is no mapping is
refused, and all else fails. -/
def ofSettingsFault : Fault → Stop
  | .notAMapping file found => .refused (Fault.notAMapping file found).wording
  | fault => .failed fault

/-- The number with which the program ends. -/
def exitCode : Stop → Nat
  | .misused => 2
  | .refused _ | .failed _ => 1

/-- How a refusal is told. -/
def refusalText (message : String) : String :=
  "Error: " ++ message ++ "\n"

end Stop

namespace Command

/-- A command at work on files. -/
abbrev Run (α : Type) := Attempt Stop Files α

/-- An action on files whose faults stop the command as `stop` says. -/
def within {α : Type} (stop : Fault → Stop) (action : Session.FileAction α) : Run α := fun f =>
  match action f with
  | (.ok a, f) => (.ok a, f)
  | (.error fault, f) => (.error (stop fault), f)

/-- The files changed; where that cannot be the command fails. -/
def changeFiles (change : Files → Except FileFault Files) : Run Unit :=
  within .failed (Session.changeFiles change)

/-- An action on a session as one on files, with the session after it. -/
def onSession {α : Type} (s : Session) (action : Session.Action α) :
    Session.FileAction (α × Session) := fun _ =>
  match action s with
  | (.ok a, s) => (.ok (a, s), s.files)
  | (.error fault, s) => (.error fault, s.files)

/-- A value whose fault stops the command as `stop` says. -/
def value {α : Type} (stop : Fault → Stop) : Except Fault α → Run α
  | .ok a => return a
  | .error fault => throw (stop fault)

/-- The session on a document. -/
def openDocument (m : Moment) (path : String) : Run Session :=
  within .ofFault (Session.start m (Path.ofText path) false)

/-- The session saved. -/
def saveSession (m : Moment) (s : Session) : Run Session := do
  let ((), s) ← within .failed (onSession s (Session.save m))
  return s

/-- The size of a sheet in words. -/
def sizeText (s : Sheet) : Except Fault String := do
  return s.rowCount.repr ++ " rows x " ++ (← s.columnCount.standard) ++ " columns"

/-- A new document, and a settings file if it is asked for. -/
def runNew (m : Moment) (path : String) (withSettings : Bool) : Run String := do
  let target := Path.ofText path
  let folder := target.parent
  if (← get).finds target then
    throw (.refused (target.text ++ " already exists"))
  changeFiles fun f => f.makeFolder folder
  let file := folder.child Settings.fileName
  if withSettings && !(← get).finds file then
    changeFiles fun f => f.writeText file Settings.template
  let settings ← value .ofSettingsFault ((← get).settings folder Path.text)
  changeFiles fun f => f.makeFolder (Files.logFolder folder)
  let sheet ← value .failed (Sheet.create settings)
  within .failed (Session.saveSheet m sheet target target.text folder)
  return "Created " ++ target.text ++ " (" ++ (← value .failed (sizeText sheet)) ++ ")\n"

/-- The object that stores the sheet of a document. -/
def runStored (m : Moment) (path : String) : Run String := do
  let s ← openDocument m path
  let record ← value .failed s.sheet.record
  return (← value .failed (record.print .shown)) ++ "\n"

/-- The table of a document. -/
def runTable (m : Moment) (path : String) (raw : Bool) : Run String := do
  let s ← openDocument m path
  value .failed (Table.ofSheet s.sheet m.today raw)

/-- A text typed into a cell of a document. -/
def runSet (m : Moment) (path label raw : String) : Run String := do
  let s ← openDocument m path
  let edits := [CellEdit.ofTexts label (some raw)]
  let ((refused, cells), s) ← within .failed (onSession s (Session.update m edits))
  if let label :: _ := refused then
    throw (.refused (Rejection.message (.address label)))
  let _ ← saveSession m s
  return String.join (cells.map fun entry => entry.label ++ " = " ++ entry.display ++ "\n")

/-- The value of a formula on a document. -/
def runEvaluate (m : Moment) (path formula : String) : Run String := do
  let s ← openDocument m path
  let result := s.sheet.evaluate m.today (Session.formulaText formula)
  return (← value .failed (displayValue result none s.sheet.settings.currencySymbol)) ++ "\n"

/-- A document as delimited text, printed or written to a file. -/
def runExport (m : Moment) (path : String) (output delimiter : Option String) : Run String := do
  let s ← openDocument m path
  let (text, _) ← within .ofFault (onSession s (Session.exportText m delimiter))
  match output with
  | none => return text ++ "\n"
  | some output =>
      changeFiles fun f => f.writeText (Path.ofText output) (text ++ "\n")
      return "Exported to " ++ output ++ "\n"

/-- A change of a document. -/
def runChange (m : Moment) (path : String) (request : Except Fault Request) : Run String := do
  let s ← openDocument m path
  let request ← value .ofFault request
  let (_, s) ← within .ofFault (onSession s (Session.perform m request))
  let s ← saveSession m s
  return (← value .failed (sizeText s.sheet)) ++ "\n"

/-- The port for web requests unless something else is asked. -/
def usualPort : Int := 8000

/-- What is told of the address for web requests. -/
def runServe (m : Moment) (path host : String) (port : Option Int) : Run String := do
  let _ ← openDocument m path
  return "Serving API at http://" ++ host ++ ":" ++ (port.getD usualPort).repr ++ "/api/sheet\n"
    ++ "Press Ctrl+C to stop\n"

/-- The value of a field, the empty text if it is not there. -/
def fieldOf (fields : Json.Fields) (name : String) : Json :=
  (Json.getField? fields name).getD (.text "")

/-- The line that tells of a stored event. -/
def eventLine : Json → Except Fault String
  | .object fields => do
      let level ←
        match fieldOf fields "level" with
        | .text level => pure (String.ofList (Table.padded 7 (Text.upper level.toList)))
        | _ => throw .notARecord
      let stamp ← (fieldOf fields "ts").worded
      let kind ← (fieldOf fields "event_type").worded
      let message ← (fieldOf fields "message").worded
      let code := fieldOf fields "error_code"
      let reason ← if code.isFalsy then pure "" else do pure ("  (" ++ (← code.worded) ++ ")")
      return "[" ++ stamp ++ "] " ++ level ++ " " ++ kind ++ ": " ++ message ++ reason ++ "\n"
  | _ => .error .notARecord

/-- The latest events of a folder. -/
def runEvents (folder : String) (query : EventLog.Query) : Run String := do
  let p := Path.ofText folder
  changeFiles fun f => f.makeFolder (Files.logFolder p)
  let found ← value .failed ((← get).queryLog p query)
  if found.isEmpty then
    return "No events found.\n"
  else
    return String.join (← value .failed (found.mapM eventLine))

/-- What a command does. -/
def runCommand (m : Moment) (c : Command) : Run String := do
  if let some path := c.neededPath? then
    if !(← get).findsText path then
      throw .misused
  match c with
  | .version => return versionText
  | .help => return helpText
  | .new path withSettings => runNew m path withSettings
  | .table path raw => runTable m path raw
  | .stored path => runStored m path
  | .set path label raw => runSet m path label raw
  | .evaluate path formula => runEvaluate m path formula
  | .exportText path output delimiter => runExport m path output delimiter
  | .freeze _ none none => throw (.refused "Give --rows and/or --columns")
  | .freeze path rows cols => runChange m path (.ok (.freeze (rows.map .int) (cols.map .int)))
  | .change path request => runChange m path request
  | .serve path host port => runServe m path host port
  | .events folder query => runEvents folder query

/-- What the program does for the arguments of its command line. -/
def run (m : Moment) (line : List String) : Run String :=
  match ofLine? line with
  | none => throw .misused
  | some c => runCommand m c

section Lemmas

/-- A line that names no command changes nothing. -/
theorem run_of_misused
    {m : Moment} {line : List String} {f : Files}
    (h : ofLine? line = none) :
    run m line f = (.error .misused, f) := by
  simp only [run, h]
  rfl

/-- A command whose file is not there changes nothing. -/
theorem runCommand_of_missing
    {m : Moment} {c : Command} {path : String} {f : Files}
    (hpath : c.neededPath? = some path)
    (hmissing : f.findsText path = false) :
    runCommand m c f = (.error .misused, f) := by
  have hfiles : (get : Run Files) f = (.ok f, f) := rfl
  have hstop : (throw Stop.misused : Run Unit) f = (.error .misused, f) := rfl
  unfold runCommand
  simp only [hpath]
  rw [Attempt.bind_of_ok hfiles]
  simp only [hmissing]
  exact Attempt.bind_of_error hstop

end Lemmas

end Command
end Spreadsheet
