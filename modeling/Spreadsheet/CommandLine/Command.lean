import Spreadsheet.CommandLine.Arguments
import Spreadsheet.EventLog
import Spreadsheet.Session.Request

/-!
# Commands

What the program can be told to do on a command line.  A line that tells it
nothing of that kind is misused.

Results: a command needs its name first (`ofLine?_nil`), and one that is asked
for help does nothing else (`read?_of_help`).
-/

namespace Spreadsheet

/-- Something to be done. -/
inductive Command where
  | version
  | help
  | new (path : String) (withSettings : Bool)
  /-- The sheet as a table, of what was typed in if `raw`. -/
  | table (path : String) (raw : Bool)
  | stored (path : String)
  | set (path label value : String)
  | evaluate (path formula : String)
  | exportText (path : String) (output delimiter : Option String)
  | freeze (path : String) (rows cols : Option Int)
  | change (path : String) (request : Except Fault Request)
  | serve (path host : String) (port : Option Int)
  | events (folder : String) (query : EventLog.Query)

namespace Command

/-- The path that has to be there before anything is done. -/
def neededPath? : Command → Option String
  | .table path _ | .stored path | .evaluate path _ | .exportText path _ _ | .freeze path _ _
  | .change path _ | .events path _ => some path
  | _ => none

/-- An option without a value. -/
def flag (name : String) : OptionForm := ⟨name, name, none, false⟩

/-- An option with a value. -/
def valued (name : String) : OptionForm := ⟨name, name, none, true⟩

/-- What a command is called, the options that it knows, and what it does with
what it is given. -/
structure Form where
  name : String
  options : List OptionForm
  build : Arguments → Option Command

/-- How many events a command shows unless something else is asked. -/
def shownEvents : Int := 100

/-- The command for a new document. -/
def buildNew (a : Arguments) : Option Command :=
  match a.values with
  | [path] => some (.new path (a.has "with-config"))
  | _ => none

/-- The command for showing a document. -/
def buildShow (a : Arguments) : Option Command :=
  match a.values with
  | [path] => some (if a.has "json" then .stored path else .table path (a.has "raw"))
  | _ => none

/-- The command for typing into a cell. -/
def buildSet (a : Arguments) : Option Command :=
  match a.values with
  | [path, label, value] => some (.set path label value)
  | _ => none

/-- The command for the value of a formula. -/
def buildEvaluate (a : Arguments) : Option Command :=
  match a.values with
  | [path, formula] => some (.evaluate path formula)
  | _ => none

/-- The command for delimited text. -/
def buildExport (a : Arguments) : Option Command :=
  match a.values with
  | [path] => some (.exportText path (a.option? "output") (a.option? "delimiter"))
  | _ => none

/-- The command for sorting. -/
def buildSort (a : Arguments) : Option Command :=
  match a.values with
  | [path, column] => some (.change path (.ok (.sort (.label column) (!a.has "desc"))))
  | _ => none

/-- The command for a change of a row, which is counted from one. -/
def buildRow (request : Int → Request) (a : Arguments) : Option Command :=
  match a.values with
  | [path, row] => (Arguments.number? row).map fun i => .change path (.ok (request (i - 1)))
  | _ => none

/-- The command for a change of a column. -/
def buildColumn (request : Int → Request) (a : Arguments) : Option Command :=
  match a.values with
  | [path, column] => some (.change path ((ColumnName.ofLabel column).map request))
  | _ => none

/-- The command for the width of a column. -/
def buildResize (a : Arguments) : Option Command :=
  match a.values with
  | [path, column, width] =>
      (Arguments.number? width).map fun width =>
        .change path ((ColumnName.ofLabel column).map fun col => .resizeColumn col (.int width))
  | _ => none

/-- The command for frozen rows and columns. -/
def buildFreeze (a : Arguments) : Option Command := do
  let rows ← a.optionNumber? "rows"
  let cols ← a.optionNumber? "columns"
  match a.values with
  | [path] => some (.freeze path rows cols)
  | _ => none

/-- The command for answering web requests. -/
def buildServe (a : Arguments) : Option Command := do
  let port ← a.optionNumber? "port"
  match a.values with
  | [path] => some (.serve path ((a.option? "host").getD "127.0.0.1") port)
  | _ => none

/-- The command for the event log. -/
def buildEvents (a : Arguments) : Option Command := do
  let limit ← a.optionNumber? "limit"
  let level ←
    match a.option? "level" with
    | none => some ""
    | some name => (Level.ofName? name).map Level.name
  match a.values with
  | [folder] => some (.events folder ⟨level, (a.option? "type").getD "", limit.getD shownEvents⟩)
  | _ => none

/-- All commands that work on files. -/
def forms : List Form :=
  [
    ⟨"new", [flag "with-config"], buildNew⟩,
    ⟨"show", [flag "raw", flag "json"], buildShow⟩,
    ⟨"set", [], buildSet⟩,
    ⟨"eval", [], buildEvaluate⟩,
    ⟨"export", [⟨"output", "output", some 'o', true⟩, valued "delimiter"], buildExport⟩,
    ⟨"sort", [flag "desc"], buildSort⟩,
    ⟨"insert-row", [], buildRow .insertRow⟩,
    ⟨"delete-row", [], buildRow .deleteRow⟩,
    ⟨"insert-col", [], buildColumn .insertColumn⟩,
    ⟨"delete-col", [], buildColumn .deleteColumn⟩,
    ⟨"resize-col", [], buildResize⟩,
    ⟨"freeze", [valued "rows", valued "columns"], buildFreeze⟩,
    ⟨"ui", [valued "host", valued "port"], buildServe⟩,
    ⟨"events", [valued "level", valued "type", valued "limit"], buildEvents⟩]

/-- The option that every command knows. -/
def helpOption : OptionForm := flag "help"

/-- The command that a form makes of a line of arguments. -/
def Form.read? (form : Form) (line : List String) : Option Command := do
  let a ← Arguments.read? (helpOption :: form.options) line
  if a.has "help" then
    return .help
  else
    form.build a

/-- The command of a line that starts with its name. -/
def ofNamed? : List String → Option Command
  | [] => none
  | name :: rest => (forms.find? (·.name = name)).bind fun form => form.read? rest

/-- What an option before the name of a command asks for. -/
def ofLeading? (option : String) : Option Command :=
  if option = "--version" then some .version
  else if option = "--help" then some .help
  else none

/-- The command of a line, if options stand before its name; the first one
counts. -/
def ofLine? : List String → Option Command
  | [] => none
  | "--" :: line => ofNamed? line
  | arg :: line =>
      if Arguments.isOption arg then do
        let asked ← ofLeading? arg
        let others := (line.takeWhile fun arg => Arguments.isOption arg && arg != "--")
        if others.all fun arg => (ofLeading? arg).isSome then return asked else none
      else
        ofNamed? (arg :: line)

/-- What the program says about itself. -/
def versionText : String := "sheetcalc, version 0.1.0\n"

/-- What the program says about its use. -/
def helpText : String :=
  "Usage: sheetcalc [OPTIONS] COMMAND [ARGS]...\n\nCommands:\n" ++
    String.join (forms.map fun form => "  " ++ form.name ++ "\n")

section Lemmas

theorem ofLine?_nil :
    ofLine? [] = none := rfl

/-- A command that is asked for help does nothing else. -/
theorem read?_of_help
    {form : Form} {line : List String} {a : Arguments}
    (hread : Arguments.read? (helpOption :: form.options) line = some a)
    (hhelp : a.has "help" = true) :
    form.read? line = some .help := by
  simp [Form.read?, hread, hhelp]

end Lemmas

end Command
end Spreadsheet
