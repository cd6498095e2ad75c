import Spreadsheet.CommandLine.Running
import Std.Time.Format

/-!
# The program

Runs the command of its line on the files that there are: those which the
command may look at are read, the command does its work on them, and what it
changed is written back.
-/

namespace Spreadsheet
namespace Program

/-- What belongs to a document or a log in a folder. -/
def belongings (folder : Path) : List Path :=
  [folder, folder.child Settings.fileName, Files.logFolder folder, Files.logFile folder]

/-- The places that a command may look at: what its arguments name, taken as
paths, the folders on the way there, and what belongs to a document or a log
there. -/
def places (line : List String) : List Path :=
  (line.flatMap fun arg =>
    let p := Path.ofText arg
    let q := p.resolved
    p.steps ++ [p.withEnding ".tmp"] ++ belongings p ++ belongings p.parent
      ++ belongings q.around).map Path.resolved |>.eraseDups

/-- The files with what is there at a place. -/
def load (f : Files) (p : Path) : IO Files := do
  try
    return f.write p (← IO.FS.readFile p.text)
  catch _ =>
    try
      if ← (← IO.FS.realPath p.text).isDir then
        return f.addFolder p
      else
        return f
    catch _ =>
      return f

/-- Writes back what was changed. -/
def store (before after : Files) : IO Unit := do
  for folder in after.folders do
    if !before.hasFolder folder then
      IO.FS.createDirAll folder.text
  for (p, text) in after.texts do
    if before.read? p != some text then
      IO.FS.writeFile p.text text
  for (p, _) in before.texts do
    if (after.read? p).isNone then
      IO.FS.removeFile p.text

/-- The present day and time. -/
def now : IO Moment := do
  let stamp := Std.Time.DateTime.ofTimestampWithZone (← Std.Time.Timestamp.now) Std.Time.TimeZone.UTC
  let day ← Std.Time.PlainDate.now
  match Date.ofParts? day.year.toInt.toNat day.month.val.toNat day.day.val.toNat with
  | some today =>
      return ⟨today, stamp.toPlainDateTime.format "uuuu-MM-dd'T'HH:mm:ss.SSSSSS'Z'"⟩
  | none => throw (IO.userError "the calendar does not go that far")

/-- Runs a command line and gives the number to end with. -/
def run (line : List String) : IO UInt32 := do
  let root := (← IO.currentDir).toString
  let before ← (places line).foldlM load (Files.empty root)
  let (result, after) := Command.run (← now) line before
  store before after
  match result with
  | .ok output =>
      IO.print output
      return 0
  | .error stop =>
      match stop with
      | .misused => IO.eprint Command.helpText
      | .refused message => IO.eprint (Stop.refusalText message)
      | .failed fault => IO.eprint (Stop.refusalText fault.wording)
      return stop.exitCode.toUInt32

end Program
end Spreadsheet

def main (line : List String) : IO UInt32 :=
  Spreadsheet.Program.run line
