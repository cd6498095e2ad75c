import Spreadsheet.Json.Printer

/-!
# Events

What happened to a sheet, for the event log: how grave it is, what kind of
thing it was, a message, and the values that it was about.  An event is stored
as an object on one line, its fields in the order of their names; a number in
it that is not finite is stored as null.

Results: the name of a level and that of a kind read back (`ofName?_name`), and
storing leaves a value without binary numbers as it is
(`withoutNonFinite_ofInt`).
-/

namespace Spreadsheet

/-- How grave an event is. -/
inductive Level where
  | info
  | warning
  | error
deriving DecidableEq, Repr

namespace Level

/-- The name of a level. -/
def name : Level → String
  | .info => "info"
  | .warning => "warning"
  | .error => "error"

/-- The level with a name. -/
def ofName? : String → Option Level
  | "info" => some .info
  | "warning" => some .warning
  | "error" => some .error
  | _ => none

@[simp] theorem ofName?_name
    (l : Level) :
    ofName? l.name = some l := by
  cases l <;> rfl

end Level

/-- What kind of thing happened. -/
inductive EventKind where
  | documentLoaded
  | documentInvalid
  | documentSaved
  | cellCommitted
  | structuralEdit
  | structuralEditRejected
  | sortApplied
  | historyUndo
  | historyRedo
  | exportCompleted
deriving DecidableEq, Repr

namespace EventKind

/-- The name of a kind. -/
def name : EventKind → String
  | .documentLoaded => "document_loaded"
  | .documentInvalid => "document_invalid"
  | .documentSaved => "document_saved"
  | .cellCommitted => "cell_committed"
  | .structuralEdit => "structural_edit"
  | .structuralEditRejected => "structural_edit_rejected"
  | .sortApplied => "sort_applied"
  | .historyUndo => "history_undo"
  | .historyRedo => "history_redo"
  | .exportCompleted => "export_completed"

/-- The kind with a name. -/
def ofName? : String → Option EventKind
  | "document_loaded" => some .documentLoaded
  | "document_invalid" => some .documentInvalid
  | "document_saved" => some .documentSaved
  | "cell_committed" => some .cellCommitted
  | "structural_edit" => some .structuralEdit
  | "structural_edit_rejected" => some .structuralEditRejected
  | "sort_applied" => some .sortApplied
  | "history_undo" => some .historyUndo
  | "history_redo" => some .historyRedo
  | "export_completed" => some .exportCompleted
  | _ => none

@[simp] theorem ofName?_name
    (k : EventKind) :
    ofName? k.name = some k := by
  cases k <;> rfl

end EventKind

/-- Something that happened. -/
structure Event where
  level : Level
  kind : EventKind
  message : String
  /-- The values that the event is about. -/
  context : Json.Fields
  /-- A stable name for the reason of a warning or an error. -/
  code : Option String

namespace Json

mutual

/-- The value with null for every number that is not finite. -/
def withoutNonFinite : Json → Json
  | .number x => if x.isFinite then .number x else .null
  | .array items => .array (withoutNonFiniteItems items)
  | .object fields => .object (withoutNonFiniteFields fields)
  | value => value

/-- The items of an array. -/
def withoutNonFiniteItems : List Json → List Json
  | [] => []
  | item :: rest => withoutNonFinite item :: withoutNonFiniteItems rest

/-- The fields of an object. -/
def withoutNonFiniteFields : List (String × Json) → List (String × Json)
  | [] => []
  | (key, value) :: rest => (key, withoutNonFinite value) :: withoutNonFiniteFields rest

end

@[simp] theorem withoutNonFinite_ofInt
    (i : Int) :
    withoutNonFinite (ofInt i) = ofInt i := by
  simp [ofInt, withoutNonFinite, Number.isFinite]

end Json

namespace Event

/-- An event that tells of a change. -/
def info (kind : EventKind) (message : String) (context : Json.Fields) : Event :=
  ⟨.info, kind, message, context, none⟩

/-- An event that tells why something was not done. -/
def warning (kind : EventKind) (message : String) (context : Json.Fields) (code : String) :
    Event :=
  ⟨.warning, kind, message, context, some code⟩

/-- The version of the stored form. -/
def schemaVersion : Int := 1

/-- The object that stores an event, with the time at which it happened. -/
def record (e : Event) (stamp : String) : Json :=
  .object [("schema_version", Json.ofInt schemaVersion), ("ts", .text stamp),
    ("level", .text e.level.name), ("event_type", .text e.kind.name),
    ("message", .text e.message), ("context", .object e.context),
    ("error_code", Json.ofText? e.code)]

/-- The line that stores an event; none if a number in it cannot be written. -/
def line (e : Event) (stamp : String) : Except Fault String :=
  (e.record stamp).withoutNonFinite.sortKeys.print .line

end Event
end Spreadsheet
