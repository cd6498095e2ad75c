import Spreadsheet.Document.Reader
import Spreadsheet.Event

/-!
# Opening documents

A text is opened strictly, and then must store a document, or leniently, and
then the initial document stands in for a malformed one and a warning says so.

Results: opening a document gives that document without a warning
(`openText_of_parse`), and opening strictly is reading (`openText_strict`).
-/

namespace Spreadsheet

namespace DocumentFault

/-- The code of a malformed document in the event log. -/
def code : DocumentFault → String
  | .malformed => "document_parse_failed"
  | .shape => "document_shape_invalid"

/-- What a warning says about a malformed document. -/
def warningText : DocumentFault → String
  | .malformed => "Document is not valid JSON, using default"
  | .shape => "Document shape is invalid, using default"

/-- The warning about a malformed document and where it came from. -/
def warning (cause : DocumentFault) (source : Json) : Event :=
  .warning .documentInvalid cause.warningText [("source", source)] cause.code

end DocumentFault

namespace Document

/-- The document that a text stores, and the events to be logged. -/
def openText (strict : Bool) (source : Json) (text : String) :
    Except Fault (Document × List Event) :=
  if strict then do
    return (← parse text, [])
  else do
    let (document, cause) ← readLenient text
    return (document, (cause.map fun cause => cause.warning source).toList)

section Lemmas

theorem openText_strict
    (source : Json) (text : String) :
    openText true source text = (parse text).map fun d => (d, []) := by
  cases h : parse text <;> simp [openText, h, bind, Except.bind, pure, Except.pure, Except.map]

theorem openText_of_parse
    {text : String} {d : Document}
    (strict : Bool) (source : Json)
    (h : parse text = .ok d) :
    openText strict source text = .ok (d, []) := by
  cases strict <;>
    simp [openText, h, readLenient_of_parse h, bind, Except.bind, pure, Except.pure]

end Lemmas

end Document
end Spreadsheet
