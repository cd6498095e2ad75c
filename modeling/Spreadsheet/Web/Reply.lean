import Spreadsheet.Session.Performing
import Spreadsheet.Web.Route

/-!
# Replies

What is answered to a web request: the response of the session, why it was
refused, or that nothing answers there in that way.

Results: a request to a path without a route changes nothing
(`answer_of_unknown`).
-/

namespace Spreadsheet

/-- The answer to a web request. -/
inductive Reply where
  | done (response : Response)
  | refused (message : String)
  | unknownPath
  | wrongMethod
  | unacceptable

namespace Reply

/-- The number that tells what kind of answer it is. -/
def status : Reply → Nat
  | .done _ => 200
  | .refused _ => 400
  | .unknownPath => 404
  | .wrongMethod => 405
  | .unacceptable => 422

/-- What the answer brings, if it brings anything. -/
def body? : Reply → Option Json
  | .done response => some response.json
  | .refused message => some (.object [("detail", .text message)])
  | _ => none

end Reply

namespace Session

/-- A request carried out, and its refusal told if the route tells it. -/
def reply (m : Moment) (tellsRefusal : Bool) (request : Request) : Action Reply := fun s =>
  match perform m request s with
  | (.ok response, s) => (.ok (.done response), s)
  | (.error fault, s) =>
      if tellsRefusal && fault.isRefusal then (.ok (.refused fault.wording), s) else (.error fault, s)

/-- What a session answers to a web request. -/
def answer (m : Moment) (method : Method) (incoming : Incoming) : Action Reply :=
  match Route.ofPath incoming.target.path with
  | [] => return .unknownPath
  | routes =>
      match routes.find? (·.method = method) with
      | none => return .wrongMethod
      | some route =>
          match route.request incoming with
          | none => return .unacceptable
          | some request => reply m route.tellsRefusal request

section Lemmas

/-- A request to a path without a route changes nothing. -/
theorem answer_of_unknown
    {m : Moment} {method : Method} {incoming : Incoming} {s : Session}
    (h : Route.ofPath incoming.target.path = []) :
    answer m method incoming s = (.ok .unknownPath, s) := by
  simp only [answer, h]
  rfl

end Lemmas

end Session
end Spreadsheet
