import ScriptScan.Log.Journal

/-! Requests to log something, as the parts of the program make them. A request is told by one
event, if logging has started and admits the level. -/
namespace ScriptScan

/-- What is to be logged. Named values come in the order in which they are set. A warning may
go without a code, and only an error has a place in the source. -/
inductive LogRequest
  | error (code : Code) (message : String) (span : Option Span) (fields : List (String × String))
  | warning (code : Option Code) (message : String) (fields : List (String × String))
  | success (code : Code) (message : String) (fields : List (String × String))
  | info (message : String) (fields : List (String × String))
  | debug (message : String) (fields : List (String × String))
deriving DecidableEq, Repr

namespace LogRequest

/-- The event before its values are set. -/
def event : LogRequest → Event
  | error code message none _ => .error code message
  | error code message (some s) _ => (Event.error code message).withSpan s
  | warning none message _ => .warning message
  | warning (some code) message _ => .warningWithCode code message
  | success code message _ => .success code message
  | info message _ => .info message
  | debug message _ => .debug message

def fields : LogRequest → List (String × String)
  | error _ _ _ fields | warning _ _ fields | success _ _ fields | info _ fields
  | debug _ fields => fields

end LogRequest

/-- Logs what is requested. Values are not even set for an event that would get nowhere. -/
def Journal.log (j : Journal) (r : LogRequest) : Journal :=
  if j.admits r.event.level then j.report (r.event.withFields r.fields) else j

end ScriptScan
