import ScriptScan.Json.Write
import ScriptScan.Limits
import ScriptScan.Log.Code
import ScriptScan.Log.Fields
import ScriptScan.Log.Level
import ScriptScan.Source.Span

/-! Events of a log: what happened, how important it is, where in the source, and
any named values. An event is written as one plain line or as one JSON object. -/
namespace ScriptScan

structure Event where
  level : Level
  code : Code
  message : String
  span : Option Span := none
  context : Fields := []
deriving DecidableEq, Repr, Inhabited

namespace Event

/-- A new event; its message is cut to the length that the limits allow. -/
def ofLevel (level : Level) (code : Code) (message : String) : Event :=
  { level, code, message := Text.clip Limits.active.maxMessageLength message }

def error (code : Code) (message : String) : Event := ofLevel .error code message

def warning (message : String) : Event := ofLevel .warning .plainWarning message

def warningWithCode (code : Code) (message : String) : Event := ofLevel .warning code message

def info (message : String) : Event := ofLevel .info .plainInfo message

/-- An event of level info with the code of a milestone. -/
def success (code : Code) (message : String) : Event := ofLevel .info code message

def debug (message : String) : Event := ofLevel .debug .plainDebug message

def withSpan (e : Event) (s : Span) : Event := { e with span := some s }

def withField (e : Event) (key value : String) : Event :=
  { e with context := e.context.set key value }

def withFields (e : Event) (pairs : List (String × String)) : Event :=
  { e with context := e.context.setAll pairs }

def category (e : Event) : String := e.code.category

def severity (e : Event) : Severity := e.code.severity

/-- The event on one line of plain text. -/
def line (e : Event) : String :=
  let place := match e.span with
    | some s => s!" at {s.first.line}:{s.first.column}"
    | none => ""
  let context :=
    if e.context.isEmpty then ""
    else " (" ++ ", ".intercalate (e.context.map fun (k, v) => s!"{k}={v}") ++ ")"
  s!"[{e.level.label}] {e.code.text} - {e.message}{place}{context}"

def spanJson (s : Span) : Json :=
  .object [("end_column", .nat s.last.column), ("end_line", .nat s.last.line),
    ("start_column", .nat s.first.column), ("start_line", .nat s.first.line)]

/-- The event as an object with its keys in order. Context and span are left out
when there are none. -/
def toJson (e : Event) (stamp : String) : Json :=
  .object <|
    [("category", .text e.category), ("code", .text e.code.text)] ++
    (if e.context.isEmpty then []
      else [("context", .object (e.context.map fun (k, v) => (k, .text v)))]) ++
    [("level", .text e.level.label), ("message", .text e.message),
      ("severity", .text e.severity.name)] ++
    (match e.span with
      | some s => [("span", spanJson s)]
      | none => []) ++
    [("timestamp", .text stamp)]

/-- The event as JSON on one line, with the text `stamp` for its time. -/
def jsonLine (e : Event) (stamp : String) : String := (e.toJson stamp).compact

end Event
end ScriptScan
