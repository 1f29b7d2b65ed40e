import ScriptScan.Config.Preferences
import ScriptScan.Log.Memory

/-! A logging service passes events of its level to a sink: the error stream, which
has a level of its own, or a log in memory. -/
namespace ScriptScan

/-- A line on its way to the error stream. An event written as JSON gets its time
when it is written. -/
inductive ConsoleLine
  | plain (text : String)
  | stamped (event : Event)
deriving DecidableEq, Repr, Inhabited

def ConsoleLine.text (stamp : String) : ConsoleLine → String
  | plain text => text
  | stamped event => event.jsonLine stamp

inductive Sink
  | console (structured : Bool) (level : Level)
  | memory (log : MemoryLog)
deriving Repr, Inhabited

namespace Sink

/-- Takes an event; a sink on the error stream gives a line for it. -/
def take (e : Event) : Sink → Option ConsoleLine × Sink
  | console structured level =>
    (if level.admits e.level then
      some (if structured then .stamped e else .plain e.line)
    else none, console structured level)
  | memory log => (none, memory (log.add e))

end Sink

structure Service where
  sink : Sink
  minLevel : Level
deriving Repr, Inhabited

namespace Service

/-- The service that preferences ask for. When the console is off, only errors are
logged. -/
def ofPreferences (p : LoggingPreferences) : Service :=
  let level := if p.console then p.minLevel else .error
  ⟨.console p.structured level, level⟩

def setMinLevel (s : Service) (l : Level) : Service := { s with minLevel := l }

def admits (s : Service) (l : Level) : Bool := s.minLevel.admits l

/-- Passes an event on, if its level is admitted. -/
def log (e : Event) : Service → Option ConsoleLine × Service
  | ⟨sink, level⟩ =>
    if level.admits e.level then
      let (line, sink) := sink.take e
      (line, ⟨sink, level⟩)
    else (none, ⟨sink, level⟩)

/-- The events kept in memory. -/
def memory (s : Service) : MemoryLog :=
  match s.sink with
  | .memory log => log
  | .console .. => {}

end Service
end ScriptScan
