import ScriptScan.Log.Service

/-! The log of a whole run. Preferences are set at most once, and so is the service
that events go to; before that events are lost. While a file is worked on, its path
is noted in every event. -/
namespace ScriptScan

structure Journal where
  preferences : Option LoggingPreferences := none
  service : Option Service := none
  /-- The path of the file that is worked on. -/
  file : Option String := none
  /-- The lines written to the error stream so far. -/
  console : Array ConsoleLine := #[]
deriving Repr, Inhabited

inductive JournalError
  | preferencesAlreadySet
  | serviceAlreadySet
  | invalidLimits (fault : String)
deriving DecidableEq, Repr

def JournalError.message : JournalError → String
  | preferencesAlreadySet => "Runtime preferences already initialized"
  | serviceAlreadySet => "Global logger already initialized"
  | invalidLimits fault => s!"Configuration validation failed: {fault}"

namespace Journal

def setPreferences (j : Journal) (p : LoggingPreferences) : Except JournalError Journal :=
  match j.preferences with
  | some _ => .error .preferencesAlreadySet
  | none => .ok { j with preferences := some p }

/-- The preferences that were set, or else those of the environment. -/
def effective (j : Journal) (env : Environment) : LoggingPreferences :=
  j.preferences.getD (.default env)

def write (j : Journal) (line : ConsoleLine) : Journal :=
  { j with console := j.console.push line }

/-- Hands an event to the service. -/
def deliver (e : Event) : Journal → Journal
  | ⟨preferences, some service, file, console⟩ =>
    let (line, service) := service.log e
    ⟨preferences, some service, file, match line with
      | some line => console.push line
      | none => console⟩
  | j => j

/-- Notes the file that is worked on. The note replaces a value of the same name. -/
def tag (file : Option String) (e : Event) : Event :=
  match file with
  | some path => e.withField "file" path
  | none => e

/-- Logs an event. -/
def report (j : Journal) (e : Event) : Journal := j.deliver (tag j.file e)

def reportAll (j : Journal) (events : List Event) : Journal := events.foldl report j

def isStarted (j : Journal) : Bool := j.service.isSome

def admits (j : Journal) (l : Level) : Bool := j.service.any (·.admits l)

/-- Starts logging to a service. -/
def startWith (j : Journal) (s : Service) : Except JournalError Journal :=
  match j.service with
  | some _ => .error .serviceAlreadySet
  | none => .ok { j with service := some s }

/-- Starts logging as the preferences ask, if the limits of the build allow it, with an event
to say so. -/
def start (j : Journal) (env : Environment) (limits : Limits := .active) :
    Except JournalError Journal :=
  match limits.loggingFault? with
  | some fault => .error (.invalidLimits fault)
  | none => do
    let j ← j.startWith (.ofPreferences (j.effective env))
    return j.deliver (.success .loggingStarted "Global logging system initialized")

/-- Logs an error without the file, and writes it to the error stream when logging
has not started. -/
def reportSafely (j : Journal) (code : Code) (message : String) : Journal :=
  match j.service with
  | some _ => j.deliver (.error code message)
  | none => j.write (.plain s!"[ERROR] {code.text} - {message}")

def setFile (j : Journal) (path : String) : Journal := { j with file := some path }

def clearFile (j : Journal) : Journal := { j with file := none }

/-- Runs `body` with `path` as the file that is worked on; afterwards there is none. -/
def withFile (j : Journal) (path : String) (body : Journal → α × Journal) : α × Journal :=
  let (result, j) := body (j.setFile path)
  (result, j.clearFile)

/-- The events kept in memory. -/
def events (j : Journal) : Array Event := (j.service.map (·.memory.events)).getD #[]

end Journal

/-- An overview of the settings of logging. -/
def LoggingPreferences.overview (p : LoggingPreferences) : String :=
  s!"Logging Configuration:\n- Log buffer size: {Limits.active.logBufferSize}\n" ++
    s!"- Max message length: {Limits.active.maxMessageLength}\n" ++
    s!"- Min log level: {p.minLevel.title}\n- Structured logging: {p.structured}\n" ++
    s!"- Console logging: {p.console}"

end ScriptScan
