import ScriptScan.Analysis
import ScriptScan.Command.Options
import ScriptScan.Config.Load
import ScriptScan.File.Load
import ScriptScan.Source.Map
import ScriptScan.Text.Quoted
import ScriptScan.Token.Json

/-! A run of the command line: the input is loaded and scanned, tokens go to standard
output, and diagnostics and log lines to standard error. -/
namespace ScriptScan

/-- All that a run depends on. -/
structure Invocation where
  program : String
  arguments : List String
  environment : Environment
  standardInput : Stream
  /-- What the system says of any path. -/
  access : String → FileAccess
  timing : Timing

structure Outcome where
  status : Nat
  output : String := ""
  errors : Array ConsoleLine := #[]
deriving Repr

namespace Command

def usage (program : String) : List String :=
  [s!"Usage: {program} <input|-> [options]", s!"       {program} --help"]

def help (program : String) : List String :=
  ["Script Lexer v0.1.0",
   "DFA tokenizer for the scripting language",
   "",
   "USAGE:",
   s!"    {program} <input> [options]",
   s!"    {program} - [options]          # Read from stdin",
   "",
   "OPTIONS:",
   "    --help              Show this help message",
   "    --json              Print tokens as a JSON array",
   "    --strict            Exit with status 1 on any unrecognized character",
   "    --config FILE       Load runtime preferences from a TOML file",
   "",
   "OUTPUT:",
   "    One token per line as KIND<tab>TEXT on stdout",
   "    Diagnostics with source context on stderr",
   "",
   s!"BUILD CONFIGURATION: {Limits.origin}"]

def unlines (lines : List String) : String := lines.foldl (fun out l => out ++ l ++ "\n") ""

/-- A fault in the configuration, as the last line of a run that ends with it. -/
def configFault : ConfigError → String
  | .unreadable path message =>
    s!"Error: Io \x7b path: {Text.quotedText path}, message: {Text.quotedText message} \x7d"
  | .malformed => "Error: Parse(...)"

/-- The configuration that the options ask for. -/
def configuration (i : Invocation) (o : Options) : Except ConfigError RuntimeConfig :=
  match o.config with
  | some path => RuntimeConfig.load i.environment path (i.access path)
  | none => .ok (.default i.environment)

def load (i : Invocation) (p : FilePreferences) (input : String) :
    Except FileError Loaded × List Event :=
  if input = "-" then Loader.loadStream p i.timing "<stdin>" i.standardInput
  else Loader.loadFile p i.timing input (i.access input)

/-- Analyses a loaded source. A strict run reports dropped characters whatever the
preferences say, and fails if there are any. -/
def analyze (p : LexicalPreferences) (j : Journal) (l : Loaded) (strict : Bool) :
    (Scan × Bool) × Journal :=
  let p := if strict then { p with reportUnrecognized := true } else p
  let a : Analyzer := { preferences := p }
  let (scan, _, j) := a.analyzeFile j l.path l.size l.lines l.source
  ((scan, strict && scan.hasDiagnostics), j)

/-- The tokens on standard output, one on a line or as one JSON list. -/
def tokenText (json : Bool) (tokens : Array Token) : String :=
  if json then (Json.list (tokens.toList.map Token.toJson)).indented ++ "\n"
  else tokens.foldl (fun out t => out ++ t.line ++ "\n") ""

/-- The diagnostics under the lines of their source, and their number. -/
def diagnosticText (l : Loaded) (s : Scan) : String :=
  if s.hasDiagnostics then
    let map := SourceMap.ofText l.source
    let details := s.diagnostics.foldl (fun out d => out ++ map.annotate d.span d.message) ""
    let more :=
      if 0 < s.suppressed then s!"... {s.suppressed} more diagnostics suppressed\n" else ""
    let total := s.diagnostics.size + s.suppressed
    details ++ more ++ s!"{l.path}: {total} unrecognized character(s)"
  else ""

/-- The part of a run after its configuration. -/
def process (i : Invocation) (input : String) (o : Options) (c : RuntimeConfig) (j : Journal) :
    Outcome :=
  let (loaded, events) := load i c.file input
  let j := j.reportAll events
  match loaded with
  | .error e => { status := 1, errors := j.console.push (.plain s!"error: {e.message}") }
  | .ok l =>
    let ((scan, failed), j) := analyze c.lexical j l o.strict
    let errors :=
      if scan.hasDiagnostics then j.console.push (.plain (diagnosticText l scan)) else j.console
    { status := if failed then 1 else 0, output := tokenText o.json scan.tokens, errors }

def run (i : Invocation) : Outcome :=
  match i.arguments with
  | [] => { status := 1, errors := ((usage i.program).map .plain).toArray }
  | "--help" :: _ => { status := 0, output := unlines (help i.program) }
  | input :: rest =>
    let (o, warnings) := Options.read rest
    let lines : Array ConsoleLine := (warnings.map fun w => .plain w.message).toArray
    match configuration i o with
    | .error e => { status := 1, errors := lines.push (.plain (configFault e)) }
    | .ok c =>
      let j : Journal := { console := lines }
      match (j.setPreferences c.logging).bind (·.start i.environment) with
      | .error e => { status := 1, errors := lines.push (.plain s!"Error: {e.message}") }
      | .ok j => process i input o c j

end Command
end ScriptScan
