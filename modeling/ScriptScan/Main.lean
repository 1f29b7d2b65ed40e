import ScriptScan.Command.Run
import Std.Time.DateTime.Timestamp

/-! The program. It collects what a run depends on, and writes down what comes of it. -/
namespace ScriptScan.Program

/-- The variables that preferences look at. -/
def variableNames : List String :=
  ["SCRIPT_LEXER_REPORT_UNRECOGNIZED", "SCRIPT_LEXER_LOG_UNRECOGNIZED",
   "SCRIPT_LEXER_DETAILED_METRICS", "SCRIPT_LEXER_INCLUDE_POSITIONS",
   "SCRIPT_LEXER_REJECT_EMPTY_FILES", "SCRIPT_LEXER_PERFORMANCE_LOGGING",
   "SCRIPT_LEXER_LOGGING_USE_STRUCTURED", "SCRIPT_LEXER_LOGGING_ENABLE_CONSOLE",
   "SCRIPT_LEXER_LOGGING_MIN_LEVEL"]

def readEnvironment : IO Environment :=
  variableNames.filterMapM fun name => do return (← IO.getEnv name).map (name, ·)

def systemFault : IO.Error → SystemFault
  | .noFileOrDirectory .. => .missing
  | .inappropriateType _ 21 _ => .isDirectory
  | .inappropriateType .. => .notDirectory
  | .permissionDenied .. => ⟨.permissionDenied, "Permission denied (os error 13)"⟩
  | e => ⟨.other, toString e⟩

def attempted (r : Except IO.Error α) : Except SystemFault α := r.mapError systemFault

/-- Asks the system about a path. -/
def fileAccess (path : String) : IO FileAccess := do
  let canonical ← (IO.FS.realPath path).toBaseIO
  let bytes ← (IO.FS.readBinFile path).toBaseIO
  let content := attempted bytes
  return {
    found := canonical.toOption.isSome
    isFile := match bytes with
      | .error (.inappropriateType ..) => false
      | _ => true
    canonical := (attempted canonical).map toString
    size := content.map ByteArray.size
    content
    modified := none }

/-- Reads on until a stream ends or has given enough. -/
partial def readStream (input : IO.FS.Stream) (seen : ByteArray) : IO Stream := do
  match ← (input.read 65536).toBaseIO with
  | .error e => return ⟨seen, some (systemFault e)⟩
  | .ok bytes =>
    let seen := seen ++ bytes
    if bytes.isEmpty || Limits.active.maxFileSize < seen.size then return ⟨seen, none⟩
    else readStream input seen

def now : IO Timestamp := do
  let time := (← Std.Time.Timestamp.now).toNanosecondsSinceUnixEpoch.val
  return ⟨time / 1000000000, (time % 1000000000).toNat⟩

/-- The answers for the paths that the arguments name. -/
def namedFiles (arguments : List String) : IO (List (String × FileAccess)) := do
  let paths := match arguments with
    | [] => []
    | input :: rest => (if input = "-" then [] else [input]) ++ (Options.read rest).1.config.toList
  paths.mapM fun path => return (path, ← fileAccess path)

def unknownFile : FileAccess :=
  { found := false, isFile := false, canonical := .error .missing, size := .error .missing
    content := .error .missing, modified := none }

def run (arguments : List String) : IO UInt32 := do
  let begun ← IO.monoNanosNow
  let files ← namedFiles arguments
  let standardInput ←
    if arguments.head? = some "-" then readStream (← IO.getStdin) .empty else pure ⟨.empty, none⟩
  let elapsed := (← IO.monoNanosNow) - begun
  let outcome := Command.run {
    program := "script_lexer"
    arguments
    environment := ← readEnvironment
    standardInput
    access := fun path => (files.lookup path).getD unknownFile
    timing := .ofDuration ⟨elapsed / 1000000000, elapsed % 1000000000⟩ }
  IO.print outcome.output
  for line in outcome.errors do
    IO.eprintln (line.text (← now).text)
  return outcome.status.toUInt32

end ScriptScan.Program

def main (arguments : List String) : IO UInt32 := ScriptScan.Program.run arguments
