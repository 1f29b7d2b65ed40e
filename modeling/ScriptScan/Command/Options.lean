/-! Options on the command line, after the input. -/
namespace ScriptScan

structure Options where
  json : Bool := false
  strict : Bool := false
  config : Option String := none
deriving DecidableEq, Repr, Inhabited

inductive OptionWarning
  | missingConfigPath
  | unknown (argument : String)
deriving DecidableEq, Repr

def OptionWarning.message : OptionWarning → String
  | missingConfigPath => "Warning: --config requires a file path"
  | unknown argument => s!"Warning: Unknown option '{argument}'"

namespace Options

/-- Reads arguments one after another over the options so far. The argument after the
word for a configuration is its path, whatever it looks like. -/
def readFrom (o : Options) : List String → Options × List OptionWarning
  | [] => (o, [])
  | "--json" :: rest => readFrom { o with json := true } rest
  | "--strict" :: rest => readFrom { o with strict := true } rest
  | "--config" :: path :: rest => readFrom { o with config := some path } rest
  | ["--config"] => (o, [.missingConfigPath])
  | argument :: rest =>
    let (o, warnings) := readFrom o rest
    (o, .unknown argument :: warnings)

def read (arguments : List String) : Options × List OptionWarning := readFrom {} arguments

end Options
end ScriptScan
