import ScriptScan.Config.Document
import ScriptScan.File.Access

/-! Configuration read from a file. -/
namespace ScriptScan

inductive ConfigError
  | unreadable (path message : String)
  | malformed
deriving DecidableEq, Repr

namespace ConfigError

def message : ConfigError → String
  | unreadable path message => s!"Failed to read configuration file {path}: {message}"
  | malformed => "Invalid configuration"

end ConfigError

/-- The configuration in the file at `path`. -/
def RuntimeConfig.load (env : Environment) (path : String) (f : FileAccess) :
    Except ConfigError RuntimeConfig :=
  match f.text with
  | .error fault => .error (.unreadable path fault.message)
  | .ok document =>
    match ofDocument? env document with
    | some config => .ok config
    | none => .error .malformed

end ScriptScan
