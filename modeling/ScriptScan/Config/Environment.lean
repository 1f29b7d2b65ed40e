import ScriptScan.Log.Level

/-! Settings taken from the environment. A variable that is not set, or set to
something else than its setting allows, leaves the default. -/
namespace ScriptScan

abbrev Environment := List (String × String)

namespace Environment

def get? (env : Environment) (name : String) : Option String :=
  (env.find? (·.1 = name)).map (·.2)

def flag? (env : Environment) (name : String) : Option Bool :=
  match env.get? name with
  | some "true" => some true
  | some "false" => some false
  | _ => none

def flag (env : Environment) (name : String) (default : Bool) : Bool :=
  (env.flag? name).getD default

def level? (env : Environment) (name : String) : Option Level :=
  (env.get? name).bind Level.ofSetting?

end Environment
end ScriptScan
