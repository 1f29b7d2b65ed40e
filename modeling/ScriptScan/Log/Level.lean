/-! How important an event is. A threshold lets through its own level and all that
are more important. -/
namespace ScriptScan

inductive Level
  | error | warning | info | debug
deriving DecidableEq, Repr, Inhabited

namespace Level

def all : List Level := [error, warning, info, debug]

/-- The most important comes first. -/
def rank : Level → Nat
  | error => 0
  | warning => 1
  | info => 2
  | debug => 3

def compare (a b : Level) : Ordering := Ord.compare a.rank b.rank

/-- Whether an event of level `l` passes the threshold. -/
def admits (threshold l : Level) : Bool := l.rank ≤ threshold.rank

/-- The mark of a level in log lines. -/
def label : Level → String
  | error => "ERROR"
  | warning => "WARN"
  | info => "INFO"
  | debug => "DEBUG"

/-- The name of a level in configuration files. -/
def name : Level → String
  | error => "error"
  | warning => "warning"
  | info => "info"
  | debug => "debug"

def title : Level → String
  | error => "Error"
  | warning => "Warning"
  | info => "Info"
  | debug => "Debug"

def ofName? (name : String) : Option Level := all.find? (·.name = name)

theorem ofName?_name (l : Level) : ofName? l.name = some l := by cases l <;> decide

theorem ofName?_eq_some_iff {name : String} {l : Level} :
    ofName? name = some l ↔ name = l.name := by
  constructor
  · intro found
    exact (of_decide_eq_true (List.find?_some found :)).symm
  · rintro rfl
    exact l.ofName?_name

/-- The level that a variable of the environment asks for, in any letter case. None of the
texts has a `k`, the one letter that is the lower case of a letter outside ASCII too. -/
def ofSetting? (setting : String) : Option Level :=
  match setting.map Char.toLower with
  | "error" | "0" => some error
  | "warning" | "warn" | "1" => some warning
  | "info" | "2" => some info
  | "debug" | "3" => some debug
  | _ => none

end Level
end ScriptScan
