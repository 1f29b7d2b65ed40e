/-! Values of TOML documents. Numbers with a fraction and moments of time are told
apart from other values but not kept. -/
namespace ScriptScan

inductive Toml
  | text (value : String)
  | integer (value : Int)
  | float
  | boolean (value : Bool)
  | moment
  | list (items : List Toml)
  | table (entries : List (String × Toml))
deriving Repr, Inhabited

namespace Toml

def boolean? : Toml → Option Bool
  | boolean b => some b
  | _ => none

def natural? : Toml → Option Nat
  | integer n => if 0 ≤ n then some n.toNat else none
  | _ => none

/-- The name of a choice without contents: a text, or a lone key with an empty value. -/
def choice? : Toml → Option String
  | text name => some name
  | table [(name, list [])] => some name
  | table [(name, table [])] => some name
  | _ => none

/-- What a record has under each of `names`, in their order. A list holds the values
themselves, and a moment is a record with none of the names. -/
def record? (names : List String) : Toml → Option (List (Option Toml))
  | table entries => some (names.map fun name => (entries.find? (·.1 = name)).map (·.2))
  | list items =>
      some ((items.take names.length).map some ++
        List.replicate (names.length - items.length) none)
  | moment => some (names.map fun _ => none)
  | _ => none

/-- Reads a value where one is given, and takes `default` where none is. -/
def orElse? (read : Toml → Option α) (default : α) : Option Toml → Option α
  | some t => read t
  | none => some default

end Toml
end ScriptScan
