/-! JSON values, as far as this library has a use for them: its numbers are natural
numbers. An object keeps its entries in order, and a key may come twice. -/
namespace ScriptScan

inductive Json
  | null
  | bool (value : Bool)
  | nat (value : Nat)
  | text (value : String)
  | list (items : List Json)
  | object (entries : List (String × Json))
  /-- Well written, but without a meaning here: a numeral with sign, fraction or
  exponent, or a text that names half of a surrogate pair. -/
  | foreign
deriving Repr, Inhabited

namespace Json

/-- The name of a choice without contents: a text, or a lone key with null. -/
def choice? : Json → Option String
  | text name => some name
  | object [(name, null)] => some name
  | _ => none

def bool? : Json → Option Bool
  | bool b => some b
  | _ => none

def text? : Json → Option String
  | text s => some s
  | _ => none

/-- A natural number with at most `bits` binary digits. -/
def nat? (bits : Nat) : Json → Option Nat
  | nat n => if n < Nat.pow 2 bits then some n else none
  | _ => none

/-- What a record has under each of `names`, in their order. An object may have
other keys too but none of these twice; a list holds the values themselves, and
those at its end may be missing. -/
def record? (names : List String) : Json → Option (List (Option Json))
  | object entries => names.mapM fun name =>
      match entries.filter (·.1 = name) with
      | [] => some none
      | [(_, value)] => some (some value)
      | _ => none
  | list items =>
      if items.length ≤ names.length then
        some ((items.map some) ++ List.replicate (names.length - items.length) none)
      else none
  | _ => none

/-- Reads a value where one is given, and takes `default` where none is. -/
def orElse? (read : Json → Option α) (default : α) : Option Json → Option α
  | some j => read j
  | none => some default

end Json
end ScriptScan
