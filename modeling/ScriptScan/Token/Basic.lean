/-! Tokens of the scripting language: a kind and the exact text that has it. -/
namespace ScriptScan

inductive Kind
  /-- A letter and any letters and digits after it, other than a keyword. -/
  | identifier
  /-- Decimal digits. -/
  | integer
  /-- The keyword of the integer type. -/
  | intKeyword
  | assign
  | greater
  | greaterEqual
deriving DecidableEq, Repr, Inhabited

namespace Kind

def all : List Kind := [identifier, integer, intKeyword, assign, greater, greaterEqual]

def name : Kind → String
  | identifier => "Identifier"
  | integer => "IntLiteral"
  | intKeyword => "Int"
  | assign => "Assignment"
  | greater => "GT"
  | greaterEqual => "GE"

def ofName? (name : String) : Option Kind := all.find? (·.name = name)

/-- The place of a kind in `all`. -/
def rank : Kind → Nat
  | identifier => 0
  | integer => 1
  | intKeyword => 2
  | assign => 3
  | greater => 4
  | greaterEqual => 5

def compare (a b : Kind) : Ordering := Ord.compare a.rank b.rank

def isKeyword : Kind → Bool
  | intKeyword => true
  | _ => false

def isOperator : Kind → Bool
  | assign | greater | greaterEqual => true
  | _ => false

def isLiteral : Kind → Bool
  | integer => true
  | _ => false

end Kind

structure Token where
  kind : Kind
  text : String
deriving DecidableEq, Repr, Inhabited

namespace Token

def hasKind (t : Token) (k : Kind) : Bool := t.kind = k

/-- Kind and text with a tab between them. -/
def line (t : Token) : String := s!"{t.kind.name}\t{t.text}"

end Token
end ScriptScan
