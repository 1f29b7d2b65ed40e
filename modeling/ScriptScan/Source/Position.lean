/-! Places in a source text. A position is counted in three units at once: bytes
from the start, lines from one, and characters from one within the line. -/
namespace ScriptScan

structure Position where
  offset : Nat
  line : Nat
  column : Nat
deriving DecidableEq, Repr

namespace Position

def start : Position := ⟨0, 1, 1⟩

/-- The default value stands for no place of any text. -/
instance : Inhabited Position := ⟨⟨0, 0, 0⟩⟩

/-- The place just after `c`. A tab is one column like any other character. -/
def advance (p : Position) (c : Char) : Position :=
  if c = '\n' then ⟨p.offset + c.utf8Size, p.line + 1, 1⟩
  else ⟨p.offset + c.utf8Size, p.line, p.column + 1⟩

def advanceAll (p : Position) (text : String) : Position := text.foldl advance p

/-- Offsets decide first, then lines, then columns. -/
def compare (p q : Position) : Ordering :=
  (Ord.compare p.offset q.offset).then
    ((Ord.compare p.line q.line).then (Ord.compare p.column q.column))

instance : Ord Position := ⟨compare⟩

def describe (p : Position) : String := s!"{p.line}:{p.column}"

end Position
end ScriptScan
