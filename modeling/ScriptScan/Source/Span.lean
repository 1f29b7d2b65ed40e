import ScriptScan.Source.Position
import ScriptScan.Text.Slice

/-! Stretches of source text between two positions, the end excluded. -/
namespace ScriptScan

structure Span where
  first : Position
  last : Position
deriving DecidableEq, Repr, Inhabited

namespace Span

/-- The stretch that holds the single character `c`. -/
def ofChar (p : Position) (c : Char) : Span := ⟨p, p.advance c⟩

/-- One column wide and one byte long. -/
def column (p : Position) : Span := ⟨p, ⟨p.offset + 1, p.line, p.column + 1⟩⟩

def length (s : Span) : Nat := s.last.offset - s.first.offset

def isEmpty (s : Span) : Bool := s.first.offset == s.last.offset

/-- The covered part of `text`, when both ends are places between its characters. -/
def slice? (s : Span) (text : String) : Option String :=
  Text.slice? text s.first.offset s.last.offset

/-- A stretch within one line names the line once. -/
def describe (s : Span) : String :=
  if s.first.line = s.last.line then s!"{s.first.line}:{s.first.column}-{s.last.column}"
  else s!"{s.first.describe}-{s.last.describe}"

end Span
end ScriptScan
