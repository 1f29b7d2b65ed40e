import ScriptScan.Json.Read
import ScriptScan.Json.Write
import ScriptScan.Source.Span

/-! Positions and spans in JSON. Offsets have 64 binary digits, lines and columns 32. -/
namespace ScriptScan

namespace Position

def toJson (p : Position) : Json :=
  .object [("offset", .nat p.offset), ("line", .nat p.line), ("column", .nat p.column)]

def ofJson? (j : Json) : Option Position := do
  let [some offset, some line, some column] ← j.record? ["offset", "line", "column"] | none
  some ⟨← offset.nat? 64, ← line.nat? 32, ← column.nat? 32⟩

end Position

namespace Span

def toJson (s : Span) : Json := .object [("start", s.first.toJson), ("end", s.last.toJson)]

def ofJson? (j : Json) : Option Span := do
  let [some first, some last] ← j.record? ["start", "end"] | none
  some ⟨← Position.ofJson? first, ← Position.ofJson? last⟩

end Span
end ScriptScan
