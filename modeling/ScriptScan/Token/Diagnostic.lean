import ScriptScan.Log.Code
import ScriptScan.Source.Span
import ScriptScan.Text.Quoted

/-! What a scan reports: characters that start no token and were dropped. -/
namespace ScriptScan

/-- A dropped character and its place. -/
structure Diagnostic where
  character : Char
  position : Position
deriving DecidableEq, Repr, Inhabited

namespace Diagnostic

def code (_ : Diagnostic) : Code := .unrecognizedCharacter

def span (d : Diagnostic) : Span := .ofChar d.position d.character

def message (d : Diagnostic) : String :=
  s!"unrecognized character {Text.quoted d.character} at line {d.position.line}, " ++
    s!"column {d.position.column}"

end Diagnostic

/-- A scan that tolerates no dropped character fails with the first. -/
structure ScanError where
  character : Char
  line : Nat
  column : Nat
deriving DecidableEq, Repr, Inhabited

namespace ScanError

def ofDiagnostic (d : Diagnostic) : ScanError :=
  ⟨d.character, d.position.line, d.position.column⟩

def code (_ : ScanError) : Code := .unrecognizedCharacter

def message (e : ScanError) : String :=
  s!"Unrecognized character: {Text.quoted e.character} at line {e.line}, column {e.column}"

end ScanError
end ScriptScan
