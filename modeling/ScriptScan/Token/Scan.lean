import ScriptScan.Token.Scanner

/-! Scanning whole texts: tokens alone, tokens or the first fault, and tokens with
all that was dropped. -/
namespace ScriptScan

/-- Tokens and the diagnostics met on the way. -/
structure Scan where
  tokens : Array Token
  diagnostics : Array Diagnostic
  suppressed : Nat
deriving DecidableEq, Repr, Inhabited

namespace Scan

def ofScanner (s : Scanner) : Scan := ⟨s.tokens, s.diagnostics, s.suppressed⟩

def hasDiagnostics (s : Scan) : Bool := !s.diagnostics.isEmpty

def firstError? (s : Scan) : Option ScanError := s.diagnostics[0]?.map .ofDiagnostic

end Scan

/-- The tokens of a text; what starts no token is dropped. -/
def tokenize (text : String) : Array Token := (Scanner.run { reporting := false } text).tokens

def tokenizeWithDiagnostics (text : String) : Scan := .ofScanner (Scanner.run {} text)

/-- The tokens of a text in which nothing but blanks is dropped. -/
def tokenizeStrict (text : String) : Except ScanError (Array Token) :=
  let scan := tokenizeWithDiagnostics text
  match scan.firstError? with
  | some e => .error e
  | none => .ok scan.tokens

/-- How many tokens there are, in all and by role. -/
structure TokenCounts where
  total : Nat := 0
  keywords : Nat := 0
  identifiers : Nat := 0
  literals : Nat := 0
  operators : Nat := 0
deriving DecidableEq, Repr, Inhabited

namespace TokenCounts

def add (n : TokenCounts) (t : Token) : TokenCounts :=
  let n := { n with total := n.total + 1 }
  match t.kind with
  | .intKeyword => { n with keywords := n.keywords + 1 }
  | .identifier => { n with identifiers := n.identifiers + 1 }
  | .integer => { n with literals := n.literals + 1 }
  | .assign | .greater | .greaterEqual => { n with operators := n.operators + 1 }

def ofTokens (tokens : Array Token) : TokenCounts := tokens.foldl add {}

/-- Whether any name or value was scanned. -/
def hasContent (n : TokenCounts) : Bool := n.keywords > 0 || n.identifiers > 0 || n.literals > 0

end TokenCounts
end ScriptScan
