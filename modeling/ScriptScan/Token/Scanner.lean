import ScriptScan.Limits
import ScriptScan.Token.Alphabet
import ScriptScan.Token.Diagnostic

/-! The scanner: an automaton that takes one character at a time. A token is closed
by the first character that cannot extend it, and that character then starts the
next one, so every character is used once. A word that may become a keyword is
kept apart from other words until it is closed. -/
namespace ScriptScan

inductive Scanner.State
  | initial
  | identifier
  /-- The lexeme is the first `matched` characters of some keyword. -/
  | keywordStem (matched : Nat)
  | integer
  | greater
  | greaterEqual
  | assign
deriving DecidableEq, Repr, Inhabited

structure Scanner where
  state : Scanner.State := .initial
  /-- The text of the token being scanned, empty between tokens. -/
  lexeme : String := ""
  kind : Option Kind := none
  tokens : Array Token := #[]
  diagnostics : Array Diagnostic := #[]
  /-- Diagnostics dropped because enough were recorded. -/
  suppressed : Nat := 0
  reporting : Bool := true
  /-- The place of the character that comes next. -/
  position : Position := .start
deriving Repr, Inhabited

namespace Scanner

/-- Closes the open token, if there is one. -/
def emit (s : Scanner) : Scanner :=
  if s.lexeme.isEmpty then { s with kind := none }
  else match s.kind with
    | none => { s with lexeme := "" }
    | some k => { s with kind := none, lexeme := "", tokens := s.tokens.push ⟨k, s.lexeme⟩ }

/-- Opens a token of kind `k` at `c`. -/
def begin (s : Scanner) (k : Kind) (c : Char) : Scanner :=
  { s with kind := some k, lexeme := s.lexeme.push c }

def append (s : Scanner) (c : Char) : Scanner := { s with lexeme := s.lexeme.push c }

/-- Notes that `c` was dropped at the current place. -/
def drop (s : Scanner) (c : Char) : Scanner :=
  if s.reporting then
    if s.diagnostics.size < Limits.active.maxDiagnostics then
      { s with diagnostics := s.diagnostics.push ⟨c, s.position⟩ }
    else { s with suppressed := s.suppressed + 1 }
  else s

/-- Closes the open token and starts another at `c`. Returns the state to go on
in, which is not yet the scanner's own. -/
def restart (s : Scanner) (c : Char) : Scanner × State :=
  let s := s.emit
  if isLetter c then
    (s.begin .identifier c, if Keyword.starts c then .keywordStem 1 else .identifier)
  else if isDigit c then (s.begin .integer c, .integer)
  else if c = '=' then (s.begin .assign c, .assign)
  else if c = '>' then (s.begin .greater c, .greater)
  else if isBlank c then (s, .initial)
  else (s.drop c, .initial)

/-- A lexeme that is a whole keyword takes the keyword's kind. -/
def promote (s : Scanner) : Scanner :=
  match Keyword.kind? s.lexeme with
  | some k => { s with kind := some k }
  | none => s

/-- What one character does, with the state to go on in. -/
def next (s : Scanner) (c : Char) : Scanner × State :=
  match s.state with
  | .identifier => if isWordChar c then (s.append c, .identifier) else s.restart c
  | .keywordStem matched =>
    if Keyword.continues s.lexeme c then (s.append c, .keywordStem (matched + 1))
    else if isWordChar c then (s.append c, .identifier)
    else s.promote.restart c
  | .integer => if isDigit c then (s.append c, .integer) else s.restart c
  | .greater =>
    if c = '=' then (({ s with kind := some .greaterEqual }).append c, .greaterEqual)
    else s.restart c
  | .initial | .greaterEqual | .assign => s.restart c

/-- One step of the automaton; the place stays. -/
def step (s : Scanner) (c : Char) : Scanner :=
  let (t, state) := s.next c
  { t with state := state }

/-- One step of the automaton, and past the character. -/
def feed (s : Scanner) (c : Char) : Scanner :=
  let t := s.step c
  { t with position := t.position.advance c }

/-- Closes the open token where the input ends. -/
def finish (s : Scanner) : Scanner :=
  let s := match s.state with
    | .keywordStem _ => s.promote
    | _ => s
  { s.emit with state := .initial }

def feedAll (s : Scanner) (text : String) : Scanner := text.foldl feed s

/-- Scans `text` to its end. -/
def run (s : Scanner) (text : String) : Scanner := (s.feedAll text).finish

end Scanner
end ScriptScan
