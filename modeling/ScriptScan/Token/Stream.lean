import ScriptScan.Log.Event
import ScriptScan.Token.Basic

/-! A finished token sequence with a reading place, which never leaves the sequence.
Reading moves on, and a refused request moves nothing. -/
namespace ScriptScan

inductive StreamError
  | positionOutOfRange (requested length : Nat)
  | unexpectedToken (expected : Kind) (found : Token) (position : Nat)
  | unexpectedEnd (expected : Kind)
deriving DecidableEq, Repr

namespace StreamError

def code : StreamError → Code
  | positionOutOfRange .. => .positionOutOfRange
  | unexpectedToken .. => .unexpectedToken
  | unexpectedEnd _ => .unexpectedEnd

def message : StreamError → String
  | positionOutOfRange requested length =>
    s!"Position {requested} is out of range for a stream of {length} tokens"
  | unexpectedToken expected found position =>
    s!"Expected {expected.name}, found {found.kind.name} '{found.text}' at token {position}"
  | unexpectedEnd expected => s!"Expected {expected.name}, but reached end of input"

/-- What the log is told of a refused request. -/
def events : StreamError → List Event
  | positionOutOfRange requested length =>
    [(Event.debug "Rejected stream reposition").withFields
      [("requested", toString requested), ("len", toString length)]]
  | _ => []

end StreamError

structure TokenStream where
  tokens : Array Token
  position : Nat
  position_le : position ≤ tokens.size := by omega

namespace TokenStream

def ofTokens (tokens : Array Token) : TokenStream := { tokens, position := 0 }

def length (s : TokenStream) : Nat := s.tokens.size

def isEmpty (s : TokenStream) : Bool := s.tokens.isEmpty

def atEnd (s : TokenStream) : Bool := s.tokens.size ≤ s.position

def remaining (s : TokenStream) : Nat := s.tokens.size - s.position

/-- The token at the reading place. -/
def peek? (s : TokenStream) : Option Token := s.tokens[s.position]?

/-- The token `n` places ahead. A place that no machine word counts has none. -/
def peekAhead? (s : TokenStream) (n : Nat) : Option Token :=
  if s.position + n < UInt64.size then s.tokens[s.position + n]? else none

/-- The token at the reading place and the stream behind it; at the end nothing moves. -/
def read (s : TokenStream) : Option Token × TokenStream :=
  if h : s.position < s.tokens.size then
    (some s.tokens[s.position], { s with position := s.position + 1, position_le := h })
  else (none, s)

/-- One token back, unless at the start. -/
def unread (s : TokenStream) : TokenStream :=
  { s with position := s.position - 1, position_le := by have := s.position_le; omega }

/-- Moves to any place of the sequence, its end included. -/
def moveTo (s : TokenStream) (position : Nat) : Except StreamError Unit × TokenStream :=
  if h : position ≤ s.tokens.size then (.ok (), { s with position := position, position_le := h })
  else (.error (.positionOutOfRange position s.tokens.size), s)

def check (s : TokenStream) (k : Kind) : Bool := (s.peek?.map (·.hasKind k)).getD false

/-- Passes a token of kind `k`. -/
def advanceIf (s : TokenStream) (k : Kind) : Bool × TokenStream :=
  if s.check k then (true, s.read.2) else (false, s)

/-- Takes a token of kind `k`, or says what stands there instead. -/
def expect (s : TokenStream) (k : Kind) : Except StreamError Token × TokenStream :=
  match s.peek? with
  | some t =>
    if t.hasKind k then (.ok t, s.read.2) else (.error (.unexpectedToken k t s.position), s)
  | none => (.error (.unexpectedEnd k), s)

/-- All tokens from the reading place on, and the stream at its end. -/
def readAll (s : TokenStream) : Array Token × TokenStream :=
  (s.tokens.extract s.position s.tokens.size,
    { s with position := s.tokens.size, position_le := Nat.le_refl _ })

/-- A short text on the reading place. -/
def describe (s : TokenStream) : String :=
  let current := match s.peek? with
    | some t => s!"{t.kind.name} '{t.text}'"
    | none => "<EOF>"
  s!"TokenStream(pos: {s.position}/{s.tokens.size}, current: {current})"

end TokenStream
end ScriptScan
