import ScriptScan.Json.Basic
import ScriptScan.Text.Digits

/-! Reading JSON. The grammar is strict: one value, blanks around and between its
parts, nothing after a last comma. -/
namespace ScriptScan.Json

def isGap (c : Char) : Bool := c = ' ' || c = '\t' || c = '\n' || c = '\r'

def skipGaps (cs : List Char) : List Char := cs.dropWhile isGap

/-- A unit of sixteen bits from its four hexadecimal digits. -/
def unit? (digits : List Char) : Option Nat :=
  if digits.all (Text.isDigitOf 16) then some (Text.numberOf 16 digits) else none

def isHighSurrogate (n : Nat) : Bool := 0xD800 ≤ n && n < 0xDC00

def isLowSurrogate (n : Nat) : Bool := 0xDC00 ≤ n && n < 0xE000

def pairedChar (high low : Nat) : Char :=
  Char.ofNat (0x10000 + (high - 0xD800) * 0x400 + (low - 0xDC00))

def shortEscape? (c : Char) : Option Char :=
  if c = '"' ∨ c = '\\' ∨ c = '/' then some c
  else if c = 'b' then some '\x08'
  else if c = 'f' then some '\x0c'
  else if c = 'n' then some '\n'
  else if c = 'r' then some '\r'
  else if c = 't' then some '\t'
  else none

/-- A text while it is read: its characters, the last one first, and half of a
surrogate pair that waits for the other half. A half that stays alone leaves the text
without characters. -/
structure TextSoFar where
  seen : Option (List Char) := some []
  high : Option Nat := none
deriving DecidableEq, Repr

namespace TextSoFar

/-- The characters, when no half waits any more. -/
def settled (t : TextSoFar) : Option (List Char) := if t.high.isSome then none else t.seen

def addChar (t : TextSoFar) (c : Char) : TextSoFar := { seen := t.settled.map (c :: ·) }

def addUnit (t : TextSoFar) (n : Nat) : TextSoFar :=
  match t.high with
  | some high =>
    if isLowSurrogate n then { seen := t.seen.map (pairedChar high n :: ·) } else { seen := none }
  | none =>
    if isHighSurrogate n then { t with high := some n }
    else if isLowSurrogate n then { seen := none }
    else t.addChar (Char.ofNat n)

def text? (t : TextSoFar) : Option String := t.settled.map fun seen => String.ofList seen.reverse

end TextSoFar

/-- Reads a text up to its closing quote. -/
def readText (t : TextSoFar) : List Char → Option (Option String × List Char)
  | [] => none
  | '"' :: cs => some (t.text?, cs)
  | '\\' :: 'u' :: a :: b :: c :: d :: cs =>
    match unit? [a, b, c, d] with
    | some n => readText (t.addUnit n) cs
    | none => none
  | '\\' :: e :: cs =>
    match shortEscape? e with
    | some c => readText (t.addChar c) cs
    | none => none
  | c :: cs => if c = '\\' ∨ c.toNat < 0x20 then none else readText (t.addChar c) cs

/-- At least one digit. -/
def readDigits (cs : List Char) : Option (List Char × List Char) :=
  match cs.span (Text.isDigitOf 10) with
  | ([], _) => none
  | (digits, rest) => some (digits, rest)

/-- A fraction, if there is one; says whether there was. -/
def readFraction : List Char → Option (Bool × List Char)
  | '.' :: cs => (readDigits cs).map fun (_, rest) => (true, rest)
  | cs => some (false, cs)

def dropSign : List Char → List Char
  | '+' :: cs => cs
  | '-' :: cs => cs
  | cs => cs

def readExponent : List Char → Option (Bool × List Char)
  | 'e' :: cs => (readDigits (dropSign cs)).map fun (_, rest) => (true, rest)
  | 'E' :: cs => (readDigits (dropSign cs)).map fun (_, rest) => (true, rest)
  | cs => some (false, cs)

/-- A numeral. No zero stands before other digits of the whole part. -/
def readNumber (cs : List Char) : Option (Json × List Char) := do
  let negative := cs.head? = some '-'
  let (digits, rest) ← readDigits (if negative then cs.tail else cs)
  guard (digits.length = 1 ∨ digits.head? ≠ some '0')
  let (fraction, rest) ← readFraction rest
  let (exponent, rest) ← readExponent rest
  some (if negative || fraction || exponent then foreign else nat (Text.numberOf 10 digits), rest)

mutual

/-- Reads one value. Every step towards a value, an item or an entry spends one of
`fuel`. -/
def readValue : Nat → List Char → Option (Json × List Char)
  | 0, _ => none
  | fuel + 1, cs =>
    match skipGaps cs with
    | 'n' :: 'u' :: 'l' :: 'l' :: rest => some (null, rest)
    | 't' :: 'r' :: 'u' :: 'e' :: rest => some (bool true, rest)
    | 'f' :: 'a' :: 'l' :: 's' :: 'e' :: rest => some (bool false, rest)
    | '"' :: rest =>
      (readText {} rest).map fun (s, rest) => ((s.map text).getD foreign, rest)
    | '[' :: rest =>
      match skipGaps rest with
      | ']' :: rest => some (list [], rest)
      | rest => readItems fuel [] rest
    | '\x7b' :: rest =>
      match skipGaps rest with
      | '\x7d' :: rest => some (object [], rest)
      | rest => readEntries fuel (some []) rest
    | cs => readNumber cs

/-- Reads the items of a list up to its end; `seen` holds those before, the last one
first. -/
def readItems : Nat → List Json → List Char → Option (Json × List Char)
  | 0, _, _ => none
  | fuel + 1, seen, cs =>
    match readValue fuel cs with
    | none => none
    | some (x, rest) =>
      match skipGaps rest with
      | ',' :: rest => readItems fuel (x :: seen) rest
      | ']' :: rest => some (list (x :: seen).reverse, rest)
      | _ => none

/-- Reads the entries of an object up to its end. A key without a text leaves the
object without a meaning. -/
def readEntries : Nat → Option (List (String × Json)) → List Char → Option (Json × List Char)
  | 0, _, _ => none
  | fuel + 1, seen, cs =>
    match skipGaps cs with
    | '"' :: rest =>
      match readText {} rest with
      | none => none
      | some (key, rest) =>
        match skipGaps rest with
        | ':' :: rest =>
          match readValue fuel rest with
          | none => none
          | some (x, rest) =>
            let seen := match seen, key with
              | some entries, some key => some ((key, x) :: entries)
              | _, _ => none
            match skipGaps rest with
            | ',' :: rest => readEntries fuel seen rest
            | '\x7d' :: rest =>
              some (match seen with
                | some entries => object entries.reverse
                | none => foreign, rest)
            | _ => none
        | _ => none
    | _ => none

end

/-- The value of a whole text. A value of `n` characters takes at most `2 * n` steps. -/
def read? (text : String) : Option Json :=
  match readValue (2 * text.length + 2) text.toList with
  | some (j, rest) => if skipGaps rest = [] then some j else none
  | none => none

end ScriptScan.Json
