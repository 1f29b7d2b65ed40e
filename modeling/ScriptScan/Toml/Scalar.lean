import ScriptScan.Text.Digits
import ScriptScan.Toml.Basic

/-! Values of TOML that are written as one run of characters: truth values, numbers
and moments of time. -/
namespace ScriptScan.Toml

/-- The digits of a numeral in which a single underscore may stand between two. -/
def digits? (base : Nat) : List Char → Option (List Char)
  | [] => none
  | [c] => if Text.isDigitOf base c then some [c] else none
  | c :: '_' :: cs => if Text.isDigitOf base c then (digits? base cs).map (c :: ·) else none
  | c :: cs => if Text.isDigitOf base c then (digits? base cs).map (c :: ·) else none

/-- The sign of a numeral, negative or not, and what follows it. -/
def sign : List Char → Bool × List Char
  | '+' :: cs => (false, cs)
  | '-' :: cs => (true, cs)
  | cs => (false, cs)

/-- Decimal digits without a zero before others. -/
def whole? (cs : List Char) : Option (List Char) :=
  match digits? 10 cs with
  | some ('0' :: _ :: _) => none
  | ds => ds

/-- Integers have 64 binary digits, the sign included. -/
def bounded? (n : Int) : Option Toml :=
  if -9223372036854775808 ≤ n ∧ n ≤ 9223372036854775807 then some (integer n) else none

def integer? : List Char → Option Toml
  | '0' :: 'x' :: cs => (digits? 16 cs).bind fun ds => bounded? (Text.numberOf 16 ds)
  | '0' :: 'o' :: cs => (digits? 8 cs).bind fun ds => bounded? (Text.numberOf 8 ds)
  | '0' :: 'b' :: cs => (digits? 2 cs).bind fun ds => bounded? (Text.numberOf 2 ds)
  | cs =>
    let (negative, cs) := sign cs
    (whole? cs).bind fun ds =>
      bounded? (if negative then -(Text.numberOf 10 ds : Int) else Text.numberOf 10 ds)

/-- Whether `mantissa * 10 ^ exponent` rounds beyond the greatest finite number of
double precision. -/
def overflows (mantissa : Nat) (exponent : Int) : Bool :=
  if mantissa = 0 ∨ exponent < -(Nat.toDigits 10 mantissa).length then false
  else if 310 < exponent then true
  else
    let bound := ((1 <<< 54) - 1) <<< 970
    if 0 ≤ exponent then bound ≤ mantissa * Nat.pow 10 exponent.toNat
    else bound * Nat.pow 10 (-exponent).toNat ≤ mantissa

/-- A number with fraction or exponent. None may exceed the greatest finite one, but
a negative one may fall below the least. -/
def float? (cs : List Char) : Option Toml := do
  let (negative, cs) := sign cs
  if cs = "inf".toList ∨ cs = "nan".toList then return float
  let isMark (c : Char) := c = 'e' || c = 'E'
  let (mantissa, power) := cs.span (!isMark ·)
  let (before, after) := mantissa.span (· ≠ '.')
  guard (power ≠ [] ∨ after ≠ [])
  let before ← whole? before
  let after ← match after with
    | [] => some []
    | _ :: ds => digits? 10 ds
  let exponent : Int ← match power with
    | [] => some 0
    | _ :: ds =>
      let (below, ds) := sign ds
      (digits? 10 ds).map fun ds =>
        if below then -(Text.numberOf 10 ds : Int) else Text.numberOf 10 ds
  let tooLarge := overflows (Text.numberOf 10 (before ++ after)) (exponent - after.length)
  if tooLarge && !negative then none else some float

/-- A number of two digits, at most `high`. -/
def twoDigits? (high : Nat) (a b : Char) : Option Nat :=
  if Text.isDigitOf 10 a && Text.isDigitOf 10 b then
    let n := Text.numberOf 10 [a, b]
    if n ≤ high then some n else none
  else none

def daysOf (year month : Nat) : Nat :=
  if month = 2 then
    if year % 4 = 0 ∧ (year % 100 ≠ 0 ∨ year % 400 = 0) then 29 else 28
  else if month = 4 ∨ month = 6 ∨ month = 9 ∨ month = 11 then 30
  else 31

/-- What follows a date of the calendar. -/
def afterDate? : List Char → Option (List Char)
  | a :: b :: c :: d :: '-' :: m :: n :: '-' :: x :: y :: rest => do
    guard ([a, b, c, d].all (Text.isDigitOf 10))
    let month ← twoDigits? 12 m n
    guard (month ≠ 0)
    let day ← twoDigits? (daysOf (Text.numberOf 10 [a, b, c, d]) month) x y
    guard (day ≠ 0)
    some rest
  | _ => none

/-- What follows a time of day. A minute may have a leap second. -/
def afterTime? : List Char → Option (List Char)
  | a :: b :: ':' :: c :: d :: ':' :: e :: f :: rest => do
    let _ ← twoDigits? 23 a b
    let _ ← twoDigits? 59 c d
    let _ ← twoDigits? 60 e f
    match rest with
    | '.' :: x :: rest =>
      if Text.isDigitOf 10 x then some (rest.dropWhile (Text.isDigitOf 10)) else none
    | rest => some rest
  | _ => none

/-- A distance from Coordinated Universal Time. -/
def isOffset : List Char → Bool
  | ['Z'] | ['z'] => true
  | [s, a, b, ':', c, d] =>
    (s = '+' || s = '-') && (twoDigits? 23 a b).isSome && (twoDigits? 59 c d).isSome
  | _ => false

def isMoment (cs : List Char) : Bool :=
  match afterDate? cs with
  | some [] => true
  | some (t :: rest) =>
    (t = 'T' || t = 't' || t = ' ') &&
      match afterTime? rest with
      | some zone => zone.isEmpty || isOffset zone
      | none => false
  | none => afterTime? cs = some []

def isScalarChar (c : Char) : Bool := c.isAlphanum || "+-._:".toList.contains c

/-- The longest run that can be one value. A blank belongs to it where it stands
between a date and a time. -/
def scalarRun (cs : List Char) : List Char × List Char :=
  let (run, rest) := cs.span isScalarChar
  match rest with
  | ' ' :: a :: b :: ':' :: _ =>
    if afterDate? run = some [] ∧ Text.isDigitOf 10 a ∧ Text.isDigitOf 10 b then
      let (time, rest) := rest.tail.span isScalarChar
      (run ++ ' ' :: time, rest)
    else (run, rest)
  | _ => (run, rest)

def scalar? (run : List Char) : Option Toml :=
  if run = "true".toList then some (boolean true)
  else if run = "false".toList then some (boolean false)
  else if isMoment run then some moment
  else match float? run with
    | some t => some t
    | none => integer? run

end ScriptScan.Toml
