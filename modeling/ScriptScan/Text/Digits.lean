/-! Numerals: digits of a base, and the numbers they spell. -/
namespace ScriptScan.Text

def hexDigit (n : Nat) : Char :=
  if n < 10 then Char.ofNat ('0'.toNat + n) else Char.ofNat ('a'.toNat + (n - 10))

/-- Lower-case hexadecimal digits, without padding. -/
def hex (n : Nat) : String :=
  if n < 16 then String.singleton (hexDigit n) else (hex (n / 16)).push (hexDigit (n % 16))

/-- Lower-case hexadecimal digits, the last `width` of them. -/
def hexPadded : Nat → Nat → String
  | 0, _ => ""
  | width + 1, n => (hexPadded width (n / 16)).push (hexDigit (n % 16))

/-- Decimal digits, the last `width` of them. -/
def decimalPadded : Nat → Nat → String
  | 0, _ => ""
  | width + 1, n => (decimalPadded width (n / 10)).push (Nat.digitChar (n % 10))

/-- What a digit is worth; letters of either case go on from ten. -/
def digitValue? (c : Char) : Option Nat :=
  if '0' ≤ c ∧ c ≤ '9' then some (c.toNat - '0'.toNat)
  else if 'a' ≤ c ∧ c ≤ 'z' then some (c.toNat - 'a'.toNat + 10)
  else if 'A' ≤ c ∧ c ≤ 'Z' then some (c.toNat - 'A'.toNat + 10)
  else none

/-- Whether `c` is a digit of `base`. -/
def isDigitOf (base : Nat) (c : Char) : Bool := (digitValue? c).any (· < base)

/-- The number that digits of `base` spell. -/
def numberOf (base : Nat) (digits : List Char) : Nat :=
  digits.foldl (fun n c => base * n + (digitValue? c).getD 0) 0

end ScriptScan.Text
