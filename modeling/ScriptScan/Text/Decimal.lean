import ScriptScan.Text.Digits

/-! Quotients of natural numbers written with two decimal places, and natural numbers
as double precision keeps them. -/
namespace ScriptScan.Text

/-- The natural number nearest to `num / den`; a half goes to the even neighbour. -/
def roundQuotient (num den : Nat) : Nat :=
  let q := num / den
  let twice := 2 * (num % den)
  if twice < den then q
  else if den < twice then q + 1
  else if q % 2 = 0 then q else q + 1

/-- `num / den` rounded to hundredths. -/
def hundredths (num den : Nat) : String :=
  let n := roundQuotient (100 * num) den
  s!"{n / 100}.{decimalPadded 2 (n % 100)}"

/-- The nearest number with 53 significant binary digits; a half goes to the even
neighbour. -/
def roundToDouble (n : Nat) : Nat :=
  if n < 1 <<< 53 then n
  else
    let unit := 1 <<< (n.log2 - 52)
    roundQuotient n unit * unit

/-- A finite number of double precision that is not negative, as a quotient. -/
def quotientOf (x : Float) : Nat × Nat :=
  let bits := x.toBits.toNat
  let exponent := (bits >>> 52) % 2048
  let fraction := bits % (1 <<< 52)
  let mantissa := if exponent = 0 then fraction else fraction + (1 <<< 52)
  let power := max exponent 1
  if 1075 ≤ power then (mantissa <<< (power - 1075), 1) else (mantissa, 1 <<< (1075 - power))

/-- A number of double precision that is not negative, rounded to hundredths. -/
def hundredthsOf (x : Float) : String :=
  let (num, den) := quotientOf x
  hundredths num den

end ScriptScan.Text
