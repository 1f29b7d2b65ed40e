import ScriptScan.Text.Digits

/-! Moments of time in the proleptic Gregorian calendar, counted from the start of
1970 in Coordinated Universal Time. -/
namespace ScriptScan

structure Timestamp where
  seconds : Int
  nanoseconds : Nat
deriving DecidableEq, Repr, Inhabited

namespace Timestamp

/-- Year, month and day from days since the start of 1970. Years are counted from
March on, in cycles of 400 years and 146097 days, so that the leap day ends a year. -/
def civil (days : Int) : Int × Nat × Nat :=
  let cycle := (days + 719468) / 146097
  let dayOfCycle := ((days + 719468) % 146097).toNat
  let yearOfCycle :=
    (dayOfCycle - dayOfCycle / 1460 + dayOfCycle / 36524 - dayOfCycle / 146096) / 365
  let dayOfYear := dayOfCycle - (365 * yearOfCycle + yearOfCycle / 4 - yearOfCycle / 100)
  let month := (5 * dayOfYear + 2) / 153
  let day := dayOfYear - (153 * month + 2) / 5 + 1
  let month := if month < 10 then month + 3 else month - 9
  let year := cycle * 400 + yearOfCycle
  (if month ≤ 2 then year + 1 else year, month, day)

/-- The fraction of a second, with as many threes of digits as it needs. -/
def fraction (nanoseconds : Nat) : String :=
  if nanoseconds = 0 then ""
  else if nanoseconds % 1000000 = 0 then "." ++ Text.decimalPadded 3 (nanoseconds / 1000000)
  else if nanoseconds % 1000 = 0 then "." ++ Text.decimalPadded 6 (nanoseconds / 1000)
  else "." ++ Text.decimalPadded 9 nanoseconds

/-- A year before 0 or after 9999 has a sign, and at least four digits. -/
def yearText (year : Int) : String :=
  if year < 0 then
    "-" ++ if year.natAbs < 10000 then Text.decimalPadded 4 year.natAbs else toString year.natAbs
  else if year < 10000 then Text.decimalPadded 4 year.toNat
  else "+" ++ toString year

def text (t : Timestamp) : String :=
  let (year, month, day) := civil (t.seconds / 86400)
  let second := (t.seconds % 86400).toNat
  let two := Text.decimalPadded 2
  s!"{yearText year}-{two month}-{two day}T{two (second / 3600)}:{two (second / 60 % 60)}:" ++
    s!"{two (second % 60)}{fraction t.nanoseconds}+00:00"

end Timestamp
end ScriptScan
