import ScriptScan.Text.Decimal

/-! How long work took, and how fast it went, in double precision. -/
namespace ScriptScan

structure Duration where
  seconds : Nat
  nanoseconds : Nat
deriving DecidableEq, Repr, Inhabited

namespace Duration

def milliseconds (d : Duration) : Float :=
  (d.seconds.toUInt64.toFloat + d.nanoseconds.toUInt64.toFloat / 1000000000.0) * 1000.0

/-- Characters per millisecond; no time at all counts as no speed. -/
def rate (d : Duration) (characters : Nat) : Float :=
  let ms := d.milliseconds
  if ms > 0.0 then characters.toUInt64.toFloat / ms else 0.0

end Duration

/-- The texts for the time that a piece of work took, and for its speed in characters. -/
structure Timing where
  duration : String
  rate : Nat → String

def Timing.ofDuration (d : Duration) : Timing where
  duration := Text.hundredthsOf d.milliseconds
  rate characters := Text.hundredthsOf (d.rate characters)

end ScriptScan
