import ScriptScan.Limits
import ScriptScan.Text.Decimal

/-! Sizes of files for human readers. -/
namespace ScriptScan.FileSize

/-- How often `size` is divided by 1024 before it is shown, up to three times. -/
def unitOf (size : Nat) : Nat :=
  if size < 1024 then 0
  else if size < 1048576 then 1
  else if size < 1073741824 then 2
  else 3

def unitName : Nat → String
  | 0 => "B"
  | 1 => "KB"
  | 2 => "MB"
  | _ => "GB"

/-- Bytes are exact. Larger units are shown in hundredths of the size that double
precision keeps. -/
def text (size : Nat) : String :=
  let kept := Text.roundToDouble size
  let unit := unitOf kept
  if unit = 0 then s!"{size} B" else s!"{Text.hundredths kept (Nat.pow 1024 unit)} {unitName unit}"

def isLarge (size : Nat) : Bool := Limits.active.largeFileThreshold < size

end ScriptScan.FileSize
