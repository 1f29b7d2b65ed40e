import ScriptScan.File.Error
import ScriptScan.Log.Timestamp

/-! What the system says when it is asked about a path or reads from a stream. -/
namespace ScriptScan

/-- The answers for one path. -/
structure FileAccess where
  found : Bool
  isFile : Bool
  /-- The path from the root of the file system, without detours. -/
  canonical : Except SystemFault String
  size : Except SystemFault Nat
  content : Except SystemFault ByteArray
  modified : Option Timestamp

/-- What a stream yields, and the fault that ends it, if it does not simply end. An
interrupted read is repeated, so that an interruption is no such fault. -/
structure Stream where
  data : ByteArray
  fault : Option SystemFault := none

namespace Stream

/-- Reads to the end, but at most `limit` bytes, and leaves what is behind them. A fault
behind them is not met; one that is met is told once. -/
def read (s : Stream) (limit : Nat) : Except SystemFault ByteArray × Stream :=
  if limit ≤ s.data.size then
    (.ok (s.data.extract 0 limit), { s with data := s.data.extract limit s.data.size })
  else match s.fault with
    | some f => (.error f, { data := .empty })
    | none => (.ok s.data, { data := .empty })

end Stream

/-- The text of a whole file. -/
def FileAccess.text (f : FileAccess) : Except SystemFault String := do
  match String.fromUTF8? (← f.content) with
  | some text => .ok text
  | none => .error ⟨.invalidData, "stream did not contain valid UTF-8"⟩

end ScriptScan
