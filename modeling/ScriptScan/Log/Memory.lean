import ScriptScan.Log.Event

/-! A log in memory that keeps the latest events. -/
namespace ScriptScan

structure MemoryLog where
  events : Array Event := #[]
deriving Repr, Inhabited

namespace MemoryLog

/-- Adds an event; when the buffer is full, the oldest make room. -/
def add (log : MemoryLog) (e : Event) : MemoryLog :=
  let limit := Limits.active.logBufferSize
  let size := log.events.size
  if size < limit then ⟨log.events.push e⟩
  else ⟨(log.events.extract (size - limit + 1) size).push e⟩

def clear (_ : MemoryLog) : MemoryLog := {}

def count (log : MemoryLog) : Nat := log.events.size

def ofLevel (log : MemoryLog) (l : Level) : Array Event := log.events.filter (·.level = l)

def withCode (log : MemoryLog) (c : Code) : Array Event := log.events.filter (·.code = c)

def ofCategory (log : MemoryLog) (category : String) : Array Event :=
  log.events.filter (·.category = category)

def has (log : MemoryLog) (l : Level) (c : Code) : Bool :=
  log.events.any fun e => e.level = l && e.code = c

/-- The number of events, in all and by level. -/
structure Summary where
  total : Nat
  errors : Nat
  warnings : Nat
  infos : Nat
  debugs : Nat
deriving DecidableEq, Repr

def summary (log : MemoryLog) : Summary where
  total := log.count
  errors := (log.ofLevel .error).size
  warnings := (log.ofLevel .warning).size
  infos := (log.ofLevel .info).size
  debugs := (log.ofLevel .debug).size

end MemoryLog
end ScriptScan
