/-! The limits that a build of the program is given. They come from a file named for
the build's profile. -/
namespace ScriptScan

structure Limits where
  /-- The most bytes a source may have. -/
  maxFileSize : Nat
  /-- Files with more bytes than this count as large. -/
  largeFileThreshold : Nat
  /-- The most diagnostics one scan records. -/
  maxDiagnostics : Nat
  /-- The most events a log in memory keeps. -/
  logBufferSize : Nat
  /-- The most bytes the message of an event may have. -/
  maxMessageLength : Nat
deriving DecidableEq, Repr, Inhabited

namespace Limits

/-- The limits of this build. -/
def active : Limits where
  maxFileSize := 10485760
  largeFileThreshold := 1048576
  maxDiagnostics := 1000
  logBufferSize := 10000
  maxMessageLength := 10000

/-- The profile of this build, and the directory with the files of all profiles. -/
def activeProfile : String := "development"

def activeDirectory : String := "config"

/-- Where the limits of this build come from. -/
def origin : String := s!"Generated from {activeDirectory}/{activeProfile}.toml"

/-- Why logging could not start under these limits, if it could not. -/
def loggingFault? (l : Limits) : Option String :=
  if l.logBufferSize < 100 ∨ 100000 < l.logBufferSize then
    some s!"Log buffer size out of range: {l.logBufferSize}"
  else if l.maxMessageLength = 0 then some "Max log message length must be positive"
  else none

end Limits
end ScriptScan
