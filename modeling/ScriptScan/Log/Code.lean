/-! Codes of faults and of milestones, and what is known of each: the part of the
system it belongs to, how grave it is, and whether work can go on after it.
Codes outside the register have neutral answers. -/
namespace ScriptScan

structure Code where
  text : String
deriving DecidableEq, Repr, Inhabited

inductive Severity
  | critical | high | medium | low
deriving DecidableEq, Repr, Inhabited

namespace Severity

def name : Severity → String
  | critical => "Critical"
  | high => "High"
  | medium => "Medium"
  | low => "Low"

/-- The gravest comes first. -/
def rank : Severity → Nat
  | critical => 0
  | high => 1
  | medium => 2
  | low => 3

def compare (a b : Severity) : Ordering := Ord.compare a.rank b.rank

def all : List Severity := [critical, high, medium, low]

end Severity

namespace Code

def internalError : Code := ⟨"ERR001"⟩
def initializationFailure : Code := ⟨"ERR002"⟩
def configurationError : Code := ⟨"ERR003"⟩

def fileNotFound : Code := ⟨"E005"⟩
def fileTooLarge : Code := ⟨"E007"⟩
def emptyFile : Code := ⟨"E008"⟩
def permissionDenied : Code := ⟨"E009"⟩
def invalidEncoding : Code := ⟨"E010"⟩
def readFailure : Code := ⟨"E011"⟩
def invalidPath : Code := ⟨"E012"⟩

def unrecognizedCharacter : Code := ⟨"E020"⟩
def diagnosticLimitReached : Code := ⟨"W021"⟩

def positionOutOfRange : Code := ⟨"E030"⟩
def unexpectedToken : Code := ⟨"E031"⟩
def unexpectedEnd : Code := ⟨"E032"⟩

def loggingStarted : Code := ⟨"I004"⟩
def fileLoaded : Code := ⟨"I006"⟩
def analysisCompleted : Code := ⟨"I020"⟩

def plainWarning : Code := ⟨"W000"⟩
def plainInfo : Code := ⟨"I000"⟩
def plainDebug : Code := ⟨"D000"⟩

/-- What the register says of a code. -/
structure Entry where
  code : Code
  category : String
  severity : Severity
  recoverable : Bool
  description : String

def register : List Entry :=
  [⟨internalError, "System", .critical, false, "Critical internal system error"⟩,
   ⟨initializationFailure, "System", .critical, false, "System initialization failure"⟩,
   ⟨configurationError, "System", .high, false, "Runtime configuration could not be loaded"⟩,
   ⟨fileNotFound, "FileProcessing", .medium, false, "Source file not found"⟩,
   ⟨fileTooLarge, "FileProcessing", .high, false,
    "Source file exceeds the compile-time size limit"⟩,
   ⟨emptyFile, "FileProcessing", .low, true, "Source file is empty"⟩,
   ⟨permissionDenied, "FileProcessing", .medium, false, "Permission denied reading source file"⟩,
   ⟨invalidEncoding, "FileProcessing", .medium, false, "Source file is not valid UTF-8"⟩,
   ⟨readFailure, "FileProcessing", .medium, false, "I/O error reading source file"⟩,
   ⟨invalidPath, "FileProcessing", .medium, false, "Invalid source file path"⟩,
   ⟨unrecognizedCharacter, "Lexical", .low, true,
    "Character does not start any token and was dropped"⟩,
   ⟨diagnosticLimitReached, "Lexical", .low, true,
    "Diagnostic limit reached; further diagnostics suppressed"⟩,
   ⟨positionOutOfRange, "TokenStream", .medium, true, "Requested stream position is out of range"⟩,
   ⟨unexpectedToken, "TokenStream", .medium, true, "Token kind does not match the expected kind"⟩,
   ⟨unexpectedEnd, "TokenStream", .medium, true, "Token stream ended while a token was expected"⟩]

def entry? (c : Code) : Option Entry := register.find? (·.code = c)

def category (c : Code) : String := (c.entry?.map Entry.category).getD "Unknown"

def severity (c : Code) : Severity := (c.entry?.map Entry.severity).getD .medium

def recoverable (c : Code) : Bool := (c.entry?.map Entry.recoverable).getD true

def description (c : Code) : String := (c.entry?.map Entry.description).getD "Unknown error"

end Code
end ScriptScan
