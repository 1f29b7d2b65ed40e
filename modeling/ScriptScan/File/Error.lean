import ScriptScan.Log.Code

/-! What may go wrong when a source is loaded. -/
namespace ScriptScan

inductive FileError
  | notFound (path : String)
  | tooLarge (size limit : Nat)
  | empty (path : String)
  | permissionDenied (path : String)
  | invalidEncoding (path : String)
  | readFailure (path message : String)
  | invalidPath (path : String)
deriving DecidableEq, Repr

namespace FileError

def message : FileError → String
  | notFound path => s!"File not found: {path}"
  | tooLarge size limit => s!"File too large: {size} bytes (max: {limit})"
  | empty path => s!"File is empty: {path}"
  | permissionDenied path => s!"Permission denied: {path}"
  | invalidEncoding path => s!"Invalid UTF-8 encoding in {path}"
  | readFailure path message => s!"I/O error reading {path}: {message}"
  | invalidPath path => s!"Invalid file path: {path}"

def code : FileError → Code
  | notFound _ => .fileNotFound
  | tooLarge .. => .fileTooLarge
  | empty _ => .emptyFile
  | permissionDenied _ => .permissionDenied
  | invalidEncoding _ => .invalidEncoding
  | readFailure .. => .readFailure
  | invalidPath _ => .invalidPath

end FileError

/-- Why the system could not do what it was asked, as far as it matters here. -/
inductive SystemFault.Cause
  | notFound | permissionDenied | invalidData | other
deriving DecidableEq, Repr, Inhabited

/-- A refusal of the system, with its own words. -/
structure SystemFault where
  cause : SystemFault.Cause
  message : String
deriving DecidableEq, Repr, Inhabited

namespace SystemFault

def missing : SystemFault := ⟨.notFound, "No such file or directory (os error 2)"⟩
def notDirectory : SystemFault := ⟨.other, "Not a directory (os error 20)"⟩
def isDirectory : SystemFault := ⟨.other, "Is a directory (os error 21)"⟩
def nameTooLong : SystemFault := ⟨.other, "File name too long (os error 36)"⟩
def nulInName : SystemFault := ⟨.other, "file name contained an unexpected NUL byte"⟩

end SystemFault

/-- The error of a source that the system did not give. -/
def FileError.ofFault (path : String) (f : SystemFault) : FileError :=
  match f.cause with
  | .notFound => .notFound path
  | .permissionDenied => .permissionDenied path
  | .invalidData => .invalidEncoding path
  | .other => .readFailure path f.message

end ScriptScan
