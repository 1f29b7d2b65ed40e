import ScriptScan.Config.Preferences
import ScriptScan.File.Access
import ScriptScan.File.Size
import ScriptScan.File.Timing
import ScriptScan.Log.Event
import ScriptScan.Text.Blank
import ScriptScan.Text.Lines
import ScriptScan.Text.Slice

/-! Loading of sources, from a path or from a stream, within the limits. Every load
ends in one event: the error that it fails with, or its success. -/
namespace ScriptScan

/-- A loaded source and what is known of its file. -/
structure Loaded where
  source : String
  /-- The canonical path of the file, or the name of the stream. -/
  path : String
  size : Nat
  lines : Nat
  modified : Option Timestamp
deriving DecidableEq, Repr, Inhabited

namespace Loaded

def characters (l : Loaded) : Nat := l.source.length

/-- Nothing but white space. -/
def isBlank (l : Loaded) : Bool := Text.isBlank l.source

end Loaded

/-- How sources are loaded. -/
abbrev Loader := FilePreferences

namespace Loader

/-- A failed step: the error and the event that tells of it. -/
structure Failure where
  error : FileError
  event : Event

abbrev Step := Except Failure

/-- Fails with an error and an event of the same code. -/
def fail (e : FileError) (message : String) (fields : List (String × String)) : Step α :=
  .error ⟨e, (Event.error e.code message).withFields fields⟩

/-- Fails with the error that a fault of the system stands for. `name` is the word for
the source in the event. -/
def failBy (path name message : String) (f : SystemFault) : Step α :=
  fail (.ofFault path f) message [(name, path), ("io_error", f.message)]

/-- The canonical form of a path that leads to a regular file. -/
def checkPath (path : String) (f : FileAccess) : Step String :=
  if path.isEmpty then fail (.invalidPath path) "Empty file path provided" []
  else if !f.found then fail (.notFound path) "File not found" [("path", path)]
  else if !f.isFile then fail (.invalidPath path) "Path is not a file" [("path", path)]
  else match f.canonical with
    | .ok canonical => .ok canonical
    | .error fault => failBy path "path" "Failed to canonicalize path" fault

def checkSize (path : String) (size : Nat) : Step Unit :=
  let limit := Limits.active.maxFileSize
  if limit < size then
    fail (.tooLarge size limit) "File exceeds compile-time maximum size limit"
      [("file", path), ("size_bytes", toString size), ("limit_bytes", toString limit)]
  else .ok ()

def decode (path : String) (bytes : ByteArray) : Step String :=
  match String.fromUTF8? bytes with
  | some text => .ok text
  | none => fail (.invalidEncoding path) "Invalid UTF-8 encoding"
      [("file", path), ("valid_up_to", toString (Text.validLength bytes))]

def checkContent (p : Loader) (path : String) (l : Loaded) : Step Loaded :=
  if p.rejectEmpty && l.source.isEmpty then
    fail (.empty path) "File is empty" [("file", path)]
  else .ok l

def successEvent (p : Loader) (t : Timing) (path : String) (l : Loaded) : Event :=
  if p.performanceLogging then
    (Event.success .fileLoaded "File processed successfully with performance metrics").withFields
      [("file", path), ("size_bytes", toString l.size), ("size_human", FileSize.text l.size),
        ("lines", toString l.lines), ("chars", toString l.characters), ("duration_ms", t.duration),
        ("chars_per_ms", t.rate l.characters), ("is_large_file", toString (FileSize.isLarge l.size))]
  else
    (Event.success .fileLoaded "File processed successfully").withFields
      [("file", path), ("size_bytes", toString l.size), ("lines", toString l.lines)]

/-- The result of a load and its last event. -/
def conclude (p : Loader) (t : Timing) (path : String) :
    Step Loaded → Except FileError Loaded × Event
  | .ok l => (.ok l, p.successEvent t path l)
  | .error f => (.error f.error, f.event)

def fileSteps (p : Loader) (path : String) (f : FileAccess) : Step Loaded := do
  let canonical ← checkPath path f
  let size ← match f.size with
    | .ok size => .ok size
    | .error fault => failBy path "file" "Failed to read file metadata" fault
  checkSize path size
  let bytes ← match f.content with
    | .ok bytes => .ok bytes
    | .error fault => failBy path "file" "Failed to read file" fault
  let source ← decode path bytes
  p.checkContent path
    { source, path := canonical, size, lines := Text.lineCount source, modified := f.modified }

def streamSteps (p : Loader) (name : String) (read : Except SystemFault ByteArray) :
    Step Loaded := do
  let bytes ← match read with
    | .ok bytes => .ok bytes
    | .error fault => failBy name "source" "Failed to read input" fault
  checkSize name bytes.size
  let source ← decode name bytes
  p.checkContent name
    { source, path := name, size := bytes.size, lines := Text.lineCount source, modified := none }

/-- Loads the file at `path`, with the events of the load in their order. -/
def loadFile (p : Loader) (t : Timing) (path : String) (f : FileAccess) :
    Except FileError Loaded × List Event :=
  let (result, event) := p.conclude t path (p.fileSteps path f)
  (result, [(Event.debug "Starting file processing").withField "file" path, event])

/-- Loads what a stream yields, with the events of the load, and leaves the rest of the
stream. One byte beyond the limit is asked for, to learn whether there is one. -/
def consume (p : Loader) (t : Timing) (name : String) (s : Stream) :
    (Except FileError Loaded × List Event) × Stream :=
  let (read, rest) := s.read (Limits.active.maxFileSize + 1)
  let (result, event) := p.conclude t name (p.streamSteps name read)
  ((result, [event]), rest)

def loadStream (p : Loader) (t : Timing) (name : String) (s : Stream) :
    Except FileError Loaded × List Event :=
  (p.consume t name s).1

end Loader
end ScriptScan
