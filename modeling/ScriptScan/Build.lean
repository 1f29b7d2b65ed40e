import ScriptScan.Config.Environment
import ScriptScan.File.Access
import ScriptScan.Limits
import ScriptScan.Toml.Read

/-! The build step: reads the limits of a profile from its file, checks them, and
writes them out as constants. -/
namespace ScriptScan.Build

structure Settings where
  profile : String
  directory : String
  /-- The directory that relative paths start from. -/
  root : String
deriving DecidableEq, Repr

def Settings.ofEnvironment (env : Environment) (root : String) : Settings where
  profile := (env.get? "SCRIPT_LEXER_BUILD_PROFILE").getD Limits.activeProfile
  directory := (env.get? "SCRIPT_LEXER_CONFIG_DIR").getD Limits.activeDirectory
  root := root

/-- One path below another; a path from the root stands by itself. -/
def join (path rest : String) : String :=
  if rest.startsWith "/" then rest
  else if path.isEmpty || path.endsWith "/" then path ++ rest
  else path ++ "/" ++ rest

/-- The file of the profile, from the root directory on. -/
def Settings.file (s : Settings) : String := join s.directory (s.profile ++ ".toml")

def Settings.path (s : Settings) : String := join (join s.root s.directory) (s.profile ++ ".toml")

/-- Why a build stops. -/
inductive Fault
  | missing (path root : String)
  | unreadable (path message : String)
  | malformed (path : String)
  | sizeTooLarge
  | thresholdTooLarge
  | noDiagnostics
  | bufferOutOfRange
  | productionSizeTooLarge
deriving DecidableEq, Repr

def Fault.message : Fault → String
  | missing path root => s!"Configuration file not found: {path}\nWorkspace root: {root}"
  | unreadable path message => s!"Failed to read {path}: {message}"
  | malformed path => s!"Invalid TOML in {path}"
  | sizeTooLarge => "max_file_size exceeds absolute maximum"
  | thresholdTooLarge => "large_file_threshold must not exceed max_file_size"
  | noDiagnostics => "max_diagnostics must be at least 1"
  | bufferOutOfRange => "log_buffer_size must be within 100..=100000"
  | productionSizeTooLarge => "PRODUCTION: max_file_size too high for production"

/-- The limits in a document. None may be left out. -/
def limits? (t : Toml) : Option Limits := do
  let [some file, some lexical, some logging] ← t.record? ["file_processing", "lexical", "logging"]
    | none
  let [some maxFileSize, some threshold] ←
    file.record? ["max_file_size", "large_file_threshold"] | none
  let [some maxDiagnostics] ← lexical.record? ["max_diagnostics"] | none
  let [some buffer, some message] ←
    logging.record? ["log_buffer_size", "max_log_message_length"] | none
  some {
    maxFileSize := ← maxFileSize.natural?
    largeFileThreshold := ← threshold.natural?
    maxDiagnostics := ← maxDiagnostics.natural?
    logBufferSize := ← buffer.natural?
    maxMessageLength := ← message.natural? }

/-- Whether limits make sense together, and suit the profile. -/
def check (profile : String) (l : Limits) : Except Fault Unit :=
  if 1000000000 < l.maxFileSize then .error .sizeTooLarge
  else if l.maxFileSize < l.largeFileThreshold then .error .thresholdTooLarge
  else if l.maxDiagnostics = 0 then .error .noDiagnostics
  else if l.logBufferSize < 100 ∨ 100000 < l.logBufferSize then .error .bufferOutOfRange
  else if profile = "production" ∧ 50000000 < l.maxFileSize then .error .productionSizeTooLarge
  else .ok ()

/-- The limits of a build, if its file is there and they pass the checks. -/
def limits (s : Settings) (f : FileAccess) : Except Fault Limits := do
  if !f.found then throw (.missing s.path s.root)
  let document ← match f.text with
    | .ok document => pure document
    | .error fault => throw (.unreadable s.path fault.message)
  match (Toml.read? document).bind limits? with
  | none => throw (.malformed s.path)
  | some l =>
    check s.profile l
    return l

/-- What the build says to the tool that runs it. -/
def notices (s : Settings) : String :=
  "cargo:rerun-if-changed=build.rs\n" ++
  "cargo:rerun-if-env-changed=SCRIPT_LEXER_BUILD_PROFILE\n" ++
  "cargo:rerun-if-env-changed=SCRIPT_LEXER_CONFIG_DIR\n" ++
  s!"cargo:rerun-if-changed={s.path}\n"

/-- The text of the constants. -/
def constants (profile : String) (l : Limits) : String :=
  "\n// Generated compile-time constants from TOML configuration\n" ++
  s!"// Profile: {profile}\n" ++
  "// DO NOT EDIT - Generated by build.rs\n\n" ++
  "pub mod compile_time \x7b\n" ++
  "    pub mod file_processing \x7b\n" ++
  s!"        pub const MAX_FILE_SIZE: u64 = {l.maxFileSize};\n" ++
  s!"        pub const LARGE_FILE_THRESHOLD: u64 = {l.largeFileThreshold};\n" ++
  "    \x7d\n\n" ++
  "    pub mod lexical \x7b\n" ++
  s!"        pub const MAX_DIAGNOSTICS: usize = {l.maxDiagnostics};\n" ++
  "    \x7d\n\n" ++
  "    pub mod logging \x7b\n" ++
  s!"        pub const LOG_BUFFER_SIZE: usize = {l.logBufferSize};\n" ++
  s!"        pub const MAX_LOG_MESSAGE_LENGTH: usize = {l.maxMessageLength};\n" ++
  "    \x7d\n\x7d\n"

end ScriptScan.Build
