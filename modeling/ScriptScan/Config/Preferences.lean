import ScriptScan.Config.Environment

/-! What the user may choose when the program runs. The defaults come from the
environment. -/
namespace ScriptScan

structure LexicalPreferences where
  /-- Record a diagnostic for every dropped character. -/
  reportUnrecognized : Bool
  /-- Log a warning for every recorded diagnostic. -/
  logUnrecognized : Bool
  /-- Count tokens by kind. -/
  detailedMetrics : Bool
  /-- Say in warnings where the character stood. -/
  includePositions : Bool
deriving DecidableEq, Repr, Inhabited

structure FilePreferences where
  rejectEmpty : Bool
  /-- Log sizes and times of a load in detail. -/
  performanceLogging : Bool
deriving DecidableEq, Repr, Inhabited

structure LoggingPreferences where
  /-- Log lines are JSON objects. -/
  structured : Bool
  /-- Without it only errors are logged. -/
  console : Bool
  minLevel : Level
deriving DecidableEq, Repr, Inhabited

structure RuntimeConfig where
  lexical : LexicalPreferences
  file : FilePreferences
  logging : LoggingPreferences
deriving DecidableEq, Repr, Inhabited

namespace LexicalPreferences

def default (env : Environment) : LexicalPreferences where
  reportUnrecognized := env.flag "SCRIPT_LEXER_REPORT_UNRECOGNIZED" true
  logUnrecognized := env.flag "SCRIPT_LEXER_LOG_UNRECOGNIZED" false
  detailedMetrics := env.flag "SCRIPT_LEXER_DETAILED_METRICS" true
  includePositions := env.flag "SCRIPT_LEXER_INCLUDE_POSITIONS" true

/-- The keys of the preferences in documents, in the order of the fields. -/
def keys : List String :=
  ["report_unrecognized_characters", "log_unrecognized_characters", "collect_detailed_metrics",
   "include_position_in_errors"]

end LexicalPreferences

namespace FilePreferences

def default (env : Environment) : FilePreferences where
  rejectEmpty := env.flag "SCRIPT_LEXER_REJECT_EMPTY_FILES" false
  performanceLogging := env.flag "SCRIPT_LEXER_PERFORMANCE_LOGGING" true

def keys : List String := ["reject_empty_files", "enable_performance_logging"]

end FilePreferences

namespace LoggingPreferences

def default (env : Environment) : LoggingPreferences where
  structured := env.flag "SCRIPT_LEXER_LOGGING_USE_STRUCTURED" false
  console := env.flag "SCRIPT_LEXER_LOGGING_ENABLE_CONSOLE" false
  minLevel := (env.level? "SCRIPT_LEXER_LOGGING_MIN_LEVEL").getD .info

def keys : List String := ["use_structured_logging", "enable_console_logging", "min_log_level"]

end LoggingPreferences

namespace RuntimeConfig

def default (env : Environment) : RuntimeConfig where
  lexical := .default env
  file := .default env
  logging := .default env

def keys : List String := ["lexical", "file_processor", "logging"]

end RuntimeConfig
end ScriptScan
