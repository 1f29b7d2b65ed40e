import ScriptScan.Config.Preferences
import ScriptScan.Toml.Read

/-! Preferences in TOML documents, one table for each group. A key that is left out
takes its default, and keys of no preference are passed over. -/
namespace ScriptScan

def Level.ofToml? (t : Toml) : Option Level := t.choice?.bind ofName?

namespace LexicalPreferences

def ofToml? (env : Environment) (t : Toml) : Option LexicalPreferences := do
  let [report, log, metrics, positions] ← t.record? keys | none
  let d := default env
  some {
    reportUnrecognized := ← Toml.orElse? Toml.boolean? d.reportUnrecognized report
    logUnrecognized := ← Toml.orElse? Toml.boolean? d.logUnrecognized log
    detailedMetrics := ← Toml.orElse? Toml.boolean? d.detailedMetrics metrics
    includePositions := ← Toml.orElse? Toml.boolean? d.includePositions positions }

end LexicalPreferences

namespace FilePreferences

def ofToml? (env : Environment) (t : Toml) : Option FilePreferences := do
  let [reject, performance] ← t.record? keys | none
  let d := default env
  some {
    rejectEmpty := ← Toml.orElse? Toml.boolean? d.rejectEmpty reject
    performanceLogging := ← Toml.orElse? Toml.boolean? d.performanceLogging performance }

end FilePreferences

namespace LoggingPreferences

def ofToml? (env : Environment) (t : Toml) : Option LoggingPreferences := do
  let [structured, console, level] ← t.record? keys | none
  let d := default env
  some {
    structured := ← Toml.orElse? Toml.boolean? d.structured structured
    console := ← Toml.orElse? Toml.boolean? d.console console
    minLevel := ← Toml.orElse? Level.ofToml? d.minLevel level }

end LoggingPreferences

namespace RuntimeConfig

def ofToml? (env : Environment) (t : Toml) : Option RuntimeConfig := do
  let [lexical, file, logging] ← t.record? keys | none
  let d := default env
  some {
    lexical := ← Toml.orElse? (LexicalPreferences.ofToml? env) d.lexical lexical
    file := ← Toml.orElse? (FilePreferences.ofToml? env) d.file file
    logging := ← Toml.orElse? (LoggingPreferences.ofToml? env) d.logging logging }

/-- The configuration that a document gives, over the defaults. -/
def ofDocument? (env : Environment) (document : String) : Option RuntimeConfig :=
  (Toml.read? document).bind (ofToml? env)

end RuntimeConfig
end ScriptScan
