import ScriptScan.Config.Preferences
import ScriptScan.Json.Read
import ScriptScan.Json.Write

/-! Preferences in JSON. A key that is left out takes its default. -/
namespace ScriptScan

def Level.toJson (l : Level) : Json := .text l.name

def Level.ofJson? (j : Json) : Option Level := j.choice?.bind ofName?

namespace LexicalPreferences

def toJson (p : LexicalPreferences) : Json :=
  .object (keys.zip [.bool p.reportUnrecognized, .bool p.logUnrecognized, .bool p.detailedMetrics,
    .bool p.includePositions])

def ofJson? (env : Environment) (j : Json) : Option LexicalPreferences := do
  let [report, log, metrics, positions] ← j.record? keys | none
  let d := default env
  some {
    reportUnrecognized := ← Json.orElse? Json.bool? d.reportUnrecognized report
    logUnrecognized := ← Json.orElse? Json.bool? d.logUnrecognized log
    detailedMetrics := ← Json.orElse? Json.bool? d.detailedMetrics metrics
    includePositions := ← Json.orElse? Json.bool? d.includePositions positions }

end LexicalPreferences

namespace FilePreferences

def toJson (p : FilePreferences) : Json :=
  .object (keys.zip [.bool p.rejectEmpty, .bool p.performanceLogging])

def ofJson? (env : Environment) (j : Json) : Option FilePreferences := do
  let [reject, performance] ← j.record? keys | none
  let d := default env
  some {
    rejectEmpty := ← Json.orElse? Json.bool? d.rejectEmpty reject
    performanceLogging := ← Json.orElse? Json.bool? d.performanceLogging performance }

end FilePreferences

namespace LoggingPreferences

def toJson (p : LoggingPreferences) : Json :=
  .object (keys.zip [.bool p.structured, .bool p.console, p.minLevel.toJson])

def ofJson? (env : Environment) (j : Json) : Option LoggingPreferences := do
  let [structured, console, level] ← j.record? keys | none
  let d := default env
  some {
    structured := ← Json.orElse? Json.bool? d.structured structured
    console := ← Json.orElse? Json.bool? d.console console
    minLevel := ← Json.orElse? Level.ofJson? d.minLevel level }

end LoggingPreferences

namespace RuntimeConfig

def toJson (c : RuntimeConfig) : Json :=
  .object (keys.zip [c.lexical.toJson, c.file.toJson, c.logging.toJson])

def ofJson? (env : Environment) (j : Json) : Option RuntimeConfig := do
  let [lexical, file, logging] ← j.record? keys | none
  let d := default env
  some {
    lexical := ← Json.orElse? (LexicalPreferences.ofJson? env) d.lexical lexical
    file := ← Json.orElse? (FilePreferences.ofJson? env) d.file file
    logging := ← Json.orElse? (LoggingPreferences.ofJson? env) d.logging logging }

end RuntimeConfig
end ScriptScan
