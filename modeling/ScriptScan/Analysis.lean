import ScriptScan.Config.Preferences
import ScriptScan.Log.Journal
import ScriptScan.Token.Scan

/-! Analysis of source texts: a scan under the user's preferences, with measures of
what was found and events that tell of it. -/
namespace ScriptScan

structure Metrics where
  tokens : Nat := 0
  keywords : Nat := 0
  identifiers : Nat := 0
  literals : Nat := 0
  operators : Nat := 0
  unrecognized : Nat := 0
  /-- The number of characters of the longest token. -/
  longestLexeme : Nat := 0
  characters : Nat := 0
  /-- The number of tokens of each kind that occurs, in the order of kinds. -/
  kinds : List (Kind × Nat) := []
deriving DecidableEq, Repr, Inhabited

namespace Metrics

/-- Counts one more of a kind. -/
def countKind (k : Kind) : List (Kind × Nat) → List (Kind × Nat)
  | [] => [(k, 1)]
  | (l, n) :: rest =>
    if k.rank < l.rank then (k, 1) :: (l, n) :: rest
    else if k = l then (l, n + 1) :: rest
    else (l, n) :: countKind k rest

def add (detailed : Bool) (m : Metrics) (t : Token) : Metrics :=
  let m := { m with
    tokens := m.tokens + 1
    longestLexeme := max m.longestLexeme t.text.length
    kinds := if detailed then countKind t.kind m.kinds else m.kinds }
  if t.kind.isKeyword then { m with keywords := m.keywords + 1 }
  else if t.kind.isOperator then { m with operators := m.operators + 1 }
  else if t.kind.isLiteral then { m with literals := m.literals + 1 }
  else { m with identifiers := m.identifiers + 1 }

/-- The measures of a scan of a text. -/
def ofScan (detailed : Bool) (text : String) (s : Scan) : Metrics :=
  s.tokens.foldl (add detailed)
    { characters := text.length, unrecognized := s.diagnostics.size + s.suppressed }

end Metrics

/-- What an analysis gives: the scan, its measures, and the events in their order. -/
structure Analysis where
  scan : Scan
  metrics : Metrics
  events : List Event

namespace Analysis

def startEvent (text : String) : Event :=
  (Event.debug "Starting lexical analysis").withFields
    [("char_count", toString text.length),
      ("max_diagnostics", toString Limits.active.maxDiagnostics)]

/-- The warning about one dropped character. -/
def diagnosticEvent (includePositions : Bool) (d : Diagnostic) : Event :=
  if includePositions then
    (Event.warningWithCode d.code d.message).withFields
      [("line", toString d.position.line), ("column", toString d.position.column)]
  else Event.warningWithCode d.code "Unrecognized character dropped"

def limitEvent (suppressed : Nat) : Event :=
  (Event.warningWithCode .diagnosticLimitReached "Diagnostic limit reached").withFields
    [("limit", toString Limits.active.maxDiagnostics), ("suppressed", toString suppressed)]

def completedEvent (m : Metrics) : Event :=
  (Event.success .analysisCompleted "Lexical analysis completed").withFields
    [("token_count", toString m.tokens), ("keywords", toString m.keywords),
      ("identifiers", toString m.identifiers), ("literals", toString m.literals),
      ("operators", toString m.operators), ("unrecognized_chars", toString m.unrecognized)]

def ofText (p : LexicalPreferences) (text : String) : Analysis :=
  let scan := Scan.ofScanner (Scanner.run { reporting := p.reportUnrecognized } text)
  let metrics := Metrics.ofScan p.detailedMetrics text scan
  let warnings :=
    if p.logUnrecognized then scan.diagnostics.toList.map (diagnosticEvent p.includePositions)
    else []
  let limit := if 0 < scan.suppressed then [limitEvent scan.suppressed] else []
  { scan, metrics, events := startEvent text :: warnings ++ limit ++ [completedEvent metrics] }

end Analysis

/-- The first event of the analysis of a file. -/
def fileEvent (size lines : Nat) : Event :=
  (Event.debug "Tokenizing file").withFields
    [("size_bytes", toString size), ("lines", toString lines)]

/-- Analyses one text after another, and keeps the measures of the last. -/
structure Analyzer where
  preferences : LexicalPreferences
  metrics : Metrics := {}
deriving DecidableEq, Repr, Inhabited

namespace Analyzer

def analyze (a : Analyzer) (j : Journal) (text : String) : Scan × Analyzer × Journal :=
  let r := Analysis.ofText a.preferences text
  (r.scan, { a with metrics := r.metrics }, j.reportAll r.events)

/-- Dropped characters are reported whatever the preferences say, and the first one
is an error. -/
def analyzeStrict (a : Analyzer) (j : Journal) (text : String) :
    Except ScanError Scan × Analyzer × Journal :=
  let reporting := { a.preferences with reportUnrecognized := true }
  let (scan, b, j) := { a with preferences := reporting }.analyze j text
  let restored := { b.preferences with reportUnrecognized := a.preferences.reportUnrecognized }
  let result := match scan.firstError? with
    | some e => .error e
    | none => .ok scan
  (result, { b with preferences := restored }, j)

/-- Analyses the text of a file, whose path every event then carries. -/
def analyzeFile (a : Analyzer) (j : Journal) (path : String) (size lines : Nat) (text : String) :
    Scan × Analyzer × Journal :=
  let ((scan, a), j) := j.withFile path fun j =>
    let (scan, a, j) := a.analyze (j.report (fileEvent size lines)) text
    ((scan, a), j)
  (scan, a, j)

end Analyzer
end ScriptScan
