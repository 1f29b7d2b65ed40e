import ScriptScan.Analysis
import ScriptScan.File.Load
import ScriptScan.Proofs.MaximalMunch
import ScriptScan.Proofs.Strays

/-! Analyzers over a history of calls. Preferences decide whether diagnostics are reported,
never what the tokens are. A call leaves nothing behind that a later one depends on: the
analyzer answers like a new one that has the preferences set last. -/
namespace ScriptScan

namespace Scanner
variable {s : Scanner} {c : Char}

theorem skip_of_silent (silent : s.reporting = false) (c : Char) : s.skip c = s := by
  unfold skip drop
  simp [silent]

theorem Step.silent {t : Scanner} (moved : Step s c t) (silent : s.reporting = false) :
    t.diagnostics = s.diagnostics ∧ t.suppressed = s.suppressed := by
  cases moved with
  | extend | start => exact ⟨rfl, rfl⟩
  | skip =>
    rw [skip_of_silent (s := s.closed) silent]
    exact ⟨rfl, rfl⟩

theorem foldl_feed_silent (coherent : s.Coherent) (silent : s.reporting = false)
    (cs : List Char) :
    (cs.foldl feed s).diagnostics = s.diagnostics ∧ (cs.foldl feed s).suppressed = s.suppressed := by
  induction cs generalizing s with
  | nil => exact ⟨rfl, rfl⟩
  | cons c cs ih =>
    have moved := step_spec coherent c
    obtain ⟨diagnostics, suppressed⟩ := moved.silent silent
    obtain ⟨diagnostics', suppressed'⟩ :=
      ih (feed_coherent coherent c) (moved.reporting_eq.trans silent)
    exact ⟨diagnostics'.trans diagnostics, suppressed'.trans suppressed⟩

theorem run_silent (text : String) :
    (run { reporting := false } text).diagnostics = #[] ∧
      (run { reporting := false } text).suppressed = 0 := by
  have new : Coherent { reporting := false } := Shape.initial
  have fed := foldl_feed_silent new rfl text.toList
  rw [run, feedAll_eq, finish_eq (foldl_feed_coherent new text.toList)]
  exact fed

end Scanner

/-- The scan has the tokens of the text, and its diagnostics when they are asked for. -/
structure Scan.Reports (s : Scan) (text : String) (reporting : Bool) : Prop where
  tokens : s.tokens = tokenize text
  diagnostics : s.diagnostics =
    if reporting then (tokenizeWithDiagnostics text).diagnostics else #[]
  suppressed : s.suppressed =
    if reporting then (tokenizeWithDiagnostics text).suppressed else 0

theorem run_reports (reporting : Bool) (text : String) :
    (Scan.ofScanner (Scanner.run { reporting } text)).Reports text reporting := by
  constructor
  case tokens => exact run_tokens reporting text
  case diagnostics =>
    cases reporting with
    | true => rfl
    | false => exact (Scanner.run_silent text).1
  case suppressed =>
    cases reporting with
    | true => rfl
    | false => exact (Scanner.run_silent text).2

namespace Scan
variable {s : Scan} {text : String} {reporting : Bool}

theorem Reports.diagnostics_toList (reports : s.Reports text reporting) :
    s.diagnostics.toList = (if reporting then strays text else []).take Limits.active.maxDiagnostics := by
  rw [reports.diagnostics]
  split
  case isTrue => exact (Scanner.run_recorded text).1
  case isFalse => rfl

theorem Reports.size_le (reports : s.Reports text reporting) :
    s.diagnostics.size ≤ Limits.active.maxDiagnostics := by
  rw [← Array.length_toList, reports.diagnostics_toList]
  exact List.length_take_le _ _

theorem Reports.ascending (reports : s.Reports text reporting) :
    s.diagnostics.toList.Pairwise fun d d' => d.position.offset < d'.position.offset := by
  rw [reports.diagnostics_toList]
  apply List.Pairwise.take
  split
  case isTrue =>
    rw [strays_eq]
    exact (straysFrom_ascending .start text.toList).2
  case isFalse => exact .nil

theorem Reports.covers (reports : s.Reports text reporting) (member : d ∈ s.diagnostics) :
    d.Covers text := by
  rw [reports.diagnostics] at member
  split at member
  case isTrue => exact covers_of_mem_strays (List.mem_of_mem_take (mem_diagnostics_iff.mp member))
  case isFalse => simp at member

theorem Reports.diagnostics_eq_empty_iff (reports : s.Reports text true) :
    s.diagnostics = #[] ↔ ∀ c ∈ text.toList, isStray c = false := by
  have room : Limits.active.maxDiagnostics ≠ 0 := by decide
  rw [← straysFrom_eq_nil_iff (p := .start), ← strays_eq, ← Array.toList_inj,
    reports.diagnostics_toList, if_pos rfl, List.take_eq_nil_iff]
  exact or_iff_right room

end Scan

namespace Analyzer

/-- A call, with the log that it meets. The log is no part of the analyzer, and others may
have written to it since the last call. -/
inductive Call
  | analyze (j : Journal) (text : String)
  | analyzeStrict (j : Journal) (text : String)
  | analyzeFile (j : Journal) (l : Loaded)
  | setPreferences (p : LexicalPreferences)

def Call.preferences? : Call → Option LexicalPreferences
  | setPreferences p => some p
  | analyze .. | analyzeStrict .. | analyzeFile .. => none

def serve (a : Analyzer) : Call → Analyzer
  | .analyze j text => (a.analyze j text).2.1
  | .analyzeStrict j text => (a.analyzeStrict j text).2.1
  | .analyzeFile j l => (a.analyzeFile j l.path l.size l.lines l.source).2.1
  | .setPreferences p => { a with preferences := p }

def after (a : Analyzer) (calls : List Call) : Analyzer := calls.foldl serve a

/-- The preferences that were set last, or else the first ones. -/
def inForce (p : LexicalPreferences) (calls : List Call) : LexicalPreferences :=
  (calls.filterMap Call.preferences?).getLast?.getD p

/-- The analyzer answers like a new one with preferences `p`. A strict analysis measures like
one that reports. -/
structure AnswersAfresh (a : Analyzer) (p : LexicalPreferences) : Prop where
  preferences : a.preferences = p
  analyze : ∀ j text, (a.analyze j text).1.Reports text p.reportUnrecognized
  analyzeFile : ∀ j (l : Loaded), (a.analyzeFile j l.path l.size l.lines l.source).1.Reports
    l.source p.reportUnrecognized
  metrics : ∀ j j' text, (a.analyze j text).2.1.metrics =
    (({ preferences := p } : Analyzer).analyze j' text).2.1.metrics
  fileMetrics : ∀ j j' (l : Loaded),
    (a.analyzeFile j l.path l.size l.lines l.source).2.1.metrics =
      (({ preferences := p } : Analyzer).analyze j' l.source).2.1.metrics
  strictMetrics : ∀ j j' text, (a.analyzeStrict j text).2.1.metrics =
    (({ preferences := { p with reportUnrecognized := true } } : Analyzer).analyze
      j' text).2.1.metrics

/-- Only a call that sets preferences changes them. A strict analysis puts back what it
overrides. -/
theorem serve_preferences (a : Analyzer) (c : Call) :
    (a.serve c).preferences = c.preferences?.getD a.preferences := by
  cases c <;> rfl

theorem after_preferences (a : Analyzer) (calls : List Call) :
    (a.after calls).preferences = inForce a.preferences calls := by
  induction calls generalizing a with
  | nil => rfl
  | cons c calls ih =>
    rw [after, List.foldl_cons, ← after, ih, serve_preferences, inForce, inForce]
    cases set : c.preferences? with
    | none => rw [List.filterMap_cons_none set, Option.getD_none]
    | some p =>
      rw [List.filterMap_cons_some set, List.getLast?_cons, Option.getD_some, Option.getD_some]

/-- Measures are taken anew in every analysis, so that the preferences are all that an analyzer
hands on to it. -/
theorem answersAfresh (a : Analyzer) : a.AnswersAfresh a.preferences where
  preferences := rfl
  analyze _ text := run_reports a.preferences.reportUnrecognized text
  analyzeFile _ l := run_reports a.preferences.reportUnrecognized l.source
  metrics _ _ _ := rfl
  fileMetrics _ _ _ := rfl
  strictMetrics _ _ _ := rfl

/-- Whatever was analyzed before, an analyzer answers like a new one that has the preferences
set last. -/
theorem after_answersAfresh (p : LexicalPreferences) (calls : List Call) :
    (after { preferences := p } calls).AnswersAfresh (inForce p calls) := by
  have set : (after { preferences := p } calls).preferences = inForce p calls :=
    after_preferences _ calls
  rw [← set]
  exact answersAfresh _

end Analyzer
end ScriptScan
