import ScriptScan.Proofs.Delivery
import ScriptScan.Proofs.History

/-! The events of an analysis. However long the text is, the log gets its start, a warning for each
recorded character if the user asks for them, one for all that found no room, and the measures
at the end. An analysis of a file has one event more, and all of them name the file. -/
namespace ScriptScan

/-- An event that was made while `file` was noted, with no other values than these. -/
structure Event.Says (e : Event) (file : Option String) (level : Level) (code : Code)
    (values : List (String × String)) : Prop where
  level : e.level = level
  code : e.code = code
  file : e.context.get? "file" = file
  values : ∀ key, key ≠ "file" → e.context.get? key = lastValue? key values

theorem Event.says_tag {e : Event} {values : List (String × String)} (new : e.context = [])
    (unnamed : lastValue? "file" values = none) (file : Option String) :
    (Journal.tag file (e.withFields values)).Says file e.level e.code values := by
  have told (key : String) := Event.get?_withFields new values key
  cases file with
  | none => exact ⟨rfl, rfl, (told "file").trans unnamed, fun key _ => told key⟩
  | some path =>
    refine ⟨rfl, rfl, ?_, ?_⟩
    · rw [Journal.tag, withField, Fields.get?_set, if_pos rfl]
    · intro key other
      rw [Journal.tag, withField, Fields.get?_set, if_neg other.symm, told]

namespace Analysis

/-- The events of an analysis in their order, made while `file` was noted. -/
inductive Sequence (p : LexicalPreferences) (file : Option String) (text : String) (scan : Scan)
    (m : Metrics) : List Event → Prop
  | told
    (started : start.Says file .debug .plainDebug
      [("char_count", toString text.length),
        ("max_diagnostics", toString Limits.active.maxDiagnostics)])
    (warned : List.Forall₂ (fun d e => Event.Says e file .warning .unrecognizedCharacter <|
        if p.includePositions then
          [("line", toString d.position.line), ("column", toString d.position.column)] else [])
      (if p.logUnrecognized then scan.diagnostics.toList else []) warnings)
    (limited : List.Forall₂ (fun n e => Event.Says e file .warning .diagnosticLimitReached
        [("limit", toString Limits.active.maxDiagnostics), ("suppressed", toString n)])
      (if 0 < scan.suppressed then [scan.suppressed] else []) limits)
    (completed : last.Says file .info .analysisCompleted
      [("token_count", toString m.tokens), ("keywords", toString m.keywords),
        ("identifiers", toString m.identifiers), ("literals", toString m.literals),
        ("operators", toString m.operators), ("unrecognized_chars", toString m.unrecognized)]) :
    Sequence p file text scan m (start :: warnings ++ limits ++ [last])

structure Narrates (p : LexicalPreferences) (file : Option String) (text : String) (scan : Scan)
    (m : Metrics) (events : List Event) : Prop where
  sequence : Sequence p file text scan m events
  ascending : scan.diagnostics.toList.Pairwise fun d d' => d.position.offset < d'.position.offset
  bounded : events.length ≤ Limits.active.maxDiagnostics + 3

variable {p : LexicalPreferences} {file : Option String} {text : String} {scan : Scan}
  {m : Metrics} {events : List Event}

theorem Sequence.length_le (sequence : Sequence p file text scan m events) :
    events.length ≤ scan.diagnostics.size + 3 := by
  obtain ⟨-, warnings, limits, -⟩ := sequence
  have warned : (if p.logUnrecognized then scan.diagnostics.toList else []).length ≤
      scan.diagnostics.size := by split <;> simp
  have limited : (if 0 < scan.suppressed then [scan.suppressed] else []).length ≤ 1 := by
    split <;> simp
  rw [warnings.length_eq] at warned
  rw [limits.length_eq] at limited
  simp only [List.length_append, List.length_cons, List.length_nil]
  omega

theorem diagnosticEvent_says (places : Bool) (d : Diagnostic) (file : Option String) :
    (Journal.tag file (diagnosticEvent places d)).Says file .warning .unrecognizedCharacter <|
      if places then
        [("line", toString d.position.line), ("column", toString d.position.column)] else [] := by
  cases places with
  | true => exact Event.says_tag rfl rfl file
  | false =>
    let e := Event.warningWithCode d.code "Unrecognized character dropped"
    have bare : e.withFields [] = e := rfl
    change (Journal.tag file e).Says file .warning .unrecognizedCharacter []
    rw [← bare]
    exact Event.says_tag rfl rfl file

theorem ofText_sequence (p : LexicalPreferences) (file : Option String) (text : String) :
    Sequence p file text (ofText p text).scan (ofText p text).metrics
      ((ofText p text).events.map (Journal.tag file)) := by
  simp only [ofText, List.map_append, List.map_cons, List.map_nil]
  apply Sequence.told
  case started => exact Event.says_tag rfl rfl file
  case warned =>
    cases p.logUnrecognized with
    | true =>
      simp only [if_true, List.map_map, List.forall₂_map_right_iff, List.forall₂_same]
      intro d _
      exact diagnosticEvent_says p.includePositions d file
    | false => exact .nil
  case limited =>
    split
    case isTrue => exact .cons (Event.says_tag rfl rfl file) .nil
    case isFalse => exact .nil
  case completed => exact Event.says_tag rfl rfl file

theorem ofText_narrates (p : LexicalPreferences) (file : Option String) (text : String) :
    Narrates p file text (ofText p text).scan (ofText p text).metrics
      ((ofText p text).events.map (Journal.tag file)) := by
  have sequence := ofText_sequence p file text
  have reports : (ofText p text).scan.Reports text p.reportUnrecognized :=
    run_reports p.reportUnrecognized text
  refine ⟨sequence, reports.ascending, Nat.le_trans sequence.length_le ?_⟩
  exact Nat.add_le_add_right reports.size_le 3

end Analysis

namespace Analyzer
open Analysis

/-- A log at the level of debugging gets the events of an analysis, and nothing else. Those of a file
begin with one that tells of the file. -/
theorem analyses_told (a : Analyzer) (log : MemoryLog) (preferences : Option LoggingPreferences)
    (file : Option String) (console : Array ConsoleLine) :
    let j : Journal := { preferences, service := some ⟨.memory log, .debug⟩, file, console }
    (∀ text, ∃ events,
      Narrates a.preferences file text (a.analyze j text).1 (a.analyze j text).2.1.metrics events ∧
      j.Gains (a.analyze j text).2.2 events) ∧
    ∀ l : Loaded, ∃ first events,
      first.Says (some l.path) .debug .plainDebug
        [("size_bytes", toString l.size), ("lines", toString l.lines)] ∧
      Narrates a.preferences (some l.path) l.source
        (a.analyzeFile j l.path l.size l.lines l.source).1
        (a.analyzeFile j l.path l.size l.lines l.source).2.1.metrics events ∧
      j.Gains (a.analyzeFile j l.path l.size l.lines l.source).2.2 (first :: events) := by
  intro j
  constructor
  · intro text
    exact ⟨_, ofText_narrates a.preferences file text,
      Journal.reportAll_gains rfl (List.cons_ne_nil _ _)⟩
  · intro l
    have opened : (Journal.tag (some l.path) (fileEvent l.size l.lines)).Says (some l.path)
        .debug .plainDebug [("size_bytes", toString l.size), ("lines", toString l.lines)] :=
      Event.says_tag rfl rfl (some l.path)
    refine ⟨_, _, opened, ofText_narrates a.preferences (some l.path) l.source, ?_⟩
    -- The events are made while the path of the file is noted.
    exact (j.setFile l.path).reportAll_gains rfl
      (List.cons_ne_nil (fileEvent l.size l.lines) (ofText a.preferences l.source).events)

end Analyzer
end ScriptScan
