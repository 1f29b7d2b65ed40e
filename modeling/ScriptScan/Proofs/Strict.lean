import ScriptScan.Command.Run
import ScriptScan.Proofs.Limits
import ScriptScan.Proofs.MaximalMunch
import ScriptScan.Proofs.Strays

/-! The strict verdict. A text is refused for its first stray character and for
nothing else, whichever way it is scanned and whatever the preferences say. -/
namespace ScriptScan

/-- The error tells of the first stray character of the text and where it stands. -/
def ScanError.IsFirst (e : ScanError) (text : String) : Prop :=
  ∃ before after, text = before ++ String.singleton e.character ++ after ∧
    ¬ HasStray before ∧ isStray e.character = true ∧
    e.line = (Position.start.advanceAll before).line ∧
    e.column = (Position.start.advanceAll before).column

/-- What a strict scan of a text is to give, whatever comes with the tokens. -/
structure IsVerdict (text : String) (tokens : α → Array Token) (verdict : Except ScanError α) :
    Prop where
  refused_iff : (∃ e, verdict = .error e) ↔ HasStray text
  refused : ∀ e, verdict = .error e → e.IsFirst text
  accepted : ∀ found, verdict = .ok found → tokens found = tokenize text

theorem isFirst_of_strays (first : (strays text)[0]? = some d) :
    (ScanError.ofDiagnostic d).IsFirst text := by
  obtain ⟨before, after, same, none, stray, position⟩ := strays_getElem? first
  have clear : ¬ HasStray before := by
    rw [← strays_ne_nil_iff]
    exact not_not_intro (List.length_eq_zero_iff.mp none)
  exact ⟨before, after, same, clear, stray, congrArg Position.line position,
    congrArg Position.column position⟩

/-- The limit leaves room for the first diagnostic. -/
theorem firstError?_eq (text : String) :
    (tokenizeWithDiagnostics text).firstError? = (strays text)[0]?.map .ofDiagnostic := by
  have held := (Scanner.run_recorded text).1
  have room := (Build.check_eq_ok_iff.mp Limits.active_passes).one_le_maxDiagnostics
  have first : (Scanner.run {} text).diagnostics[0]? = (strays text)[0]? := by
    rw [← Array.getElem?_toList, held, List.getElem?_take_of_lt room]
  rw [← first]
  rfl

theorem firstError?_isSome (text : String) :
    (tokenizeWithDiagnostics text).firstError?.isSome = true ↔ HasStray text := by
  rw [firstError?_eq, Option.isSome_map, ← List.head?_eq_getElem?, List.isSome_head?]
  exact strays_ne_nil_iff text

theorem firstError?_isFirst (found : (tokenizeWithDiagnostics text).firstError? = some e) :
    e.IsFirst text := by
  rw [firstError?_eq] at found
  obtain ⟨d, first, rfl⟩ := Option.map_eq_some_iff.mp found
  exact isFirst_of_strays first

theorem hasDiagnostics_eq (s : Scan) : s.hasDiagnostics = s.firstError?.isSome := by
  rw [Scan.hasDiagnostics, Scan.firstError?, Option.isSome_map, ← Array.isEmpty_toList,
    ← Array.getElem?_toList, ← List.head?_eq_getElem?]
  cases s.diagnostics.toList <;> rfl

/-- Failing with the first error gives a verdict, whatever else succeeds with. -/
theorem isVerdict_match (success : α) (found : tokens success = tokenize text) :
    IsVerdict text tokens (match (tokenizeWithDiagnostics text).firstError? with
      | some e => .error e
      | none => .ok success) := by
  have present := firstError?_isSome text
  have first (e : ScanError) := @firstError?_isFirst text e
  generalize (tokenizeWithDiagnostics text).firstError? = error at present first
  cases error with
  | none =>
    constructor
    · simpa using present
    · simp
    · simpa using found
  | some e =>
    constructor
    · simpa using present
    · simpa using first e rfl
    · simp

/-- All strict ways to scan agree on a text: the two functions that fail with an error, the
diagnostics of a plain scan, and the command line under any preferences. An analyzer keeps
its preferences. -/
theorem strict_paths_agree (text : String) (a : Analyzer) (p : LexicalPreferences)
    (j j' : Journal) (l : Loaded) :
    IsVerdict text id (tokenizeStrict text) ∧
      IsVerdict text Scan.tokens (a.analyzeStrict j text).1 ∧
      (a.analyzeStrict j text).2.1.preferences = a.preferences ∧
      ((tokenizeWithDiagnostics text).firstError?.isSome = true ↔ HasStray text) ∧
      (∀ e, (tokenizeWithDiagnostics text).firstError? = some e → e.IsFirst text) ∧
      ((Command.analyze p j' { l with source := text } true).1.2 = true ↔ HasStray text) ∧
      (Command.analyze p j' { l with source := text } true).1.1.tokens = tokenize text := by
  have tokens : (tokenizeWithDiagnostics text).tokens = tokenize text := run_tokens true text
  have scanned : (Command.analyze p j' { l with source := text } true).1 =
      (tokenizeWithDiagnostics text, (tokenizeWithDiagnostics text).hasDiagnostics) := rfl
  refine ⟨isVerdict_match _ tokens, isVerdict_match _ tokens, rfl, firstError?_isSome text,
    fun _ => firstError?_isFirst, ?_, ?_⟩
  · rw [scanned, hasDiagnostics_eq]
    exact firstError?_isSome text
  · rw [scanned]
    exact tokens

end ScriptScan
