import ScriptScan.Proofs.Loading
import ScriptScan.Proofs.Strict

/-! Runs of the command line. Standard output and exit status are told by the source, by the
options for format and strictness and by the policy for empty files. How dropped characters
are reported and what is logged does not show there. -/
namespace ScriptScan

/-- The run gets as far as its input: the input is named, and the configuration that the
options ask for is read. -/
structure Invocation.Configured (i : Invocation) (input : String) (o : Options)
    (c : RuntimeConfig) : Prop where
  arguments : ∃ rest, i.arguments = input :: rest ∧ (Options.read rest).1 = o
  named : input ≠ "--help"
  configuration : Command.configuration i o = .ok c

/-- The input is `data`, from standard input or from a regular file that can be read. -/
inductive Invocation.Holds (i : Invocation) : String → ByteArray → Prop
  | standard : i.standardInput = ⟨data, none⟩ → Holds i "-" data
  | file : path ≠ "-" → path ≠ "" → (i.access path).Holds place data → Holds i path data

/-- Two runs have the same input: the same stream, whether or not it ends in a fault, a file
of which the system says the same, or the same bytes wherever they are from. -/
inductive SameInput (i i' : Invocation) : String → String → Prop
  | standard : i.standardInput = i'.standardInput → SameInput i i' "-" "-"
  | file : path ≠ "-" → i.access path = i'.access path → SameInput i i' path path
  | bytes : i.Holds input data → i'.Holds input' data → SameInput i i' input input'

namespace Loader
variable {p p' : Loader}

theorem checkContent_congr (policy : p.rejectEmpty = p'.rejectEmpty) :
    p.checkContent = p'.checkContent := by
  funext path l
  rw [checkContent, checkContent, policy]

theorem loadFile_congr (policy : p.rejectEmpty = p'.rejectEmpty) (t t' : Timing)
    (path : String) (f : FileAccess) : (p.loadFile t path f).1 = (p'.loadFile t' path f).1 := by
  rw [loadFile_fst, loadFile_fst, fileSteps, fileSteps, checkContent_congr policy]

theorem loadStream_congr (policy : p.rejectEmpty = p'.rejectEmpty) (t t' : Timing)
    (name : String) (s : Stream) :
    (p.loadStream t name s).1 = (p'.loadStream t' name s).1 := by
  simp only [loadStream_fst, streamSteps, checkContent_congr policy]

end Loader

namespace Journal

/-- The preferences and the service of a new log are still free to be set, and the limits of
this build have no fault. -/
theorem exists_started (console : Array ConsoleLine) (p : LoggingPreferences)
    (env : Environment) :
    ∃ j, ((({ console } : Journal).setPreferences p).bind fun j => j.start env) = .ok j := by
  have sound : Limits.active.loggingFault? = none := rfl
  simp [setPreferences, start, startWith, sound, bind, Except.bind, pure, Except.pure]

end Journal

namespace Command
variable {i i' : Invocation} {input input' : String} {o o' : Options} {c c' : RuntimeConfig}
  {p p' : FilePreferences} {data : ByteArray}

/-- The text that a load gives, if it succeeds. -/
def source? (i : Invocation) (p : FilePreferences) (input : String) : Option String :=
  (load i p input).1.toOption.map Loaded.source

theorem source?_eq_some_iff {text : String} :
    source? i p input = some text ↔ ∃ l, (load i p input).1 = .ok l ∧ l.source = text := by
  rw [source?]
  cases (load i p input).1 <;> simp [Except.toOption]

theorem source?_eq_none_iff : source? i p input = none ↔ ∃ e, (load i p input).1 = .error e := by
  rw [source?]
  cases (load i p input).1 <;> simp [Except.toOption]

theorem load_standard (i : Invocation) (p : FilePreferences) :
    load i p "-" = Loader.loadStream p i.timing "<stdin>" i.standardInput := if_pos rfl

theorem load_file (apart : input ≠ "-") (i : Invocation) (p : FilePreferences) :
    load i p input = Loader.loadFile p i.timing input (i.access input) := if_neg apart

theorem map_source_retold (path place : String) (modified : Option Timestamp) (size : Nat)
    (r : Except FileError Loaded) :
    (Loader.retold path place modified size r).toOption.map Loaded.source =
      r.toOption.map Loaded.source := by
  cases r <;> rfl

/-- Bytes from a file are loaded like bytes from a stream. -/
theorem source?_of_holds (holds : i.Holds input data) (p : FilePreferences) :
    source? i p input =
      (Loader.loadStream p i.timing "<stdin>" ⟨data, none⟩).1.toOption.map Loaded.source := by
  cases holds with
  | standard stream => rw [source?, load_standard, stream]
  | file apart named holds =>
    rw [source?, load_file apart, Loader.loadFile_eq_retold p _ i.timing "<stdin>" holds named,
      map_source_retold]

/-- A text within the limit that the policy for empty files admits is loaded. -/
theorem source?_of_holds_toUTF8 {text : String} (holds : i.Holds input text.toUTF8)
    (within : text.toUTF8.size ≤ Limits.active.maxFileSize)
    (accepted : ¬ (text = "" ∧ p.rejectEmpty = true)) : source? i p input = some text := by
  have kept : ¬ (text.toUTF8 = .empty ∧ p.rejectEmpty = true) := by
    rwa [Loader.toUTF8_eq_empty_iff]
  have answer := Loader.loadStream_answers p i.timing "<stdin>" ⟨text.toUTF8, none⟩
  rw [source?_of_holds holds, answer.unique (.settled within rfl (.loaded rfl kept))]
  rfl

theorem source?_congr (same : SameInput i i' input input')
    (policy : p.rejectEmpty = p'.rejectEmpty) : source? i p input = source? i' p' input' := by
  cases same with
  | standard stream =>
    rw [source?, source?, load_standard, load_standard, stream,
      Loader.loadStream_congr policy i.timing i'.timing]
  | file apart access =>
    rw [source?, source?, load_file apart, load_file apart, access,
      Loader.loadFile_congr policy i.timing i'.timing]
  | bytes holds holds' =>
    rw [source?_of_holds holds, source?_of_holds holds',
      Loader.loadStream_congr policy i.timing i'.timing]

theorem run_of_configured (configured : i.Configured input o c) :
    ∃ j, run i = process i input o c j := by
  obtain ⟨⟨rest, arguments, rfl⟩, named, configuration⟩ := configured
  generalize read : Options.read rest = parsed at configuration ⊢
  obtain ⟨o, warnings⟩ := parsed
  obtain ⟨j, started⟩ := Journal.exists_started
    (warnings.map fun w => ConsoleLine.plain w.message).toArray c.logging i.environment
  refine ⟨j, ?_⟩
  unfold run
  simp only [arguments, read, configuration, started]

theorem analyze_tokens (p : LexicalPreferences) (j : Journal) (l : Loaded) (strict : Bool) :
    (analyze p j l strict).1.1.tokens = tokenize l.source :=
  run_tokens _ l.source

theorem analyze_failed_iff (p : LexicalPreferences) (j : Journal) (l : Loaded) (strict : Bool) :
    (analyze p j l strict).1.2 = true ↔ strict = true ∧ HasStray l.source := by
  cases strict with
  | false => simp [analyze]
  | true =>
    have failed : (analyze p j l true).1.2 =
        (tokenizeWithDiagnostics l.source).hasDiagnostics := rfl
    rw [failed, hasDiagnostics_eq, firstError?_isSome]
    simp

theorem process_of_error (failed : (load i c.file input).1 = .error e) (j : Journal) :
    (process i input o c j).status = 1 ∧ (process i input o c j).output = "" := by
  simp [process, failed]

theorem process_of_ok (loaded : (load i c.file input).1 = .ok l) (j : Journal) :
    ((process i input o c j).status = 0 ∨ (process i input o c j).status = 1) ∧
      ((process i input o c j).status = 1 ↔ o.strict = true ∧ HasStray l.source) ∧
      (process i input o c j).output = tokenText o.json (tokenize l.source) := by
  have tokens (j : Journal) := analyze_tokens c.lexical j l o.strict
  have failed (j : Journal) := analyze_failed_iff c.lexical j l o.strict
  simp only [process, loaded, tokens, and_true]
  rw [← failed (j.reportAll (load i c.file input).2)]
  split <;> simp_all

/-- The outcome that a source has, or that its absence has. -/
structure Presents (o : Options) (source : Option String) (r : Outcome) : Prop where
  status : r.status = 0 ∨ r.status = 1
  failed_iff : r.status = 1 ↔
    source = none ∨ o.strict = true ∧ ∃ text, source = some text ∧ HasStray text
  output : r.output = (source.map fun text => tokenText o.json (tokenize text)).getD ""

theorem run_presents (configured : i.Configured input o c) :
    Presents o (source? i c.file input) (run i) := by
  obtain ⟨j, run⟩ := run_of_configured configured
  rw [run]
  cases result : (load i c.file input).1 with
  | error e =>
    obtain ⟨status, output⟩ := process_of_error (o := o) result j
    have absent : source? i c.file input = none := source?_eq_none_iff.mpr ⟨e, result⟩
    constructor <;> simp [absent, status, output]
  | ok l =>
    obtain ⟨status, failed, output⟩ := process_of_ok (o := o) result j
    have present : source? i c.file input = some l.source :=
      source?_eq_some_iff.mpr ⟨l, result, rfl⟩
    rw [present]
    constructor
    case status => exact status
    case failed_iff => simpa using failed
    case output => simpa using output

theorem Presents.unique {source : Option String} {r r' : Outcome}
    (first : Presents o source r) (second : Presents o' source r') (json : o.json = o'.json)
    (strict : o.strict = o'.strict) : r.status = r'.status ∧ r.output = r'.output := by
  constructor
  · have failed := first.failed_iff.trans (strict ▸ second.failed_iff.symm)
    rcases first.status with zero | one
    · rcases second.status with zero' | one'
      · rw [zero, zero']
      · simp [zero, one'] at failed
    · rw [one, failed.mp one]
  · rw [first.output, second.output, json]

/-- Two runs on the same input that agree in format, strictness and the policy for empty files
have the same standard output and exit status, whatever else is configured. The status is 1 if
nothing was loaded, or if a strict run met a stray character; the tokens of what was loaded are
printed in any case. -/
theorem run_congr (configured : i.Configured input o c) (configured' : i'.Configured input' o' c')
    (same : SameInput i i' input input') (json : o.json = o'.json) (strict : o.strict = o'.strict)
    (policy : c.file.rejectEmpty = c'.file.rejectEmpty) :
    (run i).output = (run i').output ∧ (run i).status = (run i').status ∧
      ((run i).status = 0 ∨ (run i).status = 1) ∧
      ((run i).status = 1 ↔ (∃ e, (load i c.file input).1 = .error e) ∨
        o.strict = true ∧ ∃ l, (load i c.file input).1 = .ok l ∧ HasStray l.source) ∧
      (∀ e, (load i c.file input).1 = .error e → (run i).output = "") ∧
      ∀ l, (load i c.file input).1 = .ok l →
        (run i).output = tokenText o.json (tokenize l.source) := by
  have first := run_presents configured
  have second := run_presents configured'
  rw [← source?_congr same policy] at second
  obtain ⟨status, output⟩ := first.unique second json strict
  refine ⟨output, status, first.status, ?_, ?_, ?_⟩
  · rw [first.failed_iff, source?_eq_none_iff]
    simp only [source?_eq_some_iff]
    constructor
    · rintro (failed | ⟨strict, _, ⟨l, loaded, rfl⟩, stray⟩)
      · exact .inl failed
      · exact .inr ⟨strict, l, loaded, stray⟩
    · rintro (failed | ⟨strict, l, loaded, stray⟩)
      · exact .inl failed
      · exact .inr ⟨strict, _, ⟨l, loaded, rfl⟩, stray⟩
  · intro e failed
    rw [first.output, source?_eq_none_iff.mpr ⟨e, failed⟩]
    rfl
  · intro l loaded
    rw [first.output, source?_eq_some_iff.mpr ⟨l, loaded, rfl⟩]
    rfl

/-- A strict run on standard input, and one on a file of the same bytes that is told not to
report. -/
theorem run_congr_unreported :
    let file (text : String) : FileAccess :=
      ⟨true, true, .ok "/a", .ok text.toUTF8.size, .ok text.toUTF8, none⟩
    let document := "[lexical]\nreport_unrecognized_characters = false\n"
    let t : Timing := ⟨"0.00", fun _ => "0.00"⟩
    let i : Invocation := ⟨"", ["-", "--strict"], [], ⟨"a#".toUTF8, none⟩, fun _ => file "", t⟩
    let i' : Invocation := ⟨"", ["a", "--config", "b", "--strict"],
      [("SCRIPT_LEXER_LOGGING_ENABLE_CONSOLE", "true")], ⟨.empty, none⟩,
      fun path => file (if path = "a" then "a#" else document), t⟩
    let o : Options := { strict := true }
    let o' : Options := { strict := true, config := some "b" }
    let c := RuntimeConfig.default []
    let c' : RuntimeConfig := ⟨⟨false, false, true, true⟩, ⟨false, true⟩, ⟨false, true, .info⟩⟩
    (i.Configured "-" o c ∧ i'.Configured "a" o' c' ∧ SameInput i i' "-" "a" ∧
      o.json = o'.json ∧ o.strict = o'.strict ∧ c.file.rejectEmpty = c'.file.rejectEmpty) ∧
    (run i).output = (run i').output ∧ (run i).status = (run i').status := by
  intro file document t i i' o o' c c'
  have configured : i.Configured "-" o c := ⟨⟨_, rfl, rfl⟩, by decide, rfl⟩
  have configured' : i'.Configured "a" o' c' := by
    refine ⟨⟨_, rfl, rfl⟩, by decide, ?_⟩
    have text : (i'.access "b").text = .ok document := FileAccess.text_of_content rfl
    have read : RuntimeConfig.ofDocument? i'.environment document = some c' := by decide +kernel
    simp [configuration, o', RuntimeConfig.load, text, read]
  have same : SameInput i i' "-" "a" := by
    have holds : (i'.access "a").Holds "/a" "a#".toUTF8 := ⟨rfl, rfl, rfl, rfl, rfl⟩
    exact .bytes (.standard rfl) (.file (by decide) (by decide) holds)
  obtain ⟨output, status, _⟩ := run_congr configured configured' same rfl rfl rfl
  exact ⟨⟨configured, configured', same, rfl, rfl, rfl⟩, output, status⟩

end Command
end ScriptScan
