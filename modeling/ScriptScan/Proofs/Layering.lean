import ScriptScan.Config.Document

/-! Where a preference comes from: from the document, if its section has the key; else from the
environment, if its variable is set to a text that the preference has a use for; else it is
built in. Each preference asks for its own key and its own variable, and for no other. -/
namespace ScriptScan

namespace Toml

/-- Keys can be looked up in the value. -/
def isRecord : Toml → Bool
  | table _ | list _ | moment => true
  | _ => false

/-- What a record has under `key`. A list has values for `keys`, in their order. -/
def under? (keys : List String) (key : String) : Toml → Option Toml
  | table entries => (entries.find? (·.1 = key)).map (·.2)
  | list items => items[keys.idxOf key]?
  | _ => none

/-- A section of a document. One that is left out is empty. -/
def part (t : Toml) (group : String) : Toml :=
  (t.under? RuntimeConfig.keys group).getD (table [])

def HasSections (t : Toml) : Prop :=
  t.isRecord = true ∧ ∀ group ∈ RuntimeConfig.keys, (t.part group).isRecord = true

end Toml

/-- The texts that ask for a level, in lower case. -/
def Level.spellings : Level → List String
  | error => ["error", "0"]
  | warning => ["warning", "warn", "1"]
  | info => ["info", "2"]
  | debug => ["debug", "3"]

theorem Level.ofSetting?_eq_some_iff {text : String} {l : Level} :
    ofSetting? text = some l ↔ text.map Char.toLower ∈ l.spellings := by
  constructor
  · intro asked
    unfold ofSetting? at asked
    split at asked
    all_goals cases asked
    all_goals simp_all [spellings]
  · intro spelled
    cases l with
    | warning =>
      obtain same | same | same : _ ∨ _ ∨ _ := by simpa [spellings] using spelled
      all_goals simp [ofSetting?, same]
    | error | info | debug =>
      obtain same | same : _ ∨ _ := by simpa [spellings] using spelled
      all_goals simp [ofSetting?, same]

theorem Environment.flag?_eq_some_iff {env : Environment} {name : String} {b : Bool} :
    env.flag? name = some b ↔ env.get? name = some (if b then "true" else "false") := by
  constructor
  · intro asked
    unfold flag? at asked
    split at asked
    all_goals cases asked
    all_goals assumption
  · intro set
    unfold flag?
    rw [set]
    cases b <;> rfl

/-- A preference: the section and the key that documents have it under, the variable that the
environment has it in, what stands for its values there, and what it is without them. -/
structure Setting (α : Type) where
  group : String
  /-- All keys of the section. -/
  keys : List String
  key : String
  name : String
  Denoted : α → Toml → Prop
  Spelled : α → String → Prop
  builtIn : α
  value : RuntimeConfig → α
  denoted_unique : ∀ {x y t}, Denoted x t → Denoted y t → x = y
  spelled_unique : ∀ {x y text}, Spelled x text → Spelled y text → x = y

namespace Setting

def flag (group : String) (keys : List String) (key name : String) (builtIn : Bool)
    (value : RuntimeConfig → Bool) : Setting Bool where
  group := group
  keys := keys
  key := key
  name := name
  Denoted b t := t = .boolean b
  Spelled b text := text = if b then "true" else "false"
  builtIn := builtIn
  value := value
  denoted_unique := by
    rintro x y t rfl same
    exact Toml.boolean.inj same
  spelled_unique := by
    rintro x y text rfl same
    cases x <;> cases y <;> first | rfl | exact absurd same (by decide)

def lexical : List (Setting Bool) :=
  let setting := flag "lexical" LexicalPreferences.keys
  [setting "report_unrecognized_characters" "SCRIPT_LEXER_REPORT_UNRECOGNIZED" true
      (·.lexical.reportUnrecognized),
    setting "log_unrecognized_characters" "SCRIPT_LEXER_LOG_UNRECOGNIZED" false
      (·.lexical.logUnrecognized),
    setting "collect_detailed_metrics" "SCRIPT_LEXER_DETAILED_METRICS" true
      (·.lexical.detailedMetrics),
    setting "include_position_in_errors" "SCRIPT_LEXER_INCLUDE_POSITIONS" true
      (·.lexical.includePositions)]

def file : List (Setting Bool) :=
  let setting := flag "file_processor" FilePreferences.keys
  [setting "reject_empty_files" "SCRIPT_LEXER_REJECT_EMPTY_FILES" false (·.file.rejectEmpty),
    setting "enable_performance_logging" "SCRIPT_LEXER_PERFORMANCE_LOGGING" true
      (·.file.performanceLogging)]

def logging : List (Setting Bool) :=
  let setting := flag "logging" LoggingPreferences.keys
  [setting "use_structured_logging" "SCRIPT_LEXER_LOGGING_USE_STRUCTURED" false
      (·.logging.structured),
    setting "enable_console_logging" "SCRIPT_LEXER_LOGGING_ENABLE_CONSOLE" false
      (·.logging.console)]

def flags : List (Setting Bool) := lexical ++ file ++ logging

def minLevel : Setting Level where
  group := "logging"
  keys := LoggingPreferences.keys
  key := "min_log_level"
  name := "SCRIPT_LEXER_LOGGING_MIN_LEVEL"
  Denoted l t := t.choice? = some l.name
  Spelled l text := text.map Char.toLower ∈ l.spellings
  builtIn := .info
  value := (·.logging.minLevel)
  denoted_unique := by
    intro x y t first second
    have same : x.name = y.name := Option.some.inj (first.symm.trans second)
    exact Option.some.inj (x.ofName?_name.symm.trans (Level.ofName?_eq_some_iff.mpr same))
  spelled_unique := by
    intro x y text first second
    have same := (Level.ofSetting?_eq_some_iff.mpr first).symm.trans
      (Level.ofSetting?_eq_some_iff.mpr second)
    exact Option.some.inj same

/-- What the document has under the key, in the section. -/
def inDocument? (s : Setting α) (t : Toml) : Option Toml := (t.part s.group).under? s.keys s.key

/-- The variable is set to a text for `x`. -/
def Asked (s : Setting α) (env : Environment) (x : α) : Prop :=
  ∃ text, env.get? s.name = some text ∧ s.Spelled x text

/-- The value of a setting over what the document has for it, if anything. -/
inductive Gives (s : Setting α) (env : Environment) : Option Toml → α → Prop
  | document : s.Denoted x t → Gives s env (some t) x
  | environment : s.Asked env x → Gives s env none x
  | builtIn : (∀ y, ¬ s.Asked env y) → Gives s env none s.builtIn

/-- The same is said of the setting. A variable with a text of no use says no more than one
that is not set. -/
structure SameSources (s : Setting α) (env : Environment) (t : Toml) (env' : Environment)
    (t' : Toml) : Prop where
  document : s.inDocument? t = s.inDocument? t'
  environment : ∀ x, s.Asked env x ↔ s.Asked env' x

variable {α : Type} {s : Setting α} {env env' : Environment} {t t' : Toml} {o : Option Toml}
  {x y : α}

theorem Asked.unique (first : s.Asked env x) (second : s.Asked env y) : x = y := by
  obtain ⟨text, set, spelled⟩ := first
  obtain ⟨text', set', spelled'⟩ := second
  have same : text = text' := Option.some.inj (set.symm.trans set')
  subst same
  exact s.spelled_unique spelled spelled'

theorem Gives.unique (first : s.Gives env o x) (second : s.Gives env o y) : x = y := by
  cases first with
  | document denoted =>
    cases second with
    | document denoted' => exact s.denoted_unique denoted denoted'
  | environment asked =>
    cases second with
    | environment asked' => exact asked.unique asked'
    | builtIn silent => exact absurd asked (silent _)
  | builtIn silent =>
    cases second with
    | environment asked => exact absurd asked (silent _)
    | builtIn => rfl

theorem Gives.congr (asks : ∀ x, s.Asked env x ↔ s.Asked env' x) (gives : s.Gives env o x) :
    s.Gives env' o x := by
  cases gives with
  | document denoted => exact .document denoted
  | environment asked => exact .environment ((asks _).mp asked)
  | builtIn silent => exact .builtIn fun y asked => silent y ((asks y).mpr asked)

/-- Reading with a default is taking the layers in their order. -/
theorem gives_iff {read : Toml → Option α} {asked : Option α}
    (reads : ∀ x t, s.Denoted x t ↔ read t = some x) (asks : ∀ x, s.Asked env x ↔ asked = some x) :
    s.Gives env o x ↔ Toml.orElse? read (asked.getD s.builtIn) o = some x := by
  constructor
  · intro gives
    cases gives with
    | document denoted => exact (reads _ _).mp denoted
    | environment ask => rw [(asks _).mp ask]; rfl
    | builtIn silent =>
      have none : asked = none := Option.eq_none_iff_forall_ne_some.mpr
        fun y same => silent y ((asks y).mpr same)
      rw [none]
      rfl
  · intro found
    cases o with
    | some t => exact .document ((reads _ _).mpr found)
    | none =>
      cases asked with
      | some y =>
        obtain rfl : y = x := Option.some.inj found
        exact .environment ((asks _).mpr rfl)
      | none =>
        obtain rfl : s.builtIn = x := Option.some.inj found
        refine .builtIn fun y ask => ?_
        exact absurd ((asks y).mp ask) (by simp)

/-- The sources of a flag are read as its definition says. -/
theorem flag_gives_iff {group key name : String} {keys : List String} {builtIn x : Bool}
    {value : RuntimeConfig → Bool} :
    (flag group keys key name builtIn value).Gives env o x ↔
      Toml.orElse? Toml.boolean? (env.flag name builtIn) o = some x := by
  apply gives_iff
  · intro b t
    cases t <;> simp [flag, Toml.boolean?, eq_comm]
  · intro b
    simp [Asked, flag, Environment.flag?_eq_some_iff]

theorem minLevel_gives_iff {l : Level} :
    minLevel.Gives env o l ↔ Toml.orElse? Level.ofToml?
      ((env.level? "SCRIPT_LEXER_LOGGING_MIN_LEVEL").getD .info) o = some l := by
  apply gives_iff
  · intro m t
    simp [minLevel, Level.ofToml?, Option.bind_eq_some_iff, Level.ofName?_eq_some_iff]
  · intro m
    simp only [Asked, minLevel, Environment.level?, Option.bind_eq_some_iff,
      Level.ofSetting?_eq_some_iff]

end Setting

namespace Toml
variable {keys : List String}

/-- A record is asked for what it has under each of its keys. -/
theorem record?_eq (distinct : keys.Nodup) (t : Toml) :
    t.record? keys = if t.isRecord then some (keys.map fun key => t.under? keys key) else none := by
  cases t with
  | list items =>
    simp only [record?, isRecord, under?, if_true, Option.some.injEq]
    apply List.ext_getElem
    · simp only [List.length_append, List.length_map, List.length_take, List.length_replicate]
      omega
    · intro i _ within
      rw [List.length_map] at within
      have place : keys.idxOf keys[i] = i := distinct.idxOf_getElem i within
      rw [List.getElem_map, place, List.getElem_append]
      split
      case isTrue given =>
        rw [List.length_map, List.length_take] at given
        rw [List.getElem_map, List.getElem_take, List.getElem?_eq_getElem]
      case isFalse missing =>
        rw [List.length_map, List.length_take] at missing
        rw [List.getElem_replicate, List.getElem?_eq_none (by omega)]
  | table entries => rfl
  | moment => rfl
  | text | integer | float | boolean => rfl

end Toml

variable {env : Environment} {t : Toml} {c : RuntimeConfig}

theorem LexicalPreferences.ofToml?_empty (env : Environment) :
    ofToml? env (.table []) = some (default env) := rfl

theorem LexicalPreferences.ofToml?_part :
    ofToml? env (t.part "lexical") = some c.lexical ↔ (t.part "lexical").isRecord = true ∧
      ∀ s ∈ Setting.lexical, s.Gives env (s.inDocument? t) (s.value c) := by
  obtain ⟨p, _, _⟩ := c
  rw [ofToml?, Toml.record?_eq (by decide)]
  cases (t.part "lexical").isRecord with
  | false => simp
  | true =>
    simp only [keys, List.map_cons, List.map_nil, if_true, Option.bind_eq_bind, Option.bind_some,
      Option.bind_eq_some_iff, true_and, Setting.lexical, List.forall_mem_cons,
      Setting.flag_gives_iff]
    constructor
    · rintro ⟨report, first, log, second, metrics, third, positions, fourth, ⟨⟩⟩
      exact ⟨first, second, third, fourth, by simp⟩
    · rintro ⟨first, second, third, fourth, -⟩
      exact ⟨_, first, _, second, _, third, _, fourth, rfl⟩

theorem FilePreferences.ofToml?_empty (env : Environment) :
    ofToml? env (.table []) = some (default env) := rfl

theorem FilePreferences.ofToml?_part :
    ofToml? env (t.part "file_processor") = some c.file ↔
      (t.part "file_processor").isRecord = true ∧
        ∀ s ∈ Setting.file, s.Gives env (s.inDocument? t) (s.value c) := by
  obtain ⟨_, p, _⟩ := c
  rw [ofToml?, Toml.record?_eq (by decide)]
  cases (t.part "file_processor").isRecord with
  | false => simp
  | true =>
    simp only [keys, List.map_cons, List.map_nil, if_true, Option.bind_eq_bind, Option.bind_some,
      Option.bind_eq_some_iff, true_and, Setting.file, List.forall_mem_cons,
      Setting.flag_gives_iff]
    constructor
    · rintro ⟨reject, first, performance, second, ⟨⟩⟩
      exact ⟨first, second, by simp⟩
    · rintro ⟨first, second, -⟩
      exact ⟨_, first, _, second, rfl⟩

theorem LoggingPreferences.ofToml?_empty (env : Environment) :
    ofToml? env (.table []) = some (default env) := rfl

theorem LoggingPreferences.ofToml?_part :
    ofToml? env (t.part "logging") = some c.logging ↔ (t.part "logging").isRecord = true ∧
      (∀ s ∈ Setting.logging, s.Gives env (s.inDocument? t) (s.value c)) ∧
      Setting.minLevel.Gives env (Setting.minLevel.inDocument? t) (Setting.minLevel.value c) := by
  obtain ⟨_, _, p⟩ := c
  rw [ofToml?, Toml.record?_eq (by decide)]
  cases (t.part "logging").isRecord with
  | false => simp
  | true =>
    simp only [keys, List.map_cons, List.map_nil, if_true, Option.bind_eq_bind, Option.bind_some,
      Option.bind_eq_some_iff, true_and, Setting.logging, List.forall_mem_cons,
      Setting.flag_gives_iff, Setting.minLevel_gives_iff]
    constructor
    · rintro ⟨structured, first, console, second, level, third, ⟨⟩⟩
      exact ⟨⟨first, second, by simp⟩, third⟩
    · rintro ⟨⟨first, second, -⟩, third⟩
      exact ⟨_, first, _, second, _, third, rfl⟩

namespace RuntimeConfig

/-- A section that is left out is read like an empty one. -/
theorem orElse?_part {read : Toml → Option α} {default : α}
    (empty : read (.table []) = some default) (group : String) :
    Toml.orElse? read default (t.under? keys group) = read (t.part group) := by
  rw [Toml.part]
  cases t.under? keys group with
  | none => exact empty.symm
  | some entries => rfl

theorem ofToml?_eq_some_iff :
    ofToml? env t = some c ↔ t.isRecord = true ∧
      LexicalPreferences.ofToml? env (t.part "lexical") = some c.lexical ∧
      FilePreferences.ofToml? env (t.part "file_processor") = some c.file ∧
      LoggingPreferences.ofToml? env (t.part "logging") = some c.logging := by
  rw [ofToml?, Toml.record?_eq (by decide)]
  cases t.isRecord with
  | false => simp
  | true =>
    simp only [keys, List.map_cons, List.map_nil, if_true, Option.bind_eq_bind, Option.bind_some,
      Option.bind_eq_some_iff, true_and]
    rw [← orElse?_part (LexicalPreferences.ofToml?_empty env),
      ← orElse?_part (FilePreferences.ofToml?_empty env),
      ← orElse?_part (LoggingPreferences.ofToml?_empty env)]
    constructor
    · rintro ⟨lexical, first, file, second, logging, third, ⟨⟩⟩
      exact ⟨first, second, third⟩
    · rintro ⟨first, second, third⟩
      exact ⟨_, first, _, second, _, third, rfl⟩

/-- Every preference has the value of its first source that has one. -/
structure Layered (c : RuntimeConfig) (env : Environment) (t : Toml) : Prop where
  flags : ∀ s ∈ Setting.flags, s.Gives env (s.inDocument? t) (s.value c)
  minLevel : Setting.minLevel.Gives env (Setting.minLevel.inDocument? t) (Setting.minLevel.value c)

/-- A document is a configuration if it has records for sections, and over it there are values
for all preferences; they are unique. -/
theorem ofToml?_layered : ofToml? env t = some c ↔ t.HasSections ∧ c.Layered env t := by
  rw [ofToml?_eq_some_iff, LexicalPreferences.ofToml?_part, FilePreferences.ofToml?_part,
    LoggingPreferences.ofToml?_part]
  constructor
  · rintro ⟨whole, ⟨part, lexical⟩, ⟨part', file⟩, part'', logging, minLevel⟩
    refine ⟨⟨whole, by simp [keys, part, part', part'']⟩, ?_, minLevel⟩
    exact List.forall_mem_append.mpr ⟨List.forall_mem_append.mpr ⟨lexical, file⟩, logging⟩
  · rintro ⟨⟨whole, parts⟩, flags, minLevel⟩
    obtain ⟨first, logging⟩ := List.forall_mem_append.mp flags
    obtain ⟨lexical, file⟩ := List.forall_mem_append.mp first
    exact ⟨whole, ⟨parts _ (by decide), lexical⟩, ⟨parts _ (by decide), file⟩,
      parts _ (by decide), logging, minLevel⟩

/-- A document is a configuration just when it has sections and every preference a value over
its sources. No other source has a say: two configurations agree on a preference of which their
documents and environments say the same. -/
theorem ofDocument?_layers (env env' : Environment) (document document' : String) :
    (∀ c, ofDocument? env document = some c ↔
      ∃ t, Toml.read? document = some t ∧ t.HasSections ∧ c.Layered env t) ∧
    ∀ t t' c c', Toml.read? document = some t → Toml.read? document' = some t' →
      ofDocument? env document = some c → ofDocument? env' document' = some c' →
      (∀ s ∈ Setting.flags, s.SameSources env t env' t' → s.value c = s.value c') ∧
        (Setting.minLevel.SameSources env t env' t' →
          Setting.minLevel.value c = Setting.minLevel.value c') := by
  constructor
  · intro c
    simp only [ofDocument?, Option.bind_eq_some_iff, ofToml?_layered]
  · intro t t' c c' read read' loaded loaded'
    rw [ofDocument?, read, Option.bind_some, ofToml?_layered] at loaded
    rw [ofDocument?, read', Option.bind_some, ofToml?_layered] at loaded'
    obtain ⟨-, flags, minLevel⟩ := loaded
    obtain ⟨-, flags', minLevel'⟩ := loaded'
    constructor
    · intro s member same
      have gives := (flags s member).congr same.environment
      rw [same.document] at gives
      exact gives.unique (flags' s member)
    · intro same
      have gives := minLevel.congr same.environment
      rw [same.document] at gives
      exact gives.unique minLevel'

/-- Neither document has the key of a flag, whose variable is set in one environment, but to a
text of no use. -/
theorem ofDocument?_layers_unused :
    let env : Environment :=
      [("SCRIPT_LEXER_DETAILED_METRICS", "yes"), ("SCRIPT_LEXER_LOGGING_MIN_LEVEL", "Warn")]
    let document := "[lexical]\nlog_unrecognized_characters = true\nindent = 4\n[logging]\n"
    let document' := "[file_processor]\nreject_empty_files = true\n"
    let s := Setting.lexical[2]
    ∃ c c', (ofDocument? env document = some c ∧ ofDocument? [] document' = some c' ∧
      s.value c = s.value c') ∧ s.value c = true ∧ c.logging.minLevel = .warning := by
  intro env document document' s
  let c : RuntimeConfig := ⟨⟨true, true, true, true⟩, ⟨false, true⟩, ⟨false, false, .warning⟩⟩
  let c' : RuntimeConfig := ⟨⟨true, false, true, true⟩, ⟨true, true⟩, ⟨false, false, .info⟩⟩
  have loaded : ofDocument? env document = some c := by decide +kernel
  have loaded' : ofDocument? [] document' = some c' := by decide +kernel
  obtain ⟨layers, agree⟩ := ofDocument?_layers env [] document document'
  obtain ⟨t, read, -⟩ := (layers c).mp loaded
  obtain ⟨t', read', -⟩ := ((ofDocument?_layers [] env document' document).1 c').mp loaded'
  have absent : (Toml.read? document).map (fun t => (s.inDocument? t).isNone) = some true := by
    decide +kernel
  have absent' : (Toml.read? document').map (fun t => (s.inDocument? t).isNone) = some true := by
    decide +kernel
  rw [read, Option.map_some, Option.some.injEq, Option.isNone_iff_eq_none] at absent
  rw [read', Option.map_some, Option.some.injEq, Option.isNone_iff_eq_none] at absent'
  have useless (x : Bool) : ¬ s.Asked env x := by
    rintro ⟨text, set, spelled⟩
    obtain rfl : "yes" = text := Option.some.inj set
    have same : "yes" = if x then "true" else "false" := spelled
    cases x <;> exact absurd same (by decide)
  have unset (x : Bool) : ¬ s.Asked [] x := by
    rintro ⟨text, ⟨⟩, _⟩
  have same : s.SameSources env t [] t' :=
    ⟨absent.trans absent'.symm, fun x => iff_of_false (useless x) (unset x)⟩
  have member : s ∈ Setting.flags := by simp [s, Setting.flags]
  exact ⟨c, c', ⟨loaded, loaded', (agree t t' c c' read read' loaded loaded').1 s member same⟩,
    rfl, rfl⟩

end RuntimeConfig
end ScriptScan
