import ScriptScan.Config.Json
import ScriptScan.Proofs.JsonReading
import ScriptScan.Source.Json
import ScriptScan.Token.Json

/-! Records written as JSON and read again. What is written has a value under every name and
each name once, so that its reader finds all values and asks for no default, whatever the
environment would have it be. -/
namespace ScriptScan

namespace Json
variable {j : Json} {entries : List (String × Json)}

/-- The text of a value with a meaning may be read in place of the value. -/
theorem Plain.bind_compact (plain : j.Plain) (read : Json → Option α) :
    (Json.read? j.compact).bind read = read j := by
  rw [plain.read?_compact, Option.bind_some]

/-- An entry is the only one of its name. -/
theorem filter_name (distinct : (entries.map Prod.fst).Nodup) {e : String × Json}
    (member : e ∈ entries) : entries.filter (·.1 = e.1) = [e] := by
  induction entries with
  | nil => contradiction
  | cons first rest ih =>
    obtain ⟨apart, distinct⟩ := List.nodup_cons.mp distinct
    rcases List.mem_cons.mp member with rfl | later
    · have others : rest.filter (·.1 = e.1) = [] := by
        rw [List.filter_eq_nil_iff]
        intro other among same
        exact apart (of_decide_eq_true same ▸ List.mem_map_of_mem among)
      simp [others]
    · have other : first.1 ≠ e.1 := by
        rintro same
        exact apart (same ▸ List.mem_map_of_mem later)
      rw [List.filter_cons_of_neg (by simpa using other), ih distinct later]

theorem mapM_some {read : α → Option β} {value : α → β} {items : List α}
    (each : ∀ a ∈ items, read a = some (value a)) :
    items.mapM read = some (items.map value) := by
  induction items with
  | nil => rfl
  | cons a items ih =>
    obtain ⟨first, rest⟩ := List.forall_mem_cons.mp each
    rw [List.mapM_cons, first, ih rest]
    rfl

/-- Asked for all its names, a record gives all its values. -/
theorem record?_names {names : List String} (named : entries.map Prod.fst = names)
    (distinct : names.Nodup) :
    (object entries).record? names = some (entries.map fun e => some e.2) := by
  subst named
  rw [record?, List.mapM_map]
  refine mapM_some fun e member => ?_
  rw [Function.comp_apply, filter_name distinct member]

/-- A record with distinct names gives what it has under each name that it is asked for. -/
theorem record?_find? (distinct : (entries.map Prod.fst).Nodup) (names : List String) :
    (object entries).record? names =
      some (names.map fun name => (entries.find? (·.1 = name)).map Prod.snd) := by
  rw [record?]
  refine mapM_some fun name _ => ?_
  rw [← List.head?_filter]
  by_cases present : name ∈ entries.map Prod.fst
  · obtain ⟨e, member, rfl⟩ := List.mem_map.mp present
    rw [filter_name distinct member]
    rfl
  · have absent : entries.filter (·.1 = name) = [] := by
      rw [List.filter_eq_nil_iff]
      intro e member same
      exact present (of_decide_eq_true same ▸ List.mem_map_of_mem member)
    rw [absent]
    rfl

theorem nat?_nat {n bits : Nat} : (nat n).nat? bits = some n ↔ n < Nat.pow 2 bits := by
  simp [nat?]

end Json

namespace Kind

theorem ofName?_name (k : Kind) : ofName? k.name = some k := by cases k <;> decide

theorem plain_toJson (k : Kind) : k.toJson.Plain := .text

theorem ofJson?_toJson (k : Kind) : ofJson? k.toJson = some k := by
  simp [ofJson?, toJson, Json.choice?, ofName?_name]

end Kind

namespace Token

theorem plain_toJson (t : Token) : t.toJson.Plain := by
  apply Json.Plain.object
  simp [Kind.plain_toJson, Json.Plain.text]

theorem ofJson?_toJson (t : Token) : ofJson? t.toJson = some t := by
  have fields : t.toJson.record? ["kind", "text"] =
      some [some t.kind.toJson, some (.text t.text)] :=
    Json.record?_names rfl (by decide)
  simp [ofJson?, fields, Kind.ofJson?_toJson, Json.text?]

end Token

namespace Position

/-- The offset is a word of 64 bits, line and column are words of 32. -/
structure Fits (p : Position) : Prop where
  offset : p.offset < UInt64.size
  line : p.line < UInt32.size
  column : p.column < UInt32.size

theorem plain_toJson (p : Position) : p.toJson.Plain := by
  apply Json.Plain.object
  simp [Json.Plain.nat]

theorem ofJson?_toJson (p : Position) : ofJson? p.toJson = some p ↔ p.Fits := by
  have fields : p.toJson.record? ["offset", "line", "column"] =
      some [some (.nat p.offset), some (.nat p.line), some (.nat p.column)] :=
    Json.record?_names rfl (by decide)
  constructor
  · intro read
    simp only [ofJson?, fields, Option.bind_eq_bind, Option.bind_some,
      Option.bind_eq_some_iff] at read
    obtain ⟨offset, first, line, second, column, third, same⟩ := read
    cases same
    exact ⟨Json.nat?_nat.mp first, Json.nat?_nat.mp second, Json.nat?_nat.mp third⟩
  · rintro ⟨offset, line, column⟩
    have first : (Json.nat p.offset).nat? 64 = some p.offset := Json.nat?_nat.mpr offset
    have second : (Json.nat p.line).nat? 32 = some p.line := Json.nat?_nat.mpr line
    have third : (Json.nat p.column).nat? 32 = some p.column := Json.nat?_nat.mpr column
    simp only [ofJson?, fields, Option.bind_eq_bind, Option.bind_some, first, second, third]

end Position

namespace Span

theorem plain_toJson (s : Span) : s.toJson.Plain := by
  apply Json.Plain.object
  simp [Position.plain_toJson]

theorem ofJson?_toJson (s : Span) :
    ofJson? s.toJson = some s ↔ s.first.Fits ∧ s.last.Fits := by
  have fields : s.toJson.record? ["start", "end"] =
      some [some s.first.toJson, some s.last.toJson] := Json.record?_names rfl (by decide)
  constructor
  · intro read
    simp only [ofJson?, fields, Option.bind_eq_bind, Option.bind_some,
      Option.bind_eq_some_iff] at read
    obtain ⟨first, start, last, stop, same⟩ := read
    cases same
    exact ⟨(Position.ofJson?_toJson _).mp start, (Position.ofJson?_toJson _).mp stop⟩
  · rintro ⟨first, last⟩
    simp only [ofJson?, fields, Option.bind_eq_bind, Option.bind_some,
      (Position.ofJson?_toJson _).mpr first, (Position.ofJson?_toJson _).mpr last]

end Span

namespace Level

theorem plain_toJson (l : Level) : l.toJson.Plain := .text

theorem ofJson?_toJson (l : Level) : ofJson? l.toJson = some l := by
  simp [ofJson?, toJson, Json.choice?, ofName?_name]

end Level

variable (env : Environment)

namespace LexicalPreferences

theorem plain_toJson (p : LexicalPreferences) : p.toJson.Plain := by
  apply Json.Plain.object
  simp [keys, Json.Plain.bool]

theorem ofJson?_toJson (p : LexicalPreferences) : ofJson? env p.toJson = some p := by
  have fields : p.toJson.record? keys = some [some (.bool p.reportUnrecognized),
      some (.bool p.logUnrecognized), some (.bool p.detailedMetrics),
      some (.bool p.includePositions)] := Json.record?_names rfl (by decide)
  rw [ofJson?, fields]
  rfl

end LexicalPreferences

namespace FilePreferences

theorem plain_toJson (p : FilePreferences) : p.toJson.Plain := by
  apply Json.Plain.object
  simp [keys, Json.Plain.bool]

theorem ofJson?_toJson (p : FilePreferences) : ofJson? env p.toJson = some p := by
  have fields : p.toJson.record? keys =
      some [some (.bool p.rejectEmpty), some (.bool p.performanceLogging)] :=
    Json.record?_names rfl (by decide)
  rw [ofJson?, fields]
  rfl

end FilePreferences

namespace LoggingPreferences

theorem plain_toJson (p : LoggingPreferences) : p.toJson.Plain := by
  apply Json.Plain.object
  simp [keys, Level.plain_toJson, Json.Plain.bool]

theorem ofJson?_toJson (p : LoggingPreferences) : ofJson? env p.toJson = some p := by
  have fields : p.toJson.record? keys =
      some [some (.bool p.structured), some (.bool p.console), some p.minLevel.toJson] :=
    Json.record?_names rfl (by decide)
  simp [ofJson?, fields, Json.orElse?, Json.bool?, Level.ofJson?_toJson]

end LoggingPreferences

namespace RuntimeConfig

theorem plain_toJson (c : RuntimeConfig) : c.toJson.Plain := by
  apply Json.Plain.object
  simp [keys, LexicalPreferences.plain_toJson, FilePreferences.plain_toJson,
    LoggingPreferences.plain_toJson]

theorem ofJson?_toJson (c : RuntimeConfig) : ofJson? env c.toJson = some c := by
  have fields : c.toJson.record? keys =
      some [some c.lexical.toJson, some c.file.toJson, some c.logging.toJson] :=
    Json.record?_names rfl (by decide)
  simp [ofJson?, fields, Json.orElse?, LexicalPreferences.ofJson?_toJson,
    FilePreferences.ofJson?_toJson, LoggingPreferences.ofJson?_toJson]

end RuntimeConfig

/-- In every environment a value is read back from its JSON text. Only a position must have
counts that its readers have room for. -/
theorem compact_readsBack (env : Environment) :
    (∀ k : Kind, (Json.read? k.toJson.compact).bind Kind.ofJson? = some k) ∧
    (∀ t : Token, (Json.read? t.toJson.compact).bind Token.ofJson? = some t) ∧
    (∀ p : Position,
      (Json.read? p.toJson.compact).bind Position.ofJson? = some p ↔ p.Fits) ∧
    (∀ s : Span, (Json.read? s.toJson.compact).bind Span.ofJson? = some s ↔
      s.first.Fits ∧ s.last.Fits) ∧
    (∀ l : Level, (Json.read? l.toJson.compact).bind Level.ofJson? = some l) ∧
    (∀ p : LexicalPreferences,
      (Json.read? p.toJson.compact).bind (LexicalPreferences.ofJson? env) = some p) ∧
    (∀ p : FilePreferences,
      (Json.read? p.toJson.compact).bind (FilePreferences.ofJson? env) = some p) ∧
    (∀ p : LoggingPreferences,
      (Json.read? p.toJson.compact).bind (LoggingPreferences.ofJson? env) = some p) ∧
    ∀ c : RuntimeConfig,
      (Json.read? c.toJson.compact).bind (RuntimeConfig.ofJson? env) = some c := by
  refine ⟨?_, ?_, ?_, ?_, ?_, ?_, ?_, ?_, ?_⟩
  · intro k
    rw [k.plain_toJson.bind_compact, k.ofJson?_toJson]
  · intro t
    rw [t.plain_toJson.bind_compact, t.ofJson?_toJson]
  · intro p
    rw [p.plain_toJson.bind_compact, p.ofJson?_toJson]
  · intro s
    rw [s.plain_toJson.bind_compact, s.ofJson?_toJson]
  · intro l
    rw [l.plain_toJson.bind_compact, l.ofJson?_toJson]
  · intro p
    rw [p.plain_toJson.bind_compact, p.ofJson?_toJson]
  · intro p
    rw [p.plain_toJson.bind_compact, p.ofJson?_toJson]
  · intro p
    rw [p.plain_toJson.bind_compact, p.ofJson?_toJson]
  · intro c
    rw [c.plain_toJson.bind_compact, c.ofJson?_toJson]

end ScriptScan
