import ScriptScan.Log.Event
import ScriptScan.Proofs.JsonLines
import ScriptScan.Proofs.JsonRecords

/-! Events as lines of a structured log. Escapes keep all that would break the line out of it,
and an event can be read back from its line, but for its time and for the bytes that its span is
counted in. -/
namespace ScriptScan

namespace Json

/-- A record without one of its entries. -/
def without (name : String) : Json → Json
  | object entries => object (entries.filter (·.1 ≠ name))
  | j => j

variable {entries : List (String × Json)}

/-- An entry that is not asked for may as well be missing. -/
theorem record?_without {name : String} {names : List String}
    (distinct : (entries.map Prod.fst).Nodup) (other : name ∉ names) :
    ((object entries).without name).record? names = (object entries).record? names := by
  have left : ((entries.filter (·.1 ≠ name)).map Prod.fst).Nodup :=
    (List.filter_sublist.map Prod.fst).nodup distinct
  rw [without, record?_find? left, record?_find? distinct]
  congr 1
  apply List.map_congr_left
  intro asked member
  rw [List.find?_filter]
  congr 2
  funext e
  have apart : e.1 = asked → e.1 ≠ name := by
    rintro rfl same
    exact other (same ▸ member)
  simpa using apart

end Json

/-- Where a span starts and ends, in lines and columns. -/
structure Extent where
  startLine : Nat
  startColumn : Nat
  endLine : Nat
  endColumn : Nat
deriving DecidableEq, Repr

def Span.extent (s : Span) : Extent := ⟨s.first.line, s.first.column, s.last.line, s.last.column⟩

def Extent.ofJson? (j : Json) : Option Extent := do
  let [some (.nat startLine), some (.nat startColumn), some (.nat endLine), some (.nat endColumn)] ←
    j.record? ["start_line", "start_column", "end_line", "end_column"] | none
  some { startLine, startColumn, endLine, endColumn }

theorem Extent.ofJson?_spanJson (s : Span) : ofJson? (Event.spanJson s) = some s.extent := by
  rw [ofJson?, Event.spanJson, Json.record?_find? (by simp)]
  rfl

def Fields.ofJson? : Json → Option Fields
  | .object entries => entries.mapM fun (key, value) => value.text?.map (key, ·)
  | _ => none

theorem Fields.ofJson?_object (fields : Fields) :
    ofJson? (.object (fields.map fun (key, value) => (key, .text value))) = some fields := by
  rw [ofJson?, List.mapM_map]
  exact (Json.mapM_some fun e _ => rfl).trans (congrArg some (List.map_id fields))

/-- What a line of a structured log says of an event. -/
structure LogRecord where
  level : String
  code : String
  message : String
  category : String
  severity : String
  extent : Option Extent
  context : Option Fields
deriving DecidableEq, Repr

namespace LogRecord

def keys : List String :=
  ["level", "code", "message", "category", "severity", "span", "context"]

def ofJson? (j : Json) : Option LogRecord := do
  let [some level, some code, some message, some category, some severity, span, context] ←
    j.record? keys | none
  some { level := ← level.text?
         code := ← code.text?
         message := ← message.text?
         category := ← category.text?
         severity := ← severity.text?
         extent := ← Json.orElse? (fun j => (Extent.ofJson? j).map some) none span
         context := ← Json.orElse? (fun j => (Fields.ofJson? j).map some) none context }

end LogRecord

theorem Level.label_injective : Function.Injective label := by
  intro l l' same
  cases l <;> cases l' <;> simp_all [label]

namespace Event

/-- The record of an event. A context without values is none. -/
def record (e : Event) : LogRecord where
  level := e.level.label
  code := e.code.text
  message := e.message
  category := e.category
  severity := e.severity.name
  extent := e.span.map Span.extent
  context := if e.context = [] then none else some e.context

theorem exists_entries (e : Event) (stamp : String) :
    ∃ entries, e.toJson stamp = .object entries ∧ (entries.map Prod.fst).Nodup ∧
      LogRecord.keys.map (fun name => (entries.find? (·.1 = name)).map Prod.snd) =
        [some (.text e.level.label), some (.text e.code.text), some (.text e.message),
          some (.text e.category), some (.text e.severity.name), e.span.map spanJson,
          if e.context = [] then none
          else some (.object (e.context.map fun (k, v) => (k, .text v)))] := by
  obtain ⟨level, code, message, span, context⟩ := e
  cases span <;> cases context
  all_goals exact ⟨_, rfl, by simp, rfl⟩

theorem ofJson?_toJson (e : Event) (stamp : String) :
    LogRecord.ofJson? (e.toJson stamp) = some e.record := by
  obtain ⟨entries, same, distinct, found⟩ := e.exists_entries stamp
  have extent : Json.orElse? (fun j => (Extent.ofJson? j).map some) none (e.span.map spanJson) =
      some (e.span.map Span.extent) := by
    cases e.span with
    | none => rfl
    | some s =>
      rw [Option.map_some, Json.orElse?, Extent.ofJson?_spanJson]
      rfl
  have context : Json.orElse? (fun j => (Fields.ofJson? j).map some) none
      (if e.context = [] then none
        else some (.object (e.context.map fun (k, v) => (k, .text v)))) =
      some (if e.context = [] then none else some e.context) := by
    split
    · rfl
    · rw [Json.orElse?, Fields.ofJson?_object]
      rfl
  rw [same, LogRecord.ofJson?, Json.record?_find? distinct, found]
  simp only [Option.bind_eq_bind, Option.bind_some, Json.text?, extent, context]
  rfl

/-- The record of a line does not depend on its time. -/
theorem ofJson?_without (e : Event) (stamp : String) :
    LogRecord.ofJson? ((e.toJson stamp).without "timestamp") = some e.record := by
  obtain ⟨entries, same, distinct, _⟩ := e.exists_entries stamp
  rw [← e.ofJson?_toJson stamp, same, LogRecord.ofJson?, LogRecord.ofJson?,
    Json.record?_without distinct (by decide)]

theorem plain_toJson (e : Event) (stamp : String) : (e.toJson stamp).Plain := by
  have span (s : Span) : (spanJson s).Plain := by
    apply Json.Plain.object
    simp [Json.Plain.nat]
  have context : (Json.object (e.context.map fun (k, v) => (k, .text v))).Plain := by
    apply Json.Plain.object
    rintro e member
    obtain ⟨_, _, rfl⟩ := List.mem_map.mp member
    exact .text
  apply Json.Plain.object
  cases e.span <;> split <;> simp [Json.Plain.text, span, context]

/-- The events tell the same, but for the bytes that their spans are counted in. -/
structure Alike (e e' : Event) : Prop where
  level : e.level = e'.level
  code : e.code = e'.code
  message : e.message = e'.message
  extent : e.span.map Span.extent = e'.span.map Span.extent
  context : e.context = e'.context

theorem Alike.of_record {e e' : Event} (same : e.record = e'.record) : e.Alike e' := by
  obtain ⟨level, code, message, -, -, extent, context⟩ := LogRecord.mk.inj same
  refine ⟨Level.label_injective level, congrArg Code.mk code, message, extent, ?_⟩
  split at context <;> split at context <;> simp_all

/-- All that the lines of like events can differ in is their time. -/
theorem Alike.without_eq {e e' : Event} (alike : e.Alike e') (stamp stamp' : String) :
    (e.toJson stamp).without "timestamp" = (e'.toJson stamp').without "timestamp" := by
  obtain ⟨level, code, message, span, context⟩ := e
  obtain ⟨level', code', message', span', context'⟩ := e'
  obtain ⟨rfl, rfl, rfl, extent, rfl⟩ := alike
  have spans : span.map spanJson = span'.map spanJson := by
    let json (x : Extent) : Json := .object [("end_column", .nat x.endColumn),
      ("end_line", .nat x.endLine), ("start_column", .nat x.startColumn),
      ("start_line", .nat x.startLine)]
    have through : spanJson = json ∘ Span.extent := rfl
    rw [through, ← Option.map_map, ← Option.map_map]
    exact congrArg (Option.map json) extent
  cases span <;> cases span' <;> cases context <;>
    simp_all [toJson, Json.without, category, severity]

/-- Whatever characters an event has in its texts, it is written on one line, from which a reader
gets an object with just its record. Lines say the same, but for their time, only of like
events. -/
theorem jsonLine_readsBack (e : Event) (stamp : String) :
    Json.isPrinted (e.jsonLine stamp).toList = true ∧
      (∃ entries, Json.read? (e.jsonLine stamp) = some (.object entries) ∧
        (entries.map Prod.fst).Nodup ∧ LogRecord.ofJson? (.object entries) = some e.record) ∧
      ∀ e' stamp',
        (Json.read? (e.jsonLine stamp)).map (Json.without "timestamp") =
          (Json.read? (e'.jsonLine stamp')).map (Json.without "timestamp") ↔ e.Alike e' := by
  refine ⟨Json.isPrinted_compact _, ?_, ?_⟩
  · obtain ⟨entries, same, distinct, _⟩ := e.exists_entries stamp
    refine ⟨entries, ?_, distinct, ?_⟩
    · rw [← same]
      exact (e.plain_toJson stamp).read?_compact
    · rw [← same]
      exact e.ofJson?_toJson stamp
  · intro e' stamp'
    rw [jsonLine, jsonLine, (e.plain_toJson stamp).read?_compact,
      (e'.plain_toJson stamp').read?_compact, Option.map_some, Option.map_some, Option.some.injEq]
    constructor
    · intro same
      have records := congrArg LogRecord.ofJson? same
      rw [ofJson?_without, ofJson?_without] at records
      exact .of_record (Option.some.inj records)
    · exact fun alike => alike.without_eq stamp stamp'

end Event

end ScriptScan
