import ScriptScan.Log.Service

/-! A service on the error stream holds its level twice. What it says that it logs follows the
level that was set last; what is written has to pass the level of its making as well, which
nothing changes later. -/
namespace ScriptScan.Service

inductive Act
  | setMinLevel (l : Level)
  | log (e : Event)
deriving DecidableEq, Repr

/-- What comes of an event: whether the service says that it logs its level, and what is written. -/
structure Entry where
  event : Event
  admitted : Bool
  line : Option ConsoleLine
deriving DecidableEq, Repr

def entries (s : Service) : List Act → List Entry
  | [] => []
  | .setMinLevel l :: acts => entries (s.setMinLevel l) acts
  | .log e :: acts => ⟨e, s.admits e.level, (s.log e).1⟩ :: entries (s.log e).2 acts

/-- The events in order, each with the level that was set last before it. -/
def levels (level : Level) : List Act → List (Event × Level)
  | [] => []
  | .setMinLevel l :: acts => levels l acts
  | .log e :: acts => (e, level) :: levels level acts

/-- The level that a service is made with. -/
def made (p : LoggingPreferences) : Level := if p.console then p.minLevel else .error

/-- An event as it is written. -/
def record (structured : Bool) (e : Event) : ConsoleLine :=
  if structured then .stamped e else .plain e.line

/-- What comes of an event while `level` is set, on a stream of the level `fixed`. -/
def entry (structured : Bool) (fixed level : Level) (e : Event) : Entry where
  event := e
  admitted := level.admits e.level
  line := if level.admits e.level && fixed.admits e.level then some (record structured e) else none

variable {structured : Bool} {fixed level : Level}

theorem log_console (e : Event) :
    (⟨.console structured fixed, level⟩ : Service).log e =
      ((entry structured fixed level e).line, ⟨.console structured fixed, level⟩) := by
  cases admitted : level.admits e.level <;> simp [log, Sink.take, entry, record, admitted]

/-- A run tells of each event what the level set last and that of the stream make of it. No act
changes the latter. -/
theorem entries_console (level : Level) (acts : List Act) :
    (⟨.console structured fixed, level⟩ : Service).entries acts =
      (levels level acts).map fun (e, l) => entry structured fixed l e := by
  induction acts generalizing level with
  | nil => rfl
  | cons a acts ih =>
    cases a with
    | setMinLevel l => exact ih l
    | log e =>
      rw [entries, log_console, ih level]
      rfl

theorem entry_isSome_iff (e : Event) :
    (entry structured fixed level e).line.isSome = (entry structured fixed level e).admitted ↔
      (level.admits e.level = true → fixed.admits e.level = true) := by
  cases admitted : level.admits e.level <;> cases written : fixed.admits e.level <;>
    simp [entry, admitted, written]

/-- Through any changes of its level, a service writes an event just when the level set last and
the level of its making both admit it. It writes what it says that it logs just when no event is
admitted by the former alone. -/
theorem writes_admitted_iff (p : LoggingPreferences) (acts : List Act) :
    (ofPreferences p).minLevel = made p ∧
      (ofPreferences p).entries acts =
        (levels (made p) acts).map (fun (e, l) => entry p.structured (made p) l e) ∧
      ((∀ x ∈ (ofPreferences p).entries acts, x.line.isSome = x.admitted) ↔
        ∀ el ∈ levels (made p) acts,
          el.2.admits el.1.level = true → (made p).admits el.1.level = true) := by
  have all : (ofPreferences p).entries acts =
      (levels (made p) acts).map fun (e, l) => entry p.structured (made p) l e :=
    entries_console (made p) acts
  refine ⟨rfl, all, ?_⟩
  rw [all, List.forall_mem_map]
  exact forall₂_congr fun (e, _) _ => entry_isSome_iff e

/-- A service made for errors alone says that it logs what a raised level admits, and writes
nothing of it. -/
theorem raised_level_unwritten :
    let p : LoggingPreferences := { structured := false, console := false, minLevel := .info }
    let e : Event := .info "loaded"
    let acts : List Act := [.setMinLevel .debug, .log e]
    (ofPreferences p).entries acts = [{ event := e, admitted := true, line := none }] ∧
      ¬ ∀ x ∈ (ofPreferences p).entries acts, x.line.isSome = x.admitted := by decide +kernel

end ScriptScan.Service
