import Mathlib.Data.List.DropRight
import Mathlib.Data.List.Forall2
import ScriptScan.Log.Request

/-! What a log in memory holds after a run: the latest of the events that its level admits, in
the order of the requests. A request is told with the file that was noted when it was made. -/
namespace ScriptScan

/-- The value of the last pair with this name. -/
def lastValue? (key : String) (pairs : List (String × String)) : Option String :=
  ((pairs.filter (·.1 = key)).getLast?).map (·.2)

namespace Fields

theorem get?_setAll (key : String) (fields : Fields) (pairs : List (String × String)) :
    (fields.setAll pairs).get? key = (lastValue? key pairs).or (fields.get? key) := by
  induction pairs generalizing fields with
  | nil => rfl
  | cons e pairs ih =>
    obtain ⟨k, v⟩ := e
    rw [setAll, List.foldl_cons, ← setAll, ih, get?_set, lastValue?, lastValue?]
    by_cases same : k = key
    · rw [List.filter_cons_of_pos (by simpa using same), List.getLast?_cons, if_pos same]
      cases (pairs.filter (·.1 = key)).getLast? <;> rfl
    · rw [List.filter_cons_of_neg (by simpa using same), if_neg same]

theorem setAll_ordered {fields : Fields} (ordered : fields.Pairwise (·.1 < ·.1))
    (pairs : List (String × String)) : (fields.setAll pairs).Pairwise (·.1 < ·.1) := by
  induction pairs generalizing fields with
  | nil => exact ordered
  | cons e pairs ih => exact ih (set_ordered ordered e.1 e.2)

end Fields

/-- A new event has the last value of each name. -/
theorem Event.get?_withFields {e : Event} (new : e.context = []) (pairs : List (String × String))
    (key : String) : (e.withFields pairs).context.get? key = lastValue? key pairs := by
  rw [withFields, Fields.get?_setAll, new, Fields.get?_nil, Option.or_none]

namespace MemoryLog
variable {log : MemoryLog}

/-- The buffer is the end of what it held with the new event behind it. -/
theorem add_toList (log : MemoryLog) (e : Event) :
    (log.add e).events.toList =
      (log.events.toList ++ [e]).rtake Limits.active.logBufferSize := by
  have room : 0 < Limits.active.logBufferSize := by decide
  simp only [add, List.rtake, List.length_append, List.length_singleton, Array.length_toList]
  split
  case isTrue free =>
    rw [Array.toList_push, Nat.sub_eq_zero_of_le free, List.drop_zero]
  case isFalse full =>
    -- One event more than what does not fit is dropped, which makes room for the new one.
    have dropped : log.events.size + 1 - Limits.active.logBufferSize =
        log.events.size - Limits.active.logBufferSize + 1 := by omega
    have within : log.events.size - Limits.active.logBufferSize + 1 ≤ log.events.toList.length := by
      rw [Array.length_toList]
      omega
    rw [Array.toList_push, dropped, List.drop_append_of_le_length within, Array.toList_extract,
      List.extract_eq_take_drop, List.take_of_length_le]
    rw [List.length_drop, Array.length_toList]

theorem rtake_rtake_succ (n : Nat) (es : List α) : (es.rtake (n + 1)).rtake n = es.rtake n := by
  simp [List.rtake_eq_reverse_take_reverse, List.take_take]

/-- A log keeps the end of what it held with all that is added behind it. -/
theorem foldl_add_rtake (log : MemoryLog) (some : es ≠ []) :
    (es.foldl add log).events.toList =
      (log.events.toList ++ es).rtake Limits.active.logBufferSize := by
  obtain ⟨n, size⟩ : ∃ n, Limits.active.logBufferSize = n + 1 :=
    Nat.exists_eq_add_one.mpr (by decide)
  induction es using List.reverseRecOn with
  | nil => contradiction
  | append_singleton es e ih =>
    rw [List.foldl_concat, add_toList]
    by_cases first : es = []
    · rw [first]
      rfl
    · rw [ih first, size, List.rtake_concat_succ, ← List.append_assoc, List.rtake_concat_succ,
        rtake_rtake_succ]

end MemoryLog

namespace LogRequest

def level : LogRequest → Level
  | error .. => .error
  | warning .. => .warning
  | success .. | info .. => .info
  | debug .. => .debug

/-- Requests without a code have one for their level. -/
def code : LogRequest → Code
  | error code .. | success code .. => code
  | warning code .. => code.getD .plainWarning
  | info .. => .plainInfo
  | debug .. => .plainDebug

def message : LogRequest → String
  | error _ message .. | warning _ message _ | success _ message _ | info message _
  | debug message _ => message

def span? : LogRequest → Option Span
  | error _ _ span _ => span
  | warning .. | success .. | info .. | debug .. => none

theorem event_eq (r : LogRequest) :
    r.event = { level := r.level, code := r.code, span := r.span?,
                message := Text.clip Limits.active.maxMessageLength r.message } := by
  cases r with
  | error code message span fields => cases span <;> rfl
  | warning code message fields => cases code <;> rfl
  | success | info | debug => rfl

/-- The event of a request that is made while `file` is noted. -/
def told (r : LogRequest) (file : Option String) : Event :=
  Journal.tag file (r.event.withFields r.fields)

/-- What an event says of a request that is made while `file` is noted. A value of the name
`file` gives way to the note. -/
structure Tells (e : Event) (r : LogRequest) (file : Option String) : Prop where
  level : e.level = r.level
  code : e.code = r.code
  message : e.message = Text.clip Limits.active.maxMessageLength r.message
  span : e.span = r.span?
  ordered : e.context.Pairwise (·.1 < ·.1)
  fields : ∀ key, e.context.get? key =
    if key = "file" then file.or (lastValue? key r.fields) else lastValue? key r.fields

theorem told_tells (r : LogRequest) (file : Option String) : Tells (r.told file) r file := by
  have ordered : (r.event.withFields r.fields).context.Pairwise (·.1 < ·.1) := by
    rw [event_eq]
    exact Fields.setAll_ordered .nil r.fields
  have values (key : String) :
      (r.event.withFields r.fields).context.get? key = lastValue? key r.fields :=
    Event.get?_withFields (by rw [event_eq]) r.fields key
  cases file with
  | none =>
    refine ⟨?_, ?_, ?_, ?_, ordered, fun key => ?_⟩
    iterate 4 rw [told, Journal.tag, event_eq]; rfl
    rw [told, Journal.tag, values, Option.none_or, ite_self]
  | some path =>
    refine ⟨?_, ?_, ?_, ?_, Fields.set_ordered ordered _ _, fun key => ?_⟩
    iterate 4 rw [told, Journal.tag, event_eq]; rfl
    rw [told, Journal.tag, Event.withField, Fields.get?_set, values, Option.some_or]
    simp only [eq_comm]

end LogRequest

namespace Journal
variable {j : Journal} {log : MemoryLog} {threshold : Level}

inductive Act
  | log (r : LogRequest)
  | setFile (path : String)
  | clearFile
deriving DecidableEq, Repr

def act (j : Journal) : Act → Journal
  | .log r => j.log r
  | .setFile path => j.setFile path
  | .clearFile => j.clearFile

def after (j : Journal) (acts : List Act) : Journal := acts.foldl act j

def deliverAll (j : Journal) (events : List Event) : Journal := events.foldl (·.deliver ·) j

/-- The requests in order, each with the file that is noted when it is made. -/
def requests : Option String → List Act → List (LogRequest × Option String)
  | _, [] => []
  | file, .log r :: acts => (r, file) :: requests file acts
  | _, .setFile path :: acts => requests (some path) acts
  | _, .clearFile :: acts => requests none acts

def noting (j : Journal) (file : Option String) : Journal := { j with file }

@[simp] theorem noting_noting (j : Journal) (file file' : Option String) :
    (j.noting file).noting file' = j.noting file' := rfl

@[simp] theorem noting_self (j : Journal) : j.noting j.file = j := rfl

@[simp] theorem deliver_file (e : Event) (j : Journal) : (j.deliver e).file = j.file := by
  obtain ⟨preferences, _ | service, file, console⟩ := j <;> rfl

/-- An event below the level of the service leaves no trace. -/
theorem deliver_of_not_admits {e : Event} (refused : j.admits e.level = false) :
    j.deliver e = j := by
  obtain ⟨preferences, _ | ⟨sink, level⟩, file, console⟩ := j
  case none => rfl
  case some =>
    have above : level.admits e.level = false := refused
    simp [deliver, Service.log, above]

theorem deliver_memory (started : j.service = some ⟨.memory log, threshold⟩) (e : Event) :
    (j.deliver e).service =
      some ⟨.memory (if threshold.admits e.level then log.add e else log), threshold⟩ := by
  obtain ⟨preferences, service, file, console⟩ := j
  cases started
  cases admitted : threshold.admits e.level <;>
    simp [deliver, Service.log, Sink.take, admitted]

theorem deliver_noting (e : Event) (j : Journal) (file : Option String) :
    (j.noting file).deliver e = (j.deliver e).noting file := by
  obtain ⟨preferences, _ | service, old, console⟩ := j <;> rfl

theorem deliverAll_noting (es : List Event) (j : Journal) (file : Option String) :
    (j.noting file).deliverAll es = (j.deliverAll es).noting file := by
  induction es generalizing j with
  | nil => rfl
  | cons e es ih =>
    rw [deliverAll, List.foldl_cons, deliver_noting]
    exact ih (j.deliver e)

theorem deliverAll_append (j : Journal) (es fs : List Event) :
    j.deliverAll (es ++ fs) = (j.deliverAll es).deliverAll fs := List.foldl_append ..

theorem deliverAll_memory (started : j.service = some ⟨.memory log, threshold⟩)
    (es : List Event) :
    (j.deliverAll es).service = some
      ⟨.memory ((es.filter (threshold.admits ·.level)).foldl MemoryLog.add log), threshold⟩ := by
  induction es generalizing j log with
  | nil => exact started
  | cons e es ih =>
    rw [deliverAll, List.foldl_cons, ← deliverAll, ih (deliver_memory started e), List.filter_cons]
    split <;> rfl

/-- Values and the note do not change the level, so asking for it first changes nothing. -/
theorem log_eq (j : Journal) (r : LogRequest) : j.log r = j.deliver (r.told j.file) := by
  rw [log]
  split
  case isTrue => rfl
  case isFalse refused =>
    refine (deliver_of_not_admits ?_).symm
    rw [(r.told_tells j.file).level]
    rw [r.event_eq] at refused
    exact eq_false_of_ne_true refused

theorem reportAll_eq (j : Journal) (es : List Event) :
    j.reportAll es = j.deliverAll (es.map (tag j.file)) := by
  induction es generalizing j with
  | nil => rfl
  | cons e es ih =>
    rw [reportAll, List.foldl_cons, ← reportAll, ih, report, deliver_file]
    rfl

/-- Between `j` and `j'` the log in memory got just these events. It holds the latest that fit. -/
def Gains (j j' : Journal) (events : List Event) : Prop :=
  j'.events.toList = (j.events.toList ++ events).rtake Limits.active.logBufferSize

/-- At the level of debugging no event is lost. -/
theorem reportAll_gains {es : List Event} (started : j.service = some ⟨.memory log, .debug⟩)
    (some : es ≠ []) : j.Gains (j.reportAll es) (es.map (tag j.file)) := by
  have all : (es.map (tag j.file)).filter (Level.debug.admits ·.level) = es.map (tag j.file) := by
    rw [List.filter_eq_self]
    intro e _
    cases e.level <;> rfl
  have before : j.events = log.events := by
    rw [events, started]
    rfl
  have behind := deliverAll_memory started (es.map (tag j.file))
  rw [← reportAll_eq, all] at behind
  rw [Gains, before, events, behind, ← MemoryLog.foldl_add_rtake log (by simpa using some)]
  rfl

end Journal
end ScriptScan
