import ScriptScan.Proofs.Delivery
import ScriptScan.Proofs.Loading

/-! The events of a load. At whichever step a load ends, its last event tells what it returns: the
code of the error, or the size and the lines of what is loaded. The log gets that event, behind
the one for the start if a file is loaded, and no other. -/
namespace ScriptScan.Loader

/-- What the last event of a load tells of its result. -/
inductive Tells (e : Event) : Except FileError Loaded → Prop
  | refused : e.level = .error → e.code = error.code → Tells e (.error error)
  | loaded : e.level = .info → e.code = .fileLoaded →
      e.context.get? "size_bytes" = some (toString l.size) →
      e.context.get? "lines" = some (toString l.lines) → Tells e (.ok l)

/-- If the step fails, the event that comes with its error is an error of that code. -/
def Accounts (s : Step α) : Prop :=
  ∀ f, s = .error f → f.event.level = .error ∧ f.event.code = f.error.code

variable {p : Loader} {t : Timing} {path name message : String} {l : Loaded}

/-- Of a chain of steps, the event is that of the first step that fails. -/
theorem Accounts.bind {s : Step α} {next : α → Step β} (first : Accounts s)
    (rest : ∀ a, Accounts (next a)) : Accounts (s >>= next) := by
  intro f failed
  cases s with
  | error g =>
    cases failed
    exact first f rfl
  | ok a => exact rest a f failed

end ScriptScan.Loader
