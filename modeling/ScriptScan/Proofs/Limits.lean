import Mathlib.Tactic.SplitIfs
import ScriptScan.Build
import ScriptScan.Log.Journal
import ScriptScan.Proofs.Places

/-! Limits that a build lets through. The build checks them when it reads them, and logging
checks them again when it starts. The two agree but for the length of messages: no build
looks at it, and logging does not start if there is no room for any. -/
namespace ScriptScan

theorem FileAccess.text_of_content {f : FileAccess} {document : String}
    (content : f.content = .ok document.toUTF8) : f.text = .ok document := by
  simp only [FileAccess.text, content, bind, Except.bind, Text.fromUTF8?_toUTF8]

namespace Build

/-- Limits that pass the checks of a build. -/
structure Passes (profile : String) (l : Limits) : Prop where
  maxFileSize_le : l.maxFileSize ≤ 1000000000
  threshold_le : l.largeFileThreshold ≤ l.maxFileSize
  one_le_maxDiagnostics : 1 ≤ l.maxDiagnostics
  le_logBufferSize : 100 ≤ l.logBufferSize
  logBufferSize_le : l.logBufferSize ≤ 100000
  production : profile = "production" → l.maxFileSize ≤ 50000000

variable {profile document : String} {l : Limits} {s : Settings} {f : FileAccess}

theorem check_eq_ok_iff : check profile l = .ok () ↔ Passes profile l := by
  constructor
  · intro passed
    unfold check at passed
    split_ifs at passed with size threshold diagnostics buffer production
    refine ⟨by omega, by omega, by omega, by omega, by omega, fun named => ?_⟩
    exact Nat.le_of_not_lt fun more => production ⟨named, more⟩
  · rintro ⟨size, threshold, diagnostics, low, high, production⟩
    have suits : ¬ (profile = "production" ∧ 50000000 < l.maxFileSize) := by
      rintro ⟨named, more⟩
      exact absurd (production named) (Nat.not_le.mpr more)
    rw [check, if_neg (by omega), if_neg (by omega), if_neg (by omega), if_neg (by omega),
      if_neg suits]

/-- A build goes through if its file holds limits that pass. -/
theorem limits_of_document (found : f.found = true) (content : f.content = .ok document.toUTF8)
    (holds : (Toml.read? document).bind limits? = some l) (passes : Passes s.profile l) :
    limits s f = .ok l := by
  have read := FileAccess.text_of_content content
  have passed := check_eq_ok_iff.mpr passes
  simp [limits, found, read, holds, passed, bind, Except.bind, pure, Except.pure]

end Build

namespace Limits
variable {l : Limits}

/-- The limits that are built in passed when they were built. -/
theorem active_passes : Build.check activeProfile active = .ok () := rfl

/-- With a log of a size that a build allows, only messages are left to find fault with. -/
theorem loggingFault?_eq (low : 100 ≤ l.logBufferSize) (high : l.logBufferSize ≤ 100000) :
    l.loggingFault? =
      if l.maxMessageLength = 0 then some "Max log message length must be positive"
      else none := by
  rw [loggingFault?, if_neg (by omega)]

end Limits

namespace Journal

theorem start_eq_invalidLimits_iff (j : Journal) (env : Environment) (l : Limits) (fault : String) :
    j.start env l = .error (.invalidLimits fault) ↔ l.loggingFault? = some fault := by
  unfold start
  cases found : l.loggingFault? with
  | some other => simp
  | none =>
    cases service : j.service <;> simp [startWith, service, bind, Except.bind, pure, Except.pure]

end Journal

/-- Limits that pass the checks of a build are in range, and logging starts under them just
when there is room for messages. -/
theorem start_iff_of_check (passed : Build.check profile l = .ok ()) :
    (l.loggingFault? = none ↔ l.maxMessageLength ≠ 0) ∧
      (∀ (j : Journal) env fault, j.start env l = .error (.invalidLimits fault) ↔
        l.maxMessageLength = 0 ∧ fault = "Max log message length must be positive") ∧
      1 ≤ l.maxDiagnostics ∧ l.largeFileThreshold ≤ l.maxFileSize ∧
      l.maxFileSize + 1 < UInt64.size := by
  have passes := Build.check_eq_ok_iff.mp passed
  have faultEq := Limits.loggingFault?_eq passes.le_logBufferSize passes.logBufferSize_le
  refine ⟨?_, ?_, passes.one_le_maxDiagnostics, passes.threshold_le, ?_⟩
  · rw [faultEq]
    simp
  · intro j env fault
    rw [j.start_eq_invalidLimits_iff, faultEq]
    simp [eq_comm]
  · have bound : 1000000000 + 1 < UInt64.size := by decide
    have size := passes.maxFileSize_le
    omega

theorem start_iff_of_check_production :
    let l : Limits := ⟨5242880, 524288, 100, 5000, 4096⟩
    Build.check "production" l = .ok () ∧ l.loggingFault? = none := by
  intro l
  have passed : Build.check "production" l = .ok () := rfl
  exact ⟨passed, (start_iff_of_check passed).1.mpr (by decide)⟩

/-- A document with no room for messages passes for a build, and logging refuses its limits. -/
theorem build_without_messages :
    let document := "[file_processing]\nmax_file_size = 1\nlarge_file_threshold = 1\n" ++
      "[lexical]\nmax_diagnostics = 1\n[logging]\nlog_buffer_size = 100\n" ++
      "max_log_message_length = 0\n"
    let file : FileAccess := ⟨true, true, .ok "", .ok 0, .ok document.toUTF8, none⟩
    let l : Limits := ⟨1, 1, 1, 100, 0⟩
    Build.limits ⟨"development", "config", ""⟩ file = .ok l ∧
      l.loggingFault? = some "Max log message length must be positive" := by
  intro document file l
  have holds : (Toml.read? document).bind Build.limits? = some l := by decide +kernel
  have passes : Build.Passes "development" l := by constructor <;> decide
  exact ⟨Build.limits_of_document rfl rfl holds passes, rfl⟩

end ScriptScan
