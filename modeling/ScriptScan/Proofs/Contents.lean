import ScriptScan.Proofs.History
import ScriptScan.Proofs.Layout
import ScriptScan.Proofs.Loading
import ScriptScan.Proofs.Measures

/-! Loaded sources and what an analysis finds in them. Loading counts the lines with something in
them and knows the white space of Unicode; an analysis counts line feeds on its way and knows
four blanks. The two fit together on every text. -/
namespace ScriptScan

namespace Text

/-- The last character belongs to the last line, be it a line feed or not. -/
theorem lineCount_push (text : String) (c : Char) :
    lineCount (text.push c) = lineFeeds text + 1 := by
  have more : text.push c ≠ "" := by
    rw [Ne, ← String.toList_inj, String.toList_push]
    exact List.concat_ne_nil c text.toList
  rw [lineCount_eq, ← lineFeeds_eq, lineFeeds_push, String.toList_push, List.getLast?_concat]
  by_cases feed : c = '\n' <;> simp [feed, more]

/-- What stands in front of a character has fewer line feeds than the whole has lines. -/
theorem lineFeeds_lt_lineCount (before : String) {after : String} (more : after ≠ "") :
    lineFeeds before < lineCount (before ++ after) := by
  cases after using String.push_induction with
  | empty => contradiction
  | push after c =>
    rw [append_push, lineCount_push, lineFeeds_eq, lineFeeds_eq, String.toList_append,
      List.count_append]
    exact Nat.lt_succ_of_le (Nat.le_add_right _ _)

theorem isBlank_iff (text : String) :
    isBlank text = true ↔ ∀ c ∈ text.toList, isWhiteSpace c = true := by
  rw [isBlank, String.all_bool_eq, List.all_eq_true]

end Text

theorem tokenize_eq_empty_iff (text : String) : tokenize text = #[] ↔ IsGap text := by
  constructor
  · intro none
    have munch : Munch text.toList (tokenize text).toList := maximalMunch_run false text
    rw [none] at munch
    rw [IsGap]
    generalize text.toList = cs at munch ⊢
    cases munch with
    | done apart => exact apart
  · intro apart
    have munch : MaximalMunch text #[] := .done apart
    exact munch.eq_tokenize.symm

/-- The place of a diagnostic is in a line that the text has, and its end within the bytes. -/
theorem Diagnostic.Covers.within {d : Diagnostic} (covers : d.Covers text) :
    1 ≤ d.position.line ∧ d.position.line ≤ Text.lineCount text ∧
      d.span.last.offset ≤ text.utf8ByteSize := by
  obtain ⟨before, after, same, position, offset⟩ := covers.place
  have line : d.position.line = 1 + Text.lineFeeds before := by
    rw [position, Position.advanceAll_line]
    rfl
  have inhabited : String.singleton d.character ++ after ≠ "" := by
    simp [← String.toList_inj]
  have counted := Text.lineFeeds_lt_lineCount before inhabited
  rw [← String.append_assoc, ← same] at counted
  refine ⟨by omega, by omega, ?_⟩
  rw [covers.last_offset, offset, same, String.utf8ByteSize_append, String.utf8ByteSize_append,
    String.utf8ByteSize_singleton]
  exact Nat.le_add_right _ _

/-- What is loaded comes from these bytes, and the system told this size of them. -/
structure Loaded.Of (l : Loaded) (size : Nat) (bytes : ByteArray) : Prop where
  source : l.source.toUTF8 = bytes
  size : l.size = size
  lines : l.lines = Text.lineCount l.source

namespace Loader

/-- What is loaded: a stream under a name, or a file. -/
inductive Origin
  | stream (name : String) (s : Stream)
  | file (path : String) (f : FileAccess)

def load (p : Loader) (t : Timing) : Origin → Except FileError Loaded × List Event
  | .stream name s => p.loadStream t name s
  | .file path f => p.loadFile t path f

variable {p : Loader} {path place : String} {size : Nat} {modified : Option Timestamp}
  {bytes : ByteArray} {l : Loaded} {f : FileAccess} {o : Origin}

end Loader

/-- What is told of a loaded source fits what an analysis with its diagnostics finds. -/
structure Loaded.Fits (l : Loaded) (scan : Scan) (m : Metrics) : Prop where
  characters : m.characters = l.characters
  lines : ∀ d ∈ scan.diagnostics, 1 ≤ d.position.line ∧ d.position.line ≤ l.lines
  bytes : ∀ d ∈ scan.diagnostics, d.span.last.offset ≤ l.source.utf8ByteSize
  table : (SourceMap.ofText l.source).lineCount =
    l.lines + if l.source = "" ∨ l.source.toList.getLast? = some '\n' then 1 else 0
  blank : l.isBlank = true → scan.tokens = #[]
  isBlank : scan.tokens = #[] → scan.diagnostics = #[] → l.isBlank = true

theorem Loaded.Of.fits {l : Loaded} {size : Nat} {bytes : ByteArray} {scan : Scan}
    (of : l.Of size bytes) (reports : scan.Reports l.source true) (detailed : Bool) :
    l.Fits scan (.ofScan detailed l.source scan) := by
  have within : ∀ d ∈ scan.diagnostics, 1 ≤ d.position.line ∧ d.position.line ≤ l.lines ∧
      d.span.last.offset ≤ l.source.utf8ByteSize := by
    intro d member
    rw [of.lines]
    exact (reports.covers member).within
  constructor
  case characters => exact (Metrics.ofScan_characters detailed l.source scan).1
  case lines => exact fun d member => ⟨(within d member).1, (within d member).2.1⟩
  case bytes => exact fun d member => (within d member).2.2
  case table =>
    rw [SourceMap.lineCount_eq, of.lines, Text.lineCount_eq, Text.lineFeeds_eq]
    split <;> rfl
  case blank =>
    intro blank
    rw [reports.tokens, tokenize_eq_empty_iff]
    intro c member
    exact isTokenChar_of_isWhiteSpace ((Text.isBlank_iff l.source).mp blank c member)
  case isBlank =>
    intro none unreported
    rw [reports.tokens, tokenize_eq_empty_iff] at none
    rw [reports.diagnostics_eq_empty_iff] at unreported
    refine (Text.isBlank_iff l.source).mpr fun c member => isWhiteSpace_of_isBlank ?_
    -- A character that is neither stray nor part of a token is one of the four blanks.
    simpa [isStray, none c member] using unreported c member

namespace Analyzer

end Analyzer
end ScriptScan
