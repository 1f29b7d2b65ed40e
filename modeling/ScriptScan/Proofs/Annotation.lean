import ScriptScan.Proofs.Lines
import ScriptScan.Proofs.Strays
import Mathlib.Data.List.DropRight

/-! Messages under the lines they speak of. A diagnostic of a scan is printed with the
line of its character, and the caret stands below that character: the places of a scan
and the line table agree, and carriage returns are dropped behind the character only. -/
namespace ScriptScan

namespace SourceMap

/-- `lead` is as wide as the columns before `column` of the line, with tabs where the line
has tabs and spaces elsewhere. -/
structure LeadsTo (lead line : String) (column : Nat) : Prop where
  width : lead.length + 1 = column
  blank : ∀ i < lead.length,
    lead.toList[i]? = some (if line.toList[i]? = some '\t' then '\t' else ' ')

/-- What is printed of a message whose place has a line, with one caret. -/
def excerpt (message : String) (p : Position) (line lead : String) : List String :=
  let number := toString p.line
  let gutter := "".pushn ' ' number.length
  ["error: " ++ message, "  --> " ++ p.describe, gutter ++ " |", number ++ " | " ++ line,
    gutter ++ " | " ++ lead ++ "^"]

/-- What is printed of any message. -/
def heading (message : String) (p : Position) : List String :=
  ["error: " ++ message, "  --> " ++ p.describe]

/-- What is printed behind it when the place has a line: the line and what is marked of it. -/
def context (p : Position) (line lead : String) (width : Nat) : List String :=
  let number := toString p.line
  let gutter := "".pushn ' ' number.length
  [gutter ++ " |", number ++ " | " ++ line, gutter ++ " | " ++ lead ++ "".pushn '^' width]

def printed (lines : List String) : String := String.join (lines.map (· ++ "\n"))

variable {line : String} {c : Char} {i width : Nat}

theorem toList_dropCarriageReturns (line : String) :
    (dropCarriageReturns line).toList = line.toList.rdropWhile (· == '\r') := by
  rw [dropCarriageReturns, String.toList_ofList, List.rdropWhile]

theorem dropCarriageReturns_getElem? (found : line.toList[i]? = some c) (other : c ≠ '\r') :
    (dropCarriageReturns line).toList[i]? = some c := by
  rw [toList_dropCarriageReturns]
  -- What is dropped from the end is all carriage returns, and this character is none.
  rw [← List.rdropWhile_append_rtakeWhile (p := (· == '\r')) (l := line.toList)] at found
  rw [List.getElem?_append] at found
  split at found
  · exact found
  · have dropped := List.mem_rtakeWhile_imp (List.mem_of_getElem? found)
    exact absurd (by simpa using dropped) other

theorem lead_leadsTo (found : line.toList[width]? = some c) :
    LeadsTo (lead line width) line (width + 1) := by
  have ⟨room, _⟩ := List.getElem?_eq_some_iff.mp found
  have length : (lead line width).length = width := by
    rw [lead, String.length_ofList, List.length_map, List.length_take]
    omega
  refine ⟨by rw [length], fun i inside => ?_⟩
  rw [length] at inside
  have ⟨d, same⟩ : ∃ d, line.toList[i]? = some d :=
    ⟨_, List.getElem?_eq_getElem (inside.trans room)⟩
  simp [lead, List.getElem?_take_of_lt inside, same]

theorem carets_ofChar (p : Position) (other : c ≠ '\n') : carets (.ofChar p c) = 1 := by
  simp [carets, Span.ofChar, Position.advance, other]

theorem annotate_of_line {m : SourceMap} {s : Span} (found : m.line? s.first.line = some line)
    (message : String) :
    m.annotate s message = printed (heading message s.first ++
      context s.first line (lead line (s.first.column - 1)) (carets s)) := by
  simp only [annotate, found]
  rw [← String.toList_inj]
  simp [printed, heading, context, Position.describe, toString]

theorem annotate_of_no_line {m : SourceMap} {s : Span} (missing : m.line? s.first.line = none)
    (message : String) : m.annotate s message = printed (heading message s.first) := by
  simp only [annotate, missing]
  rw [← String.toList_inj]
  simp [printed, heading, Position.describe, toString]

theorem annotate_ofChar {m : SourceMap} {p : Position} (found : m.line? p.line = some line)
    (other : c ≠ '\n') (message : String) :
    m.annotate (.ofChar p c) message =
      String.join ((excerpt message p line (lead line (p.column - 1))).map (· ++ "\n")) := by
  rw [annotate_of_line (s := .ofChar p c) found, carets_ofChar p other]
  rfl

/-- A character that does not end its line is found in its line, where its place says. -/
theorem exists_line?_of_place (before after : String) (feed : c ≠ '\n') (ret : c ≠ '\r') :
    ∃ line width,
      (ofText (before ++ String.singleton c ++ after)).line?
        (Position.start.advanceAll before).line = some line ∧
      (Position.start.advanceAll before).column = width + 1 ∧ line.toList[width]? = some c := by
  obtain ⟨earlier, lead, rest, later, rfl, rfl, unbroken, place⟩ :=
    Text.exists_isLine before after feed
  obtain ⟨number, column⟩ := Position.advanceAll_in_line place.opens unbroken
  have text : earlier ++ lead ++ String.singleton c ++ (rest ++ later) =
      earlier ++ (lead ++ String.singleton c ++ rest) ++ later := by
    simp only [String.append_assoc]
  refine ⟨dropCarriageReturns (lead ++ String.singleton c ++ rest), lead.length, ?_, column, ?_⟩
  · rw [number, text]
    exact line?_of_isLine place
  · apply dropCarriageReturns_getElem? _ ret
    simp [← String.length_toList]

end SourceMap

/-- The diagnostic is printed with the line of its character and one caret below that. -/
structure Diagnostic.Marked (d : Diagnostic) (text message line lead : String) : Prop where
  line_eq : (SourceMap.ofText text).line? d.position.line = some line
  column_pos : 0 < d.position.column
  character : line.toList[d.position.column - 1]? = some d.character
  leadsTo : SourceMap.LeadsTo lead line d.position.column
  annotate_eq : (SourceMap.ofText text).annotate d.span message =
    String.join ((SourceMap.excerpt message d.position line lead).map (· ++ "\n"))

/-- Every message about a recorded diagnostic points at its character. -/
theorem marked_of_recorded (recorded : d ∈ (tokenizeWithDiagnostics text).diagnostics)
    (message : String) : ∃ line lead, d.Marked text message line lead := by
  have listed := List.mem_of_mem_take (mem_diagnostics_iff.mp recorded)
  obtain ⟨i, found⟩ := List.mem_iff_getElem?.mp listed
  obtain ⟨before, after, rfl, _, stray, position⟩ := strays_getElem? found
  have feed : d.character ≠ '\n' := by
    intro same
    exact absurd (same ▸ stray) (by decide)
  have ret : d.character ≠ '\r' := by
    intro same
    exact absurd (same ▸ stray) (by decide)
  obtain ⟨line, width, lineEq, column, character⟩ :=
    SourceMap.exists_line?_of_place before after feed ret
  rw [← position] at lineEq column
  refine ⟨line, SourceMap.lead line width, lineEq, by omega, ?_, ?_, ?_⟩
  · rwa [column, Nat.add_sub_cancel]
  · rw [column]
    exact SourceMap.lead_leadsTo character
  · have printed := SourceMap.annotate_ofChar lineEq feed message
    rwa [column, Nat.add_sub_cancel] at printed

/-- A character of two bytes behind a tab, on the second of two lines. -/
theorem marked_of_recorded_behind_tab :
    let d : Diagnostic := ⟨'é', ⟨4, 2, 2⟩⟩
    d ∈ (tokenizeWithDiagnostics "a\r\n\té+").diagnostics ∧
      ∃ line lead, d.Marked "a\r\n\té+" "stray" line lead := by
  intro d
  have all : strays "a\r\n\té+" = [d, ⟨'+', ⟨6, 2, 3⟩⟩] := by
    rw [strays_eq]
    rfl
  have recorded : d ∈ (tokenizeWithDiagnostics "a\r\n\té+").diagnostics := by
    rw [mem_diagnostics_iff, all]
    exact .head _
  exact ⟨recorded, marked_of_recorded recorded "stray"⟩

end ScriptScan
