import ScriptScan.Proofs.Places
import ScriptScan.Proofs.Scanner
import ScriptScan.Token.Scan

/-! Stray characters and their diagnostics. The stray characters of a text are told by
the text alone, each with the place behind what stands before it; a scan records the
first of them and counts the rest. -/
namespace ScriptScan

/-- The stray characters of a text in their order, each at the place behind the text
before it. -/
def strays (text : String) : List Diagnostic :=
  (text.toList.zipIdx.filter fun (c, _) => isStray c).map fun (c, i) =>
    ⟨c, Position.start.advanceAll (String.ofList (text.toList.take i))⟩

/-- The same with the places counted on the way. -/
def straysFrom (p : Position) : List Char → List Diagnostic
  | [] => []
  | c :: cs =>
    if isStray c then ⟨c, p⟩ :: straysFrom (p.advance c) cs else straysFrom (p.advance c) cs

theorem straysFrom_zipIdx (before cs : List Char) :
    ((cs.zipIdx before.length).filter fun (c, _) => isStray c).map (fun (c, i) =>
      (⟨c, Position.start.advanceAll (String.ofList ((before ++ cs).take i))⟩ : Diagnostic)) =
    straysFrom (Position.start.advanceAll (String.ofList before)) cs := by
  induction cs generalizing before with
  | nil => rfl
  | cons c cs ih =>
    have next := ih (before ++ [c])
    have place : Position.start.advanceAll (String.ofList (before ++ [c])) =
        (Position.start.advanceAll (String.ofList before)).advance c := by
      simp [Position.advanceAll_eq]
    rw [List.length_append, List.length_singleton, place, List.append_assoc,
      List.singleton_append] at next
    rw [List.zipIdx_cons, straysFrom, ← next]
    by_cases stray : isStray c = true
    · simp [stray]
    · simp [stray]

theorem strays_eq (text : String) : strays text = straysFrom .start text.toList := by
  have all := straysFrom_zipIdx [] text.toList
  have empty : Position.start.advanceAll (String.ofList []) = .start := by
    simp [Position.advanceAll_eq]
  rw [List.nil_append, empty] at all
  exact all

/-- A record tells how the characters divide at it. -/
theorem straysFrom_getElem? (found : (straysFrom p cs)[i]? = some d) :
    ∃ before after, cs = before ++ d.character :: after ∧ (straysFrom p before).length = i ∧
      isStray d.character = true ∧ d.position = before.foldl Position.advance p := by
  induction cs generalizing p i with
  | nil => simp [straysFrom] at found
  | cons c cs ih =>
    by_cases stray : isStray c = true
    · simp only [straysFrom, stray, if_true] at found
      cases i with
      | zero =>
        obtain rfl : ⟨c, p⟩ = d := by simpa using found
        exact ⟨[], cs, rfl, rfl, stray, rfl⟩
      | succ i =>
        obtain ⟨before, after, same, earlier, stray', place⟩ := ih (by simpa using found)
        refine ⟨c :: before, after, by rw [same, List.cons_append], ?_, stray', place⟩
        simp [straysFrom, stray, earlier]
    · simp only [straysFrom, stray] at found
      obtain ⟨before, after, same, earlier, stray', place⟩ := ih found
      refine ⟨c :: before, after, by rw [same, List.cons_append], ?_, stray', place⟩
      simp [straysFrom, stray, earlier]

theorem strays_getElem? (found : (strays text)[i]? = some d) :
    ∃ before after, text = before ++ String.singleton d.character ++ after ∧
      (strays before).length = i ∧ isStray d.character = true ∧
      d.position = Position.start.advanceAll before := by
  rw [strays_eq] at found
  obtain ⟨before, after, chars, earlier, stray, place⟩ := straysFrom_getElem? found
  refine ⟨String.ofList before, String.ofList after, ?_, ?_, stray, ?_⟩
  · rw [← String.toList_inj]
    simp [chars]
  · rw [strays_eq, String.toList_ofList, earlier]
  · simpa [Position.advanceAll_eq] using place

/-- A text has stray characters. -/
def HasStray (text : String) : Prop := ∃ c ∈ text.toList, isStray c = true

theorem straysFrom_eq_nil_iff : straysFrom p cs = [] ↔ ∀ c ∈ cs, isStray c = false := by
  induction cs generalizing p with
  | nil => simp [straysFrom]
  | cons c cs ih => by_cases stray : isStray c = true <;> simp [straysFrom, stray, ih]

theorem strays_ne_nil_iff (text : String) : strays text ≠ [] ↔ HasStray text := by
  rw [strays_eq, Ne, straysFrom_eq_nil_iff, HasStray]
  simp

/-- Strays are listed in the order of their places. -/
theorem straysFrom_ascending (p : Position) (cs : List Char) :
    (∀ d ∈ straysFrom p cs, p.offset ≤ d.position.offset) ∧
      (straysFrom p cs).Pairwise fun d d' => d.position.offset < d'.position.offset := by
  induction cs generalizing p with
  | nil => simp [straysFrom]
  | cons c cs ih =>
    obtain ⟨later, ascending⟩ := ih (p.advance c)
    have passed : p.offset < (p.advance c).offset := by
      rw [p.advance_offset c]
      exact Nat.lt_add_of_pos_right c.utf8Size_pos
    have behind : ∀ d ∈ straysFrom (p.advance c) cs, p.offset < d.position.offset :=
      fun d member => Nat.lt_of_lt_of_le passed (later d member)
    rw [straysFrom]
    split
    case isTrue =>
      refine ⟨?_, List.pairwise_cons.mpr ⟨behind, ascending⟩⟩
      intro d member
      rcases List.mem_cons.mp member with rfl | member
      · exact Nat.le_refl _
      · exact Nat.le_of_lt (behind d member)
    case isFalse => exact ⟨fun d member => Nat.le_of_lt (behind d member), ascending⟩

namespace Scanner
variable {s : Scanner} {found : List Diagnostic}

/-- Of what was found, the scanner holds the first and counts the others. -/
def Recorded (s : Scanner) (found : List Diagnostic) : Prop :=
  s.diagnostics.toList = found.take Limits.active.maxDiagnostics ∧
    s.suppressed = found.length - Limits.active.maxDiagnostics

theorem Recorded.size (recorded : s.Recorded found) :
    s.diagnostics.size = min Limits.active.maxDiagnostics found.length := by
  rw [← Array.length_toList, recorded.1, List.length_take]

theorem drop_recorded (reporting : s.reporting = true) (recorded : s.Recorded found) (c : Char) :
    (s.drop c).Recorded (found ++ [⟨c, s.position⟩]) := by
  have size := recorded.size
  obtain ⟨held, counted⟩ := recorded
  by_cases room : found.length < Limits.active.maxDiagnostics
  · have free : s.diagnostics.size < Limits.active.maxDiagnostics := by omega
    have fits : (found ++ [(⟨c, s.position⟩ : Diagnostic)]).length ≤ Limits.active.maxDiagnostics := by
      rw [List.length_append, List.length_singleton]
      omega
    rw [List.take_of_length_le (by omega)] at held
    constructor
    · rw [List.take_of_length_le fits, ← held]
      simp [drop, reporting, free]
    · rw [Nat.sub_eq_zero_of_le fits]
      simp only [drop, reporting, free, if_true]
      omega
  · have full : ¬ s.diagnostics.size < Limits.active.maxDiagnostics := by omega
    constructor
    · rw [List.take_append_of_le_length (by omega), ← held]
      simp [drop, reporting, full]
    · rw [List.length_append, List.length_singleton]
      simp only [drop, reporting, full, if_true, if_false]
      omega

theorem skip_recorded (reporting : s.reporting = true) (recorded : s.Recorded found) (c : Char) :
    (s.skip c).Recorded (found ++ if isStray c then [⟨c, s.position⟩] else []) := by
  unfold skip
  split
  · exact drop_recorded reporting recorded c
  · simpa using recorded

/-- A step records its character if that is stray. -/
theorem Step.recorded {t : Scanner} (moved : Step s c t) (reporting : s.reporting = true)
    (recorded : s.Recorded found) :
    t.Recorded (found ++ if isStray c then [⟨c, s.position⟩] else []) := by
  cases moved with
  | extend accepted =>
    rw [isStray_of_isTokenChar (isTokenChar_of_accepts accepted), if_neg Bool.false_ne_true,
      List.append_nil]
    exact recorded
  | start _ used =>
    rw [isStray_of_isTokenChar used, if_neg Bool.false_ne_true, List.append_nil]
    exact recorded
  | skip => exact skip_recorded (s := s.closed) reporting recorded c

theorem Step.reporting_eq {t : Scanner} (moved : Step s c t) : t.reporting = s.reporting := by
  cases moved with
  | extend | start => rfl
  | skip =>
    rw [skip_eq]
    rfl

/-- What is recorded while characters are fed. -/
theorem foldl_feed_recorded (coherent : s.Coherent) (reporting : s.reporting = true)
    (recorded : s.Recorded found) (cs : List Char) :
    (cs.foldl feed s).Recorded (found ++ straysFrom s.position cs) := by
  induction cs generalizing s found with
  | nil => simpa [straysFrom] using recorded
  | cons c cs ih =>
    have moved := step_spec coherent c
    have next := ih (feed_coherent coherent c) (moved.reporting_eq.trans reporting)
      (moved.recorded reporting recorded)
    rw [feed_position coherent] at next
    by_cases stray : isStray c = true
    · simpa [straysFrom, stray] using next
    · simpa [straysFrom, stray] using next

theorem run_recorded (text : String) : (run {} text).Recorded (strays text) := by
  have new : Coherent {} := Shape.initial
  have nothing : Recorded {} [] := ⟨rfl, by simp⟩
  have fed := foldl_feed_recorded new rfl nothing text.toList
  rw [List.nil_append, ← strays_eq] at fed
  rw [run, feedAll_eq, finish_eq (foldl_feed_coherent new text.toList)]
  exact fed

end Scanner

theorem mem_diagnostics_iff : d ∈ (tokenizeWithDiagnostics text).diagnostics ↔
    d ∈ (strays text).take Limits.active.maxDiagnostics := by
  rw [← (Scanner.run_recorded text).1]
  exact Array.mem_toList_iff.symm

/-- A diagnostic covers its character where that stands in the text. -/
structure Diagnostic.Covers (d : Diagnostic) (text : String) : Prop where
  place : ∃ before after, text = before ++ String.singleton d.character ++ after ∧
    d.position = Position.start.advanceAll before ∧ d.position.offset = before.utf8ByteSize
  last_offset : d.span.last.offset = d.position.offset + d.character.utf8Size
  slice : d.span.slice? text = some (String.singleton d.character)

theorem covers_of_mem_strays (member : d ∈ strays text) : d.Covers text := by
  obtain ⟨i, found⟩ := List.mem_iff_getElem?.mp member
  obtain ⟨before, after, same, _, _, position⟩ := strays_getElem? found
  have offset : d.position.offset = before.utf8ByteSize := by
    rw [position, Position.advanceAll_offset]
    exact Nat.zero_add _
  have last : d.span.last.offset = d.position.offset + d.character.utf8Size :=
    d.position.advance_offset d.character
  refine ⟨⟨before, after, same, position, offset⟩, last, ?_⟩
  have covered := Text.slice?_middle before (String.singleton d.character) after
  rw [← same, ← offset, String.utf8ByteSize_singleton, ← last] at covered
  exact covered

/-- A scan records the first stray characters of its text, as many as the limit allows,
and counts the others. Each record covers its character in the text. -/
theorem diagnostics_eq_strays (text : String) :
    (tokenizeWithDiagnostics text).diagnostics.toList =
        (strays text).take Limits.active.maxDiagnostics ∧
      (tokenizeWithDiagnostics text).suppressed =
        (strays text).length - (tokenizeWithDiagnostics text).diagnostics.size ∧
      (0 < (tokenizeWithDiagnostics text).suppressed →
        (tokenizeWithDiagnostics text).diagnostics.size = Limits.active.maxDiagnostics) ∧
      ∀ d ∈ (tokenizeWithDiagnostics text).diagnostics, d.Covers text := by
  obtain ⟨held, counted⟩ : (Scanner.run {} text).Recorded (strays text) := Scanner.run_recorded text
  have size : (Scanner.run {} text).diagnostics.size =
      min Limits.active.maxDiagnostics (strays text).length := by
    rw [← Array.length_toList, held, List.length_take]
  refine ⟨held, ?_, ?_, ?_⟩
  · change (Scanner.run {} text).suppressed = _ - (Scanner.run {} text).diagnostics.size
    omega
  · intro more
    change 0 < (Scanner.run {} text).suppressed at more
    change (Scanner.run {} text).diagnostics.size = _
    omega
  · intro d member
    apply covers_of_mem_strays
    have listed := Array.mem_toList_iff.mpr member
    exact List.mem_of_mem_take (held ▸ listed)

example : (tokenizeWithDiagnostics "é\n a+").diagnostics =
    #[⟨'é', ⟨0, 1, 1⟩⟩, ⟨'+', ⟨5, 2, 3⟩⟩] := by cbv

end ScriptScan
