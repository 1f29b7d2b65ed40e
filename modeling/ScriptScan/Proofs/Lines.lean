import ScriptScan.Proofs.Places
import ScriptScan.Source.Map
import ScriptScan.Text.Lines
import Mathlib.Data.List.TakeWhile

/-! Lines of a text. Places count line feeds and characters on the way, the line table
of a source map keeps byte offsets; both tell the same lines. The text is taken apart at
a line, and what either of them holds for it is read off the parts. -/
namespace ScriptScan

namespace Text

theorem append_push (first second : String) (c : Char) :
    first ++ second.push c = (first ++ second).push c := by
  rw [String.push_eq_append, String.push_eq_append, String.append_assoc]

theorem lineFeeds_push (text : String) (c : Char) :
    lineFeeds (text.push c) = lineFeeds text + if c = '\n' then 1 else 0 := by
  simp only [lineFeeds, String.foldl_eq_foldl_toList, String.toList_push, List.foldl_append]
  by_cases feed : c = '\n' <;> simp [feed]

theorem lineFeeds_eq (text : String) : lineFeeds text = text.toList.count '\n' := by
  induction text using String.push_induction with
  | empty => simp [lineFeeds, String.foldl_eq_foldl_toList]
  | push text c ih =>
    rw [lineFeeds_push, ih, String.toList_push, List.count_append, List.count_singleton]
    simp

theorem lineFeeds_unbroken (first : String) (unbroken : '\n' ∉ second.toList) :
    lineFeeds (first ++ second) = lineFeeds first := by
  rw [lineFeeds_eq, lineFeeds_eq, String.toList_append, List.count_append,
    List.count_eq_zero_of_not_mem unbroken, Nat.add_zero]

theorem endsInLineFeed_iff (text : String) :
    endsInLineFeed text = true ↔ text.toList.getLast? = some '\n' := by
  cases text using String.push_induction with
  | empty => simp [endsInLineFeed, String.foldl_eq_foldl_toList]
  | push text c => simp [endsInLineFeed, String.foldl_eq_foldl_toList]

theorem lineCount_eq (text : String) :
    lineCount text = text.toList.count '\n' +
      if text = "" ∨ text.toList.getLast? = some '\n' then 0 else 1 := by
  rw [lineCount, lineFeeds_eq]
  simp only [Bool.or_eq_true, endsInLineFeed_iff, String.isEmpty_iff]
  split <;> rfl

/-- A line starts behind `before`: there is nothing, or a line feed at its end. -/
def Opens (before : String) : Prop := ∀ c, before.toList.getLast? = some c → c = '\n'

theorem opens_empty : Opens "" := by simp [Opens]

theorem opens_push {before : String} : Opens (before.push c) ↔ c = '\n' := by simp [Opens]

/-- A line of the text `before ++ line ++ after`, without the line feed that may end it. -/
structure IsLine (before line after : String) : Prop where
  opens : Opens before
  unbroken : '\n' ∉ line.toList
  closes : ∀ c, after.toList.head? = some c → c = '\n'

theorem exists_opens (before : String) :
    ∃ earlier lead, before = earlier ++ lead ∧ Opens earlier ∧ '\n' ∉ lead.toList := by
  -- A line feed opens a line, and any other character prolongs the one that is open.
  induction before using String.push_induction with
  | empty => exact ⟨"", "", rfl, opens_empty, by simp⟩
  | push before c ih =>
    by_cases feed : c = '\n'
    · exact ⟨before.push c, "", by simp, opens_push.mpr feed, by simp⟩
    · obtain ⟨earlier, lead, rfl, opens, unbroken⟩ := ih
      refine ⟨earlier, lead.push c, (append_push earlier lead c).symm, opens, ?_⟩
      simp [unbroken, Ne.symm feed]

theorem exists_closes (after : String) :
    ∃ rest later, after = rest ++ later ∧ '\n' ∉ rest.toList ∧
      ∀ c, later.toList.head? = some c → c = '\n' := by
  refine ⟨String.ofList (after.toList.takeWhile (· ≠ '\n')),
    String.ofList (after.toList.dropWhile (· ≠ '\n')), ?_, ?_, ?_⟩
  · rw [← String.ofList_append, List.takeWhile_append_dropWhile, String.ofList_toList]
  · rw [String.toList_ofList]
    intro feed
    simpa using List.mem_takeWhile_imp feed
  · intro c first
    rw [String.toList_ofList] at first
    have stop := List.head?_dropWhile_not (· ≠ '\n') after.toList
    rw [first] at stop
    simpa using stop

/-- Every character but a line feed stands in a line. -/
theorem exists_isLine (before after : String) (other : c ≠ '\n') :
    ∃ earlier lead rest later, before = earlier ++ lead ∧ after = rest ++ later ∧
      '\n' ∉ lead.toList ∧ IsLine earlier (lead ++ String.singleton c ++ rest) later := by
  obtain ⟨earlier, lead, start, opens, unbroken⟩ := exists_opens before
  obtain ⟨rest, later, stop, unbroken', closes⟩ := exists_closes after
  refine ⟨earlier, lead, rest, later, start, stop, unbroken, opens, ?_, closes⟩
  simp [unbroken, unbroken', other.symm]

end Text

namespace Position

theorem advanceAll_append (p : Position) (first second : String) :
    p.advanceAll (first ++ second) = (p.advanceAll first).advanceAll second := by
  simp [advanceAll_eq]

theorem advanceAll_line (p : Position) (text : String) :
    (p.advanceAll text).line = p.line + Text.lineFeeds text := by
  induction text using String.push_induction with
  | empty => simp [advanceAll_eq, Text.lineFeeds_eq]
  | push text c ih =>
    rw [advanceAll_push, Text.lineFeeds_push, ← Nat.add_assoc, ← ih]
    by_cases feed : c = '\n' <;> simp [advance, feed]

theorem advanceAll_column_of_opens (opens : Text.Opens before) :
    (start.advanceAll before).column = 1 := by
  cases before using String.push_induction with
  | empty => simp [advanceAll_eq, start]
  | push before c => rw [advanceAll_push, Text.opens_push.mp opens, advance, if_pos rfl]

theorem advanceAll_column_of_unbroken (p : Position) (unbroken : '\n' ∉ text.toList) :
    (p.advanceAll text).column = p.column + text.length := by
  induction text using String.push_induction with
  | empty => simp [advanceAll_eq]
  | push text c ih =>
    have ⟨earlier, other⟩ : '\n' ∉ text.toList ∧ c ≠ '\n' := by
      simpa [eq_comm] using unbroken
    rw [advanceAll_push, advance, if_neg other, String.length_push, ← Nat.add_assoc, ← ih earlier]

/-- The place behind the first part of a line. -/
theorem advanceAll_in_line (opens : Text.Opens before) (unbroken : '\n' ∉ lead.toList) :
    (start.advanceAll (before ++ lead)).line = Text.lineFeeds before + 1 ∧
      (start.advanceAll (before ++ lead)).column = lead.length + 1 := by
  constructor
  · rw [advanceAll_line, Text.lineFeeds_unbroken before unbroken, Nat.add_comm]
    rfl
  · rw [advanceAll_append, advanceAll_column_of_unbroken _ unbroken,
      advanceAll_column_of_opens opens, Nat.add_comm]

end Position

namespace SourceMap

/-- Next to the table, its construction counts the bytes. -/
theorem foldl_table_offset (text : String) (offset : Nat) (starts : Array Nat) :
    (text.toList.foldl (fun (offset, starts) c =>
      let next := offset + c.utf8Size
      (next, if c = '\n' then starts.push next else starts)) (offset, starts)).1 =
        offset + text.utf8ByteSize := by
  induction text using String.push_induction with
  | empty => simp
  | push text c ih =>
    rw [String.toList_push, List.foldl_append, String.utf8ByteSize_push, ← Nat.add_assoc, ← ih]
    rfl

theorem lineStarts_empty : (ofText "").lineStarts = #[0] := by
  simp [ofText, String.foldl_eq_foldl_toList]

theorem lineStarts_push (text : String) (c : Char) :
    (ofText (text.push c)).lineStarts =
      if c = '\n' then (ofText text).lineStarts.push (text.push c).utf8ByteSize
      else (ofText text).lineStarts := by
  have offset := foldl_table_offset text 0 #[0]
  rw [Nat.zero_add] at offset
  simp only [ofText, String.foldl_eq_foldl_toList, String.toList_push, List.foldl_append,
    List.foldl_cons, List.foldl_nil]
  rw [offset, String.utf8ByteSize_push]

theorem lineStarts_append (first second : String) :
    ∃ more, (ofText (first ++ second)).lineStarts = (ofText first).lineStarts ++ more := by
  induction second using String.push_induction with
  | empty => exact ⟨#[], by simp⟩
  | push second c ih =>
    obtain ⟨more, same⟩ := ih
    rw [Text.append_push, lineStarts_push, same]
    split
    · exact ⟨more.push _, Array.push_append⟩
    · exact ⟨more, rfl⟩

theorem lineStarts_unbroken (first : String) (unbroken : '\n' ∉ second.toList) :
    (ofText (first ++ second)).lineStarts = (ofText first).lineStarts := by
  induction second using String.push_induction with
  | empty => rw [String.append_empty]
  | push second c ih =>
    have ⟨earlier, other⟩ : '\n' ∉ second.toList ∧ c ≠ '\n' := by
      simpa [eq_comm] using unbroken
    rw [Text.append_push, lineStarts_push, if_neg other, ih earlier]

theorem lineCount_eq (text : String) : (ofText text).lineCount = Text.lineFeeds text + 1 := by
  induction text using String.push_induction with
  | empty => rw [lineCount, lineStarts_empty, Text.lineFeeds_eq]; rfl
  | push text c ih =>
    rw [lineCount, lineStarts_push, Text.lineFeeds_push]
    split
    · rw [Array.size_push, ← lineCount, ih]
    · exact ih

/-- Behind as many line feeds as there are in `before`, the line starts at its length. -/
theorem lineStarts_getElem?_of_opens (opens : Text.Opens before) (after : String) :
    (ofText (before ++ after)).lineStarts[Text.lineFeeds before]? = some before.utf8ByteSize := by
  obtain ⟨more, same⟩ := lineStarts_append before after
  have inside : Text.lineFeeds before < (ofText before).lineStarts.size := by
    change _ < (ofText before).lineCount
    rw [lineCount_eq]
    exact Nat.lt_succ_self _
  rw [same, Array.getElem?_append_left inside]
  cases before using String.push_induction with
  | empty => rw [lineStarts_empty, Text.lineFeeds_eq]; rfl
  | push before c =>
    have count := lineCount_eq before
    obtain rfl := Text.opens_push.mp opens
    rw [lineStarts_push, if_pos rfl, Text.lineFeeds_push, if_pos rfl, ← count]
    exact Array.getElem?_push_size

/-- The next line starts behind the line feed of this one, unless this is the last. -/
theorem lineStarts_getElem?_of_isLine (place : Text.IsLine before line after) :
    (ofText (before ++ line ++ after)).lineStarts[Text.lineFeeds before + 1]? =
      if after = "" then none else some (before.utf8ByteSize + line.utf8ByteSize + 1) := by
  cases chars : after.toList with
  | nil =>
    obtain rfl := String.toList_eq_nil_iff.mp chars
    rw [if_pos rfl, String.append_empty, lineStarts_unbroken before place.unbroken,
      ← lineCount_eq]
    exact Array.getElem?_size
  | cons c rest =>
    obtain rfl : c = '\n' := place.closes c (by simp [chars])
    have whole : before ++ line ++ after = (before ++ line).push '\n' ++ String.ofList rest := by
      rw [← String.toList_inj]
      simp [chars]
    -- The next line is opened by this line feed, so the lemma above finds its start.
    have opens : Text.Opens ((before ++ line).push '\n') := Text.opens_push.mpr rfl
    have next := lineStarts_getElem?_of_opens opens (String.ofList rest)
    rw [Text.lineFeeds_push, if_pos rfl, Text.lineFeeds_unbroken before place.unbroken, ← whole,
      String.utf8ByteSize_push, String.utf8ByteSize_append] at next
    have more : after ≠ "" := by
      rintro rfl
      simp at chars
    rw [next, if_neg more]
    rfl

/-- Where the line behind `n` others ends: at the line feed before the next line, or else at the
end of the text. -/
def lineEnd (m : SourceMap) (n : Nat) : Nat :=
  m.lineStarts[n + 1]?.elim m.text.utf8ByteSize (· - 1)

theorem line?_succ (m : SourceMap) (n : Nat) :
    m.line? (n + 1) = m.lineStarts[n]?.bind fun first =>
      (Text.slice? m.text first (m.lineEnd n)).map dropCarriageReturns := by
  change (m.lineStarts[n]?.bind fun first => _) = _
  unfold lineEnd
  cases m.lineStarts[n + 1]? <;> rfl

theorem lineEnd_of_isLine (place : Text.IsLine before line after) :
    (ofText (before ++ line ++ after)).lineEnd (Text.lineFeeds before) =
      before.utf8ByteSize + line.utf8ByteSize := by
  rw [lineEnd, lineStarts_getElem?_of_isLine place]
  by_cases last : after = ""
  · rw [if_pos last, Option.elim_none, last, String.append_empty]
    exact String.utf8ByteSize_append
  · rw [if_neg last, Option.elim_some, Nat.add_sub_cancel]

/-- The cut that the table makes for a line is that line. -/
theorem slice?_of_isLine (place : Text.IsLine before line after) :
    Text.slice? (before ++ line ++ after) before.utf8ByteSize
      ((ofText (before ++ line ++ after)).lineEnd (Text.lineFeeds before)) = some line := by
  rw [lineEnd_of_isLine place]
  exact Text.slice?_middle before line after

/-- The table finds every line under the number of line feeds before it, counted from one. -/
theorem line?_of_isLine (place : Text.IsLine before line after) :
    (ofText (before ++ line ++ after)).line? (Text.lineFeeds before + 1) =
      some (dropCarriageReturns line) := by
  have first := lineStarts_getElem?_of_opens place.opens (line ++ after)
  rw [← String.append_assoc] at first
  have text : (ofText (before ++ line ++ after)).text = before ++ line ++ after := rfl
  rw [line?_succ, first, Option.bind_some, text, slice?_of_isLine place, Option.map_some]

end SourceMap

end ScriptScan
