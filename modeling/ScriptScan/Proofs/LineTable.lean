import ScriptScan.Proofs.Annotation

/-! The line table of a source map against the text cut at its line feeds. Every cut that the
table makes is between characters and gives one piece of the text, so that a message can be
printed whatever span it speaks of. -/
namespace ScriptScan

namespace Text

/-- The lines of a text without their line feeds. What is behind the last line feed is a line
too, also when it is empty. -/
def pieces (text : String) : List String := (text.toList.splitOn '\n').map String.ofList

theorem pieces_unbroken (unbroken : '\n' ∉ text.toList) : pieces text = [text] := by
  rw [pieces, List.splitOn_eq_singleton unbroken, List.map_singleton, String.ofList_toList]

theorem pieces_push_append (first second : String) :
    pieces (first.push '\n' ++ second) = pieces first ++ pieces second := by
  have chars : (first.push '\n' ++ second).toList = first.toList ++ '\n' :: second.toList := by
    simp
  rw [pieces, chars, List.splitOn_append_cons_self, List.map_append, pieces, pieces]

theorem length_pieces (text : String) : (pieces text).length = lineFeeds text + 1 := by
  rw [pieces, List.length_map, lineFeeds_eq]
  induction text.toList with
  | nil => rfl
  | cons c cs ih =>
    rw [List.splitOn_cons_eq_if_modifyHead, List.count_cons]
    split
    · rw [List.length_cons, ih]
    · rw [List.length_modifyHead, ih, Nat.add_zero]

/-- Lines with their line feeds again. -/
def ended (lines : List String) : String := String.join (lines.map (·.push '\n'))

theorem ended_pieces (text : String) : ended (pieces text) = text.push '\n' := by
  have chars (cs : List Char) :
      (cs.splitOn '\n').flatMap (· ++ ['\n']) = cs ++ ['\n'] := by
    induction cs with
    | nil => rfl
    | cons c cs ih =>
      rw [List.splitOn_cons_eq_if_modifyHead]
      split
      case isTrue feed =>
        rw [List.flatMap_cons, ih, eq_of_beq feed]
        rfl
      case isFalse =>
        obtain ⟨line, lines, parts⟩ := List.exists_cons_of_ne_nil (List.splitOn_ne_nil '\n' cs)
        rw [parts] at ih ⊢
        simpa using ih
  rw [← String.toList_inj, String.toList_push, ← chars]
  simp [ended, pieces, List.flatMap_map]

/-- Where a line starts, the pieces before it are all the text before it. -/
theorem pieces_of_opens (opens : Opens before) (rest : String) :
    ∃ earlier, earlier.length = lineFeeds before ∧ ended earlier = before ∧
      pieces (before ++ rest) = earlier ++ pieces rest := by
  cases before using String.push_induction with
  | empty => exact ⟨[], by rw [lineFeeds_eq]; rfl, by simp [ended], by simp⟩
  | push before c =>
    obtain rfl := opens_push.mp opens
    refine ⟨pieces before, ?_, ended_pieces before, pieces_push_append before rest⟩
    rw [length_pieces, lineFeeds_push, if_pos rfl]

theorem pieces_getElem?_of_isLine (place : IsLine before line after) :
    (pieces (before ++ line ++ after))[lineFeeds before]? = some line := by
  obtain ⟨earlier, length, -, same⟩ := pieces_of_opens place.opens (line ++ after)
  rw [String.append_assoc, same, ← length, List.getElem?_append_right (Nat.le_refl _), Nat.sub_self]
  cases chars : after.toList with
  | nil =>
    rw [String.toList_eq_nil_iff.mp chars, String.append_empty, pieces_unbroken place.unbroken]
    rfl
  | cons c rest =>
    obtain rfl : c = '\n' := place.closes c (by simp [chars])
    have ended : line ++ after = line.push '\n' ++ String.ofList rest := by
      rw [← String.toList_inj]
      simp [chars]
    rw [ended, pieces_push_append, pieces_unbroken place.unbroken]
    rfl

theorem ended_take_pieces (opens : Opens before) (rest : String) :
    ended ((pieces (before ++ rest)).take (lineFeeds before)) = before := by
  obtain ⟨earlier, length, whole, same⟩ := pieces_of_opens opens rest
  rw [same, ← length, List.take_left, whole]

theorem exists_opens_of_le (text : String) (within : n ≤ lineFeeds text) :
    ∃ before rest, text = before ++ rest ∧ lineFeeds before = n ∧ Opens before := by
  induction text using String.push_induction with
  | empty =>
    obtain rfl : n = 0 := by simpa [lineFeeds_eq] using within
    exact ⟨"", "", rfl, by simp [lineFeeds_eq], opens_empty⟩
  | push text c ih =>
    by_cases earlier : n ≤ lineFeeds text
    · obtain ⟨before, rest, rfl, count, opens⟩ := ih earlier
      exact ⟨before, rest.push c, (append_push before rest c).symm, count, opens⟩
    · -- Only a line feed at the end of the text makes it one line feed more.
      rw [lineFeeds_push] at within
      split at within
      case isTrue feed =>
        refine ⟨text.push c, "", by simp, ?_, opens_push.mpr feed⟩
        rw [lineFeeds_push, if_pos feed]
        omega
      case isFalse => omega

/-- There is a line behind every number of line feeds that the text has. -/
theorem exists_isLine_of_le (text : String) (within : n ≤ lineFeeds text) :
    ∃ before line after, text = before ++ line ++ after ∧ lineFeeds before = n ∧
      IsLine before line after := by
  obtain ⟨before, rest, rfl, count, opens⟩ := exists_opens_of_le text within
  obtain ⟨line, after, rfl, unbroken, closes⟩ := exists_closes rest
  exact ⟨before, line, after, String.append_assoc.symm, count, opens, unbroken, closes⟩

/-- `line` is `piece` without the carriage returns at its end. -/
structure Trims (piece line : String) : Prop where
  returns : ∃ n, piece = line ++ String.ofList (List.replicate n '\r')
  stops : line.toList.getLast? ≠ some '\r'

end Text

namespace SourceMap
open Text

theorem dropCarriageReturns_trims (piece : String) : Trims piece (dropCarriageReturns piece) where
  returns := by
    have dropped : piece.toList.rtakeWhile (· == '\r') =
        List.replicate (piece.toList.rtakeWhile (· == '\r')).length '\r' := by
      rw [List.eq_replicate_iff]
      exact ⟨rfl, fun c member => by simpa using List.mem_rtakeWhile_imp member⟩
    refine ⟨(piece.toList.rtakeWhile (· == '\r')).length, ?_⟩
    rw [← dropped, ← String.toList_inj, String.toList_append, String.toList_ofList,
      toList_dropCarriageReturns, List.rdropWhile_append_rtakeWhile]
  stops := by
    intro last
    rw [toList_dropCarriageReturns] at last
    have some : piece.toList.rdropWhile (· == '\r') ≠ [] := by
      intro none
      simp [none] at last
    have kept := List.rdropWhile_last_not _ _ some
    rw [List.getLast?_eq_some_getLast some, Option.some.injEq] at last
    simp [last] at kept

/-- What a source map of `text` tells, whatever it is asked for. -/
structure Tells (m : SourceMap) (text : String) : Prop where
  lineCount : m.lineCount = 1 + text.toList.count '\n'
  /-- Each entry of the table is where a piece starts, and the cut behind it gives that piece. -/
  cut : ∀ n first, m.lineStarts[n]? = some first → ∃ piece, (pieces text)[n]? = some piece ∧
    Text.slice? text first (m.lineEnd n) = some piece
  /-- The next entry leaves room for the line feed before it. -/
  ascending : ∀ n first next, m.lineStarts[n]? = some first → m.lineStarts[n + 1]? = some next →
    first < next
  line_iff : ∀ n, (∃ line, m.line? n = some line) ↔ 1 ≤ n ∧ n ≤ m.lineCount
  line_trims : ∀ n line, m.line? n = some line →
    ∃ piece, (pieces text)[n - 1]? = some piece ∧ Trims piece line
  annotate_inside : ∀ (s : Span) message, 1 ≤ s.first.line → s.first.line ≤ m.lineCount →
    ∃ line, m.line? s.first.line = some line ∧
      m.annotate s message = printed (heading message s.first ++
        context s.first line (lead line (s.first.column - 1))
          (if s.first.line = s.last.line then max 1 (s.last.column - s.first.column) else 1))
  annotate_outside : ∀ (s : Span) message, m.annotate s message = printed (heading message s.first) ↔
    ¬ (1 ≤ s.first.line ∧ s.first.line ≤ m.lineCount)

variable {text : String} {n first : Nat}

/-- A line of the text is behind every entry of the table. -/
theorem exists_isLine_of_entry (entry : (ofText text).lineStarts[n]? = some first) :
    ∃ before line after, text = before ++ line ++ after ∧ lineFeeds before = n ∧
      first = before.utf8ByteSize ∧ IsLine before line after := by
  have inside : n < (ofText text).lineCount := (Array.getElem?_eq_some_iff.mp entry).1
  rw [lineCount_eq] at inside
  obtain ⟨before, line, after, rfl, rfl, place⟩ :=
    exists_isLine_of_le text (Nat.le_of_lt_succ inside)
  have start := lineStarts_getElem?_of_opens place.opens (line ++ after)
  rw [← String.append_assoc, entry] at start
  exact ⟨before, line, after, rfl, rfl, Option.some.inj start, place⟩

theorem line?_eq (text : String) (n : Nat) :
    (ofText text).line? (n + 1) = (pieces text)[n]?.map dropCarriageReturns := by
  by_cases within : n ≤ lineFeeds text
  · obtain ⟨before, line, after, rfl, rfl, place⟩ := exists_isLine_of_le text within
    rw [line?_of_isLine place, pieces_getElem?_of_isLine place, Option.map_some]
  · have beyond : (ofText text).lineCount ≤ n := by
      rw [lineCount_eq]
      omega
    rw [line?_succ, Array.getElem?_eq_none beyond, List.getElem?_eq_none, Option.map_none,
      Option.bind_none]
    rwa [length_pieces, ← lineCount_eq]

theorem exists_line?_iff (text : String) (n : Nat) :
    (∃ line, (ofText text).line? n = some line) ↔ 1 ≤ n ∧ n ≤ (ofText text).lineCount := by
  rw [← Option.isSome_iff_exists]
  cases n with
  | zero =>
    have none : (ofText text).line? 0 = none := rfl
    simp [none]
  | succ n =>
    rw [line?_eq, Option.isSome_map, isSome_getElem?, length_pieces, ← lineCount_eq]
    omega

/-- A message is printed alone just when its place has no line. -/
theorem annotate_eq_heading_iff {m : SourceMap} {s : Span} (message : String) :
    m.annotate s message = printed (heading message s.first) ↔ m.line? s.first.line = none := by
  constructor
  · intro alone
    by_contra some
    obtain ⟨line, found⟩ := Option.ne_none_iff_exists'.mp some
    rw [annotate_of_line found] at alone
    have longer := congrArg String.length alone
    simp [printed, context] at longer
  · intro missing
    exact annotate_of_no_line missing message

/-- The line table is right for every text. Whatever line or span it is asked for, it makes no
cut that fails. -/
theorem ofText_tells (text : String) : Tells (ofText text) text where
  lineCount := by rw [lineCount_eq, lineFeeds_eq, Nat.add_comm]
  cut n first entry := by
    obtain ⟨before, line, after, rfl, rfl, rfl, place⟩ := exists_isLine_of_entry entry
    exact ⟨line, pieces_getElem?_of_isLine place, slice?_of_isLine place⟩
  ascending n first next entry nextEntry := by
    obtain ⟨before, line, after, rfl, rfl, rfl, place⟩ := exists_isLine_of_entry entry
    rw [lineStarts_getElem?_of_isLine place] at nextEntry
    split at nextEntry
    · contradiction
    · obtain rfl := Option.some.inj nextEntry
      omega
  line_iff := exists_line?_iff text
  line_trims n line found := by
    obtain ⟨n, rfl⟩ := Nat.exists_eq_add_one.mpr ((exists_line?_iff text n).mp ⟨line, found⟩).1
    rw [line?_eq] at found
    obtain ⟨piece, listed, rfl⟩ := Option.map_eq_some_iff.mp found
    exact ⟨piece, listed, dropCarriageReturns_trims piece⟩
  annotate_inside s message low high := by
    obtain ⟨line, found⟩ := (exists_line?_iff text s.first.line).mpr ⟨low, high⟩
    exact ⟨line, found, annotate_of_line found message⟩
  annotate_outside s message := by
    rw [annotate_eq_heading_iff, ← exists_line?_iff, ← Option.isSome_iff_exists,
      Option.not_isSome_iff_eq_none]

end SourceMap
end ScriptScan
