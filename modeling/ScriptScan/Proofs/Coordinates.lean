import ScriptScan.Proofs.LineTable

/-! Line and column against the byte offset. A place in a text is found again from its line and
column alone, in the lines of the text and in the line table, and of two places in one text the
earlier is the lesser in either measure. -/
namespace ScriptScan

namespace Position
open Text

/-- `p` is the place behind `before` in `text`, as far as each of its counts tells. -/
structure Locates (p : Position) (before text : String) : Prop where
  offset : p.offset = before.utf8ByteSize
  line : p.line = 1 + before.toList.count '\n'
  column : p.column = 1 + (before.toList.rtakeWhile (· ≠ '\n')).length
  line_le : p.line ≤ (SourceMap.ofText text).lineCount
  /-- Line and column give the text before the place, and so its offset. -/
  inverse : ∃ next, (pieces text)[p.line - 1]? = some next ∧
    before = ended ((pieces text).take (p.line - 1)) ++
      String.ofList (next.toList.take (p.column - 1)) ∧
    (ended ((pieces text).take (p.line - 1))).utf8ByteSize +
      (String.ofList (next.toList.take (p.column - 1))).utf8ByteSize = p.offset
  entry : (SourceMap.ofText text).lineStarts[p.line - 1]? =
    some (ended ((pieces text).take (p.line - 1))).utf8ByteSize

/-- `p` is earlier than `q` by its offset, and by its line and column too. -/
structure Precedes (p q : Position) : Prop where
  offset : p.offset < q.offset
  coordinates : p.line < q.line ∨ p.line = q.line ∧ p.column < q.column

variable {p q : Position} {before text : String}

theorem advanceAll_column (text : String) :
    (start.advanceAll text).column = 1 + (text.toList.rtakeWhile (· ≠ '\n')).length := by
  induction text using String.push_induction with
  | empty => simp [advanceAll_eq, start]
  | push text c ih =>
    rw [advanceAll_push, String.toList_push, List.rtakeWhile_concat]
    by_cases feed : c = '\n'
    · simp [advance, feed]
    · simp [advance, feed, ih, Nat.add_assoc]

theorem advanceAll_locates (before rest : String) :
    (start.advanceAll before).Locates before (before ++ rest) := by
  have line : (start.advanceAll before).line = 1 + lineFeeds before := advanceAll_line start before
  have column := advanceAll_column before
  have offset := advanceAll_offset start before
  -- The line of the place is what is behind the last line feed before it, up to the next one.
  obtain ⟨earlier, lead, rfl, opens, unbroken⟩ := exists_opens before
  obtain ⟨tail, later, rfl, unbroken', closes⟩ := exists_closes rest
  have place : IsLine earlier (lead ++ tail) later := ⟨opens, by simp [unbroken, unbroken'], closes⟩
  have whole : earlier ++ lead ++ (tail ++ later) = earlier ++ (lead ++ tail) ++ later := by
    simp only [String.append_assoc]
  obtain ⟨number, width⟩ := advanceAll_in_line opens unbroken
  have taken : ended ((pieces (earlier ++ lead ++ (tail ++ later))).take (lineFeeds earlier)) =
      earlier := by
    rw [String.append_assoc]
    exact ended_take_pieces opens _
  have front : String.ofList ((lead ++ tail).toList.take lead.length) = lead := by
    rw [String.toList_append, ← String.length_toList, List.take_left, String.ofList_toList]
  constructor
  case offset => exact offset.trans (Nat.zero_add _)
  case line => rw [line, lineFeeds_eq]
  case column => exact column
  case line_le =>
    rw [line, SourceMap.lineCount_eq]
    simp only [lineFeeds_eq, String.toList_append, List.count_append]
    omega
  case inverse =>
    rw [number, width, Nat.add_sub_cancel, Nat.add_sub_cancel, taken]
    refine ⟨lead ++ tail, ?_, ?_, ?_⟩
    · rw [whole]
      exact pieces_getElem?_of_isLine place
    · rw [front]
    · rw [front, offset, String.utf8ByteSize_append]
      exact (Nat.zero_add _).symm
  case entry =>
    rw [number, Nat.add_sub_cancel, taken, String.append_assoc]
    exact SourceMap.lineStarts_getElem?_of_opens opens _

/-- Going on from a place leads behind it. A line feed on the way counts for more than all
columns. -/
theorem precedes_advanceAll (p : Position) (more : text ≠ "") : p.Precedes (p.advanceAll text) := by
  constructor
  case offset =>
    have size : text.utf8ByteSize ≠ 0 := mt String.utf8ByteSize_eq_zero_iff.mp more
    rw [advanceAll_offset]
    omega
  case coordinates =>
    by_cases broken : '\n' ∈ text.toList
    · left
      have feeds := List.count_pos_iff.mpr broken
      rw [advanceAll_line, lineFeeds_eq]
      omega
    · right
      have length : text.length ≠ 0 := mt String.length_eq_zero_iff.mp more
      rw [advanceAll_line, lineFeeds_eq, List.count_eq_zero_of_not_mem broken,
        advanceAll_column_of_unbroken p broken]
      omega

/-- The order of places is that of their offsets, and that of their lines and columns. -/
structure Agrees (p q : Position) : Prop where
  offset : p.compare q = Ord.compare p.offset q.offset
  coordinates : p.compare q = (Ord.compare p.line q.line).then (Ord.compare p.column q.column)

theorem Agrees.refl (p : Position) : p.Agrees p := by
  constructor <;> simp [compare]

theorem Precedes.agrees (precedes : p.Precedes q) : p.Agrees q ∧ q.Agrees p := by
  have less := Nat.compare_eq_lt.mpr precedes.offset
  have greater := Nat.compare_eq_gt.mpr precedes.offset
  rcases precedes.coordinates with lines | ⟨line, columns⟩
  · have less' := Nat.compare_eq_lt.mpr lines
    have greater' := Nat.compare_eq_gt.mpr lines
    constructor <;> constructor <;> simp [compare, less, greater, less', greater']
  · have less' := Nat.compare_eq_lt.mpr columns
    have greater' := Nat.compare_eq_gt.mpr columns
    constructor <;> constructor <;> simp [compare, less, greater, less', greater', line]

theorem Precedes.coordinates_ne (precedes : p.Precedes q) :
    (p.line, p.column) ≠ (q.line, q.column) := by
  intro same
  obtain ⟨line, column⟩ := Prod.mk.inj same
  rcases precedes.coordinates with lines | ⟨_, columns⟩
  · exact lines.ne line
  · exact columns.ne column

end Position

namespace Text

/-- Of two texts that a text starts with, one goes on from the other. -/
theorem prefix_cases {p q : String} (first : text = p ++ rest) (second : text = q ++ rest') :
    (∃ more, q = p ++ more) ∨ ∃ more, p = q ++ more := by
  have same : p.toList ++ rest.toList = q.toList ++ rest'.toList := by
    rw [← String.toList_append, ← String.toList_append, ← first, second]
  rcases List.append_eq_append_iff.mp same with ⟨more, longer, _⟩ | ⟨more, longer, _⟩
  · refine .inl ⟨String.ofList more, ?_⟩
    rw [← String.toList_inj, longer, String.toList_append, String.toList_ofList]
  · refine .inr ⟨String.ofList more, ?_⟩
    rw [← String.toList_inj, longer, String.toList_append, String.toList_ofList]

end Text

namespace Position
open Text

theorem exists_precedes {p q : String} (first : text = p ++ rest) (second : text = q ++ rest')
    (apart : p ≠ q) : (start.advanceAll p).Precedes (start.advanceAll q) ∨
      (start.advanceAll q).Precedes (start.advanceAll p) := by
  rcases prefix_cases first second with ⟨more, rfl⟩ | ⟨more, rfl⟩
  · left
    rw [advanceAll_append]
    apply precedes_advanceAll
    rintro rfl
    exact apart String.append_empty.symm
  · right
    rw [advanceAll_append]
    apply precedes_advanceAll
    rintro rfl
    exact apart String.append_empty

/-- Two places in one text are in the order of their offsets, and in that of their lines and
columns, and they differ in these. Each is found again from its line and column. -/
theorem coordinates_agree {p q : String} (first : text = p ++ rest) (second : text = q ++ rest')
    (base : Position) (front back : String) :
    (start.advanceAll p).Locates p text ∧
      (start.advanceAll p).Agrees (start.advanceAll q) ∧
      (p ≠ q → ((start.advanceAll p).line, (start.advanceAll p).column) ≠
        ((start.advanceAll q).line, (start.advanceAll q).column)) ∧
      base.advanceAll (front ++ back) = (base.advanceAll front).advanceAll back := by
  have located : (start.advanceAll p).Locates p text := first ▸ advanceAll_locates p rest
  have ordered := exists_precedes first second
  refine ⟨located, ?_, ?_, advanceAll_append base front back⟩
  · by_cases same : p = q
    · exact same ▸ .refl _
    · rcases ordered same with earlier | later
      · exact earlier.agrees.1
      · exact later.agrees.2
  · intro apart
    rcases ordered apart with earlier | later
    · exact earlier.coordinates_ne
    · exact later.coordinates_ne.symm

/-- Two places behind a character of two bytes, with a line feed and a tab between them. -/
theorem coordinates_agree_behind_tab :
    let text := "é\n\tb"
    text = "é" ++ "\n\tb" ∧ text = "é\n\t" ++ "b" ∧
      (start.advanceAll "é").Locates "é" text ∧
      (start.advanceAll "é").Agrees (start.advanceAll "é\n\t") ∧
      ("é" ≠ "é\n\t" → ((start.advanceAll "é").line, (start.advanceAll "é").column) ≠
        ((start.advanceAll "é\n\t").line, (start.advanceAll "é\n\t").column)) ∧
      start.advanceAll ("é" ++ "\n\t") = (start.advanceAll "é").advanceAll "\n\t" := by
  intro text
  have first : text = "é" ++ "\n\tb" := by decide
  have second : text = "é\n\t" ++ "b" := by decide
  exact ⟨first, second, coordinates_agree first second start "é" "\n\t"⟩

end Position
end ScriptScan
