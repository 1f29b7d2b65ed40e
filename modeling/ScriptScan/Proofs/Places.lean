import ScriptScan.Source.Span

/-! Places in a text. A place that is reached by going over the characters before it
lies at their length in bytes, and a slice between two such places is the text
between them. -/
namespace ScriptScan

namespace Text

theorem fromUTF8?_toUTF8 (text : String) : String.fromUTF8? text.toUTF8 = some text :=
  dif_pos text.isValidUTF8

/-- Behind every start of a text there is a place to cut. -/
theorem pos?_of_append {text : String} (same : text = before ++ after) :
    ∃ p, text.pos? ⟨before.utf8ByteSize⟩ = some p ∧ p.offset = ⟨before.utf8ByteSize⟩ := by
  have valid : (⟨before.utf8ByteSize⟩ : String.Pos.Raw).IsValid text :=
    String.Pos.Raw.isValid_iff_exists_append.mpr ⟨before, after, same, rfl⟩
  have within := String.Pos.Raw.isValidForSlice_toSlice_iff.mpr valid
  refine ⟨text.pos _ valid, ?_, String.offset_pos⟩
  simp [String.pos?, String.Slice.pos?, String.pos, within]

theorem slice?_middle (before middle after : String) :
    slice? (before ++ middle ++ after) before.utf8ByteSize
      (before.utf8ByteSize + middle.utf8ByteSize) = some middle := by
  obtain ⟨first, firstAt, firstOffset⟩ :=
    pos?_of_append (String.append_assoc : before ++ middle ++ after = _)
  obtain ⟨last, lastAt, lastOffset⟩ := pos?_of_append (rfl : before ++ middle ++ after = _)
  rw [String.utf8ByteSize_append] at lastAt lastOffset
  have ordered : first ≤ last := by
    rw [String.Pos.le_iff, firstOffset, lastOffset, String.Pos.Raw.le_iff]
    exact Nat.le_add_right _ _
  have start : (before.toByteArray ++ middle.toByteArray).extract before.utf8ByteSize
      (before.utf8ByteSize + middle.utf8ByteSize) = middle.toByteArray :=
    ByteArray.extract_append_eq_right rfl rfl
  have covered : (before ++ middle ++ after).extract first last = middle := by
    rw [← String.toByteArray_inj, String.toByteArray_extract, firstOffset, lastOffset,
      String.toByteArray_append, String.toByteArray_append, ByteArray.extract_append, start]
    simp
  simp [slice?, firstAt, lastAt, ordered, covered]

end Text

namespace Position

theorem advanceAll_eq (p : Position) (text : String) :
    p.advanceAll text = text.toList.foldl advance p :=
  String.foldl_eq_foldl_toList

theorem advanceAll_push (p : Position) (text : String) (c : Char) :
    p.advanceAll (text.push c) = (p.advanceAll text).advance c := by
  simp [advanceAll_eq]

theorem advance_offset (p : Position) (c : Char) :
    (p.advance c).offset = p.offset + c.utf8Size := by
  unfold advance
  split <;> rfl

/-- Offsets count bytes. -/
theorem advanceAll_offset (p : Position) (text : String) :
    (p.advanceAll text).offset = p.offset + text.utf8ByteSize := by
  induction text using String.push_induction with
  | empty => simp [advanceAll_eq]
  | push text c ih => rw [advanceAll_push, advance_offset, ih, String.utf8ByteSize_push, Nat.add_assoc]

end Position

end ScriptScan
