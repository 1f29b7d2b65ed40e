import ScriptScan.Proofs.Delivery
import ScriptScan.Proofs.Places

/-! Texts that are cut to a number of bytes. What is kept is the longest start of the text that
has no more, in whole characters. It is also found from its end: a search that goes back from the
limit byte by byte meets the end of a character before it runs out of bytes. -/
namespace ScriptScan

namespace Text

/-- `kept` is the longest start of `text` with at most `budget` bytes. -/
structure Longest (budget : Nat) (text kept : String) : Prop where
  starts : ∃ rest, text = kept ++ rest
  fits : kept.utf8ByteSize ≤ budget
  longest : ∀ start rest, text = start ++ rest → start.utf8ByteSize ≤ budget →
    ∃ more, kept = start ++ more

/-- Whether a text may be cut at byte `i`, which is its end or the first byte of a character. -/
def isBoundary (text : String) (i : Nat) : Bool :=
  if within : i < text.utf8ByteSize then (text.getUTF8Byte ⟨i⟩ within).IsUTF8FirstByte
  else i = text.utf8ByteSize

/-- Goes back from byte `i` until the text may be cut. There is nowhere to go from byte zero. -/
def boundaryFrom? (text : String) : Nat → Option Nat
  | 0 => if isBoundary text 0 then some 0 else none
  | i + 1 => if isBoundary text (i + 1) then some (i + 1) else boundaryFrom? text i

/-- Cuts a text where the search from `budget` ends, if it ends and the text may be cut there. -/
def cut? (budget : Nat) (text : String) : Option String :=
  if text.utf8ByteSize ≤ budget then some text
  else (boundaryFrom? text budget).bind (slice? text 0)

variable {budget : Nat} {text kept : String}

theorem utf8ByteSize_ofList_cons (c : Char) (cs : List Char) :
    (String.ofList (c :: cs)).utf8ByteSize = c.utf8Size + (String.ofList cs).utf8ByteSize := by
  rw [← List.singleton_append, String.ofList_append, String.utf8ByteSize_append]
  simp

theorem takeFitting_starts (budget : Nat) (cs : List Char) : takeFitting budget cs <+: cs := by
  induction cs generalizing budget with
  | nil => exact List.prefix_refl []
  | cons c cs ih =>
    rw [takeFitting]
    split
    · exact (List.prefix_cons_inj c).mpr (ih _)
    · exact List.nil_prefix

theorem takeFitting_fits (budget : Nat) (cs : List Char) :
    (String.ofList (takeFitting budget cs)).utf8ByteSize ≤ budget := by
  induction cs generalizing budget with
  | nil => exact Nat.zero_le _
  | cons c cs ih =>
    rw [takeFitting]
    split
    · have rest := ih (budget - c.utf8Size)
      rw [utf8ByteSize_ofList_cons]
      omega
    · exact Nat.zero_le _

theorem takeFitting_longest {start cs : List Char} (starts : start <+: cs)
    (fits : (String.ofList start).utf8ByteSize ≤ budget) : start <+: takeFitting budget cs := by
  induction cs generalizing start budget with
  | nil => exact starts
  | cons c cs ih =>
    cases start with
    | nil => exact List.nil_prefix
    | cons d start =>
      obtain ⟨rfl, others⟩ := List.cons_prefix_cons.mp starts
      rw [utf8ByteSize_ofList_cons] at fits
      rw [takeFitting, if_pos (by omega)]
      exact (List.prefix_cons_inj d).mpr (ih others (by omega))

theorem clip_longest (budget : Nat) (text : String) : Longest budget text (clip budget text) := by
  rw [clip]
  split
  case isTrue fits =>
    exact ⟨⟨"", String.append_empty.symm⟩, fits, fun start rest same _ => ⟨rest, same⟩⟩
  case isFalse =>
    refine ⟨?_, takeFitting_fits budget text.toList, ?_⟩
    · obtain ⟨rest, same⟩ := takeFitting_starts budget text.toList
      exact ⟨.ofList rest, by rw [← String.ofList_append, same, String.ofList_toList]⟩
    · intro start rest same fits
      have starts : start.toList <+: text.toList :=
        ⟨rest.toList, by rw [same, String.toList_append]⟩
      rw [← String.ofList_toList (s := start)] at fits
      obtain ⟨more, kept⟩ := takeFitting_longest starts fits
      exact ⟨.ofList more, by rw [← kept, String.ofList_append, String.ofList_toList]⟩

namespace Longest

theorem size_le (longest : Longest budget text kept) {start rest : String}
    (same : text = start ++ rest) (fits : start.utf8ByteSize ≤ budget) :
    start.utf8ByteSize ≤ kept.utf8ByteSize := by
  obtain ⟨more, kept⟩ := longest.longest start rest same fits
  rw [kept, String.utf8ByteSize_append]
  exact Nat.le_add_right _ _

/-- A text that fits is kept whole. -/
theorem eq_of_le (longest : Longest budget text kept) (fits : text.utf8ByteSize ≤ budget) :
    kept = text := by
  obtain ⟨rest, same⟩ := longest.starts
  have size := longest.size_le String.append_empty.symm fits
  have sizes := congrArg String.utf8ByteSize same
  rw [String.utf8ByteSize_append] at sizes
  have nothing : rest = "" := String.utf8ByteSize_eq_zero_iff.mp (by omega)
  rw [same, nothing, String.append_empty]

/-- The character behind what is kept has at most four bytes, and there is no room for it. -/
theorem le_add_three (longest : Longest budget text kept) (beyond : budget < text.utf8ByteSize) :
    budget ≤ kept.utf8ByteSize + 3 := by
  obtain ⟨rest, same⟩ := longest.starts
  have fits := longest.fits
  cases chars : rest.toList with
  | nil =>
    rw [same, String.utf8ByteSize_append, String.toList_eq_nil_iff.mp chars] at beyond
    exact absurd beyond (Nat.not_lt.mpr fits)
  | cons c cs =>
    have next : text = kept.push c ++ .ofList cs := by
      rw [same, ← String.toList_inj]
      simp [chars]
    have size := String.utf8ByteSize_push (s := kept) (c := c)
    have long : budget < (kept.push c).utf8ByteSize := by
      refine Nat.lt_of_not_le fun within => ?_
      have bound := longest.size_le next within
      have positive := c.utf8Size_pos
      omega
    have few := c.utf8Size_le_four
    omega

end Longest

/-- A text may be cut where two parts of it meet. -/
theorem isBoundary_iff {i : Nat} :
    isBoundary text i = true ↔ ∃ front rear, text = front ++ rear ∧ front.utf8ByteSize = i := by
  have valid : isBoundary text i = true ↔ (⟨i⟩ : String.Pos.Raw).IsValid text := by
    rw [String.Pos.Raw.isValid_iff_isUTF8FirstByte, isBoundary, String.Pos.Raw.ext_iff]
    split
    case isTrue within =>
      have inside : (⟨i⟩ : String.Pos.Raw) < text.rawEndPos := within
      simp [Nat.ne_of_lt within, inside]
    case isFalse beyond =>
      have outside : ¬ (⟨i⟩ : String.Pos.Raw) < text.rawEndPos := beyond
      simp [outside]
  rw [valid, String.Pos.Raw.isValid_iff_exists_append]
  simp only [String.Pos.Raw.ext_iff, String.byteIdx_rawEndPos, eq_comm]

theorem boundaryFrom?_eq {i j : Nat} (here : isBoundary text i = true) (le : i ≤ j)
    (inside : ∀ k, i < k → k ≤ j → isBoundary text k = false) :
    boundaryFrom? text j = some i := by
  induction j with
  | zero =>
    obtain rfl := Nat.le_zero.mp le
    rw [boundaryFrom?, if_pos here]
  | succ j ih =>
    rcases Nat.lt_or_eq_of_le le with lt | rfl
    · rw [boundaryFrom?, inside (j + 1) lt (Nat.le_refl _)]
      refine ih (Nat.le_of_lt_succ lt) fun k above below => ?_
      exact inside k above (Nat.le_succ_of_le below)
    · rw [boundaryFrom?, if_pos here]

/-- Going back from the limit, the search ends where the longest start ends. -/
theorem Longest.boundaryFrom? (longest : Longest budget text kept) :
    Text.boundaryFrom? text budget = some kept.utf8ByteSize := by
  obtain ⟨rest, same⟩ := longest.starts
  refine boundaryFrom?_eq (isBoundary_iff.mpr ⟨kept, rest, same, rfl⟩) longest.fits ?_
  intro k above below
  rw [Bool.eq_false_iff]
  intro boundary
  obtain ⟨front, rear, parts, rfl⟩ := isBoundary_iff.mp boundary
  exact absurd (longest.size_le parts below) (Nat.not_le.mpr above)

theorem cut?_eq (budget : Nat) (text : String) : cut? budget text = some (clip budget text) := by
  have longest := clip_longest budget text
  rw [cut?]
  split
  case isTrue fits => rw [longest.eq_of_le fits]
  case isFalse =>
    obtain ⟨rest, same⟩ := longest.starts
    have slice := slice?_middle "" (clip budget text) rest
    rw [String.empty_append, ← same] at slice
    rw [longest.boundaryFrom?, Option.bind_some]
    simpa using slice

/-- What is kept of a text. A search from the end finds it as well, and there is nothing left to
cut. -/
structure Clipped (budget : Nat) (text kept : String) : Prop where
  longest : Longest budget text kept
  whole : text.utf8ByteSize ≤ budget → kept = text
  close : budget < text.utf8ByteSize → budget ≤ kept.utf8ByteSize + 3
  found : cut? budget text = some kept
  again : clip budget kept = kept ∧ cut? budget kept = some kept

theorem clip_clipped (budget : Nat) (text : String) : Clipped budget text (clip budget text) := by
  have longest := clip_longest budget text
  refine ⟨longest, longest.eq_of_le, longest.le_add_three, cut?_eq budget text, ?_⟩
  exact ⟨if_pos longest.fits, if_pos longest.fits⟩

end Text

/-- Whatever is logged, its event has the longest start of the message that the limit allows. The
same holds for the limit of any build. -/
theorem messages_clipped :
    (∀ budget text, Text.Clipped budget text (Text.clip budget text)) ∧
      ∀ r : LogRequest,
        Text.Clipped Limits.active.maxMessageLength r.message r.event.message := by
  refine ⟨Text.clip_clipped, fun r => ?_⟩
  rw [r.event_eq]
  exact Text.clip_clipped _ _

end ScriptScan
