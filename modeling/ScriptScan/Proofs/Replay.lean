import Mathlib.Data.List.DropRight
import ScriptScan.Source.Cursor

/-! A cursor through any sequence of calls. It never leaves its text, it answers with what stands
at its place, and a reset brings back the cursor of the latest mark: what is asked behind a reset
is answered as it was behind the mark. With machine words for its places it does the same, since no
sum and no difference that it forms is out of their range. -/
namespace ScriptScan

namespace Cursor

inductive Call
  | read
  | peek
  | skip (n : UInt64)
  | mark
  | reset
deriving DecidableEq, Repr

inductive Reply
  | done
  | character (c : Option Char)
  | skipped (n : Nat)
deriving DecidableEq, Repr

def call (c : Cursor) : Call → Reply × Cursor
  | .read => (.character c.read.1, c.read.2)
  | .peek => (.character c.peek?, c)
  | .skip n => (.skipped (c.skip n.toNat).1, (c.skip n.toNat).2)
  | .mark => (.done, c.mark)
  | .reset => (.done, c.reset)

def after (c : Cursor) (calls : List Call) : Cursor := calls.foldl (fun c q => (c.call q).2) c

def replies (c : Cursor) : List Call → List Reply
  | [] => []
  | q :: calls => (c.call q).1 :: (c.call q).2.replies calls

/-- The calls up to the latest mark, or none of them if no mark was set. -/
def toMark (calls : List Call) : List Call := calls.rdropWhile (· ≠ .mark)

/-- A cursor over `text` stands in it, and answers from where it stands. -/
structure Sound (c : Cursor) (text : String) : Prop where
  length : c.length = text.length
  position_le : c.position ≤ text.length
  marked_le : c.marked ≤ text.length
  peek : c.peek? = text.toList[c.position]?
  read : c.read.1 = text.toList[c.position]?
  read_none_iff : c.read.1 = none ↔ c.position = text.length
  read_moves : c.position < text.length → c.read.2.position = c.position + 1
  read_stays : c.position = text.length → c.read.2 = c
  skip : ∀ n, (c.skip n).1 = min n (text.length - c.position)
  skip_moves : ∀ n, (c.skip n).2.position = c.position + (c.skip n).1

variable {c : Cursor} {text : String}

theorem read_of_lt (more : c.position < c.chars.size) :
    c.read = (some c.chars[c.position], { c with position := c.position + 1, position_le := more }) :=
  dif_pos more

theorem read_of_le (ended : c.chars.size ≤ c.position) : c.read = (none, c) :=
  dif_neg (Nat.not_lt.mpr ended)

theorem call_chars (c : Cursor) (q : Call) : (c.call q).2.chars = c.chars := by
  cases q with
  | peek | skip | mark | reset => rfl
  | read =>
    rw [call, read]
    split <;> rfl

theorem after_chars (c : Cursor) (calls : List Call) : (c.after calls).chars = c.chars := by
  induction calls generalizing c with
  | nil => rfl
  | cons q calls ih => exact (ih (c.call q).2).trans (c.call_chars q)

theorem after_concat (c : Cursor) (calls : List Call) (q : Call) :
    c.after (calls ++ [q]) = ((c.after calls).call q).2 := List.foldl_concat ..

theorem replies_append (c : Cursor) (first second : List Call) :
    c.replies (first ++ second) = c.replies first ++ (c.after first).replies second := by
  induction first generalizing c with
  | nil => rfl
  | cons q first ih =>
    rw [List.cons_append, replies, ih, replies, List.cons_append]
    rfl

theorem Sound.of_chars (same : c.chars = text.toList.toArray) : c.Sound text := by
  have size : c.chars.size = text.length := by
    rw [same, List.size_toArray, String.length_toList]
  have position := c.position_le
  have marked := c.marked_le
  have here : c.chars[c.position]? = text.toList[c.position]? := by
    rw [same, List.getElem?_toArray]
  have read : c.read.1 = c.chars[c.position]? := by
    rcases Nat.lt_or_ge c.position c.chars.size with more | ended
    · rw [read_of_lt more, Array.getElem?_eq_getElem more]
    · rw [read_of_le ended, Array.getElem?_eq_none ended]
  constructor
  case length => exact size
  case position_le => exact size ▸ position
  case marked_le => exact size ▸ marked
  case peek => exact here
  case read => exact read.trans here
  case read_none_iff =>
    rw [read, Array.getElem?_eq_none_iff]
    omega
  case read_moves =>
    intro more
    rw [read_of_lt (size ▸ more)]
  case read_stays =>
    intro ended
    rw [read_of_le (Nat.le_of_eq (size.trans ended.symm))]
  case skip =>
    intro n
    rw [← size]
    rfl
  case skip_moves => exact fun _ => rfl

/-- Only a mark changes what a reset brings back. -/
theorem call_reset (c : Cursor) (other : q ≠ .mark) : (c.call q).2.reset = c.reset := by
  cases q with
  | mark => contradiction
  | peek | skip | reset => rfl
  | read =>
    rw [call, read]
    split <;> rfl

theorem after_reset (fresh : c.reset = c) (calls : List Call) :
    (c.after calls).reset = c.after (toMark calls) := by
  induction calls using List.reverseRecOn with
  | nil => exact fresh
  | append_singleton calls q ih =>
    rw [after_concat, toMark, List.rdropWhile_concat]
    by_cases marks : q = .mark
    · subst marks
      rw [if_neg (by decide), after_concat]
      rfl
    · rw [if_pos (by simpa using marks), call_reset _ marks]
      exact ih

end Cursor

/-- A cursor whose places are machine words. -/
structure WordCursor where
  chars : Array Char
  position : UInt64
  marked : UInt64

namespace WordCursor
open Cursor (Call Reply)

/-- The sum of two words, if it is in their range. -/
def sum? (a b : UInt64) : Option UInt64 :=
  if a.toNat + b.toNat < UInt64.size then some (a + b) else none

/-- The difference of two words, if it is in their range. -/
def difference? (a b : UInt64) : Option UInt64 := if b ≤ a then some (a - b) else none

def least (a b : UInt64) : UInt64 := if a ≤ b then a else b

def ofText (text : String) : WordCursor where
  chars := text.toList.toArray
  position := 0
  marked := 0

def size (w : WordCursor) : UInt64 := .ofNat w.chars.size

def read? (w : WordCursor) : Option (Option Char × WordCursor) :=
  match w.chars[w.position.toNat]? with
  | some c => do
    let position ← sum? w.position 1
    return (some c, { w with position })
  | none => return (none, w)

def skip? (w : WordCursor) (n : UInt64) : Option (UInt64 × WordCursor) := do
  let left ← difference? w.size w.position
  let position ← sum? w.position (least n left)
  return (least n left, { w with position })

/-- A call fails where a sum or a difference is out of range. -/
def call? (w : WordCursor) : Call → Option (Reply × WordCursor)
  | .read => w.read?.map fun (c, w) => (.character c, w)
  | .peek => some (.character w.chars[w.position.toNat]?, w)
  | .skip n => (w.skip? n).map fun (n, w) => (.skipped n.toNat, w)
  | .mark => some (.done, { w with marked := w.position })
  | .reset => some (.done, { w with position := least w.marked w.size })

def serve? (w : WordCursor) : List Call → Option (List Reply × WordCursor)
  | [] => some ([], w)
  | q :: calls => do
    let (reply, w) ← w.call? q
    let (replies, w) ← w.serve? calls
    return (reply :: replies, w)

/-- The words are those of the places of `c`. -/
structure Keeps (w : WordCursor) (c : Cursor) : Prop where
  chars : w.chars = c.chars
  position : w.position.toNat = c.position
  marked : w.marked.toNat = c.marked

variable {w : WordCursor} {c : Cursor} {a b : UInt64}

theorem sum?_of_lt (within : a.toNat + b.toNat < UInt64.size) :
    ∃ s, sum? a b = some s ∧ s.toNat = a.toNat + b.toNat := by
  refine ⟨a + b, if_pos within, ?_⟩
  rw [UInt64.toNat_add]
  exact Nat.mod_eq_of_lt within

theorem difference?_of_le (within : b.toNat ≤ a.toNat) :
    ∃ d, difference? a b = some d ∧ d.toNat = a.toNat - b.toNat := by
  have ordered : b ≤ a := UInt64.le_iff_toNat_le.mpr within
  exact ⟨a - b, if_pos ordered, UInt64.toNat_sub_of_le a b ordered⟩

theorem least_toNat (a b : UInt64) : (least a b).toNat = min a.toNat b.toNat := by
  rw [least]
  split
  case isTrue le => exact (Nat.min_eq_left (UInt64.le_iff_toNat_le.mp le)).symm
  case isFalse gt =>
    rw [UInt64.le_iff_toNat_le] at gt
    omega

theorem Keeps.size (keeps : w.Keeps c) (fits : c.chars.size < UInt64.size) :
    w.size.toNat = c.chars.size := by
  rw [WordCursor.size, keeps.chars, UInt64.toNat_ofNat_of_lt' fits]

theorem Keeps.read? (keeps : w.Keeps c) (fits : c.chars.size < UInt64.size) :
    ∃ w', w.read? = some (c.read.1, w') ∧ w'.Keeps c.read.2 := by
  rcases Nat.lt_or_ge c.position c.chars.size with more | ended
  · have next : w.position.toNat + (1 : UInt64).toNat < UInt64.size := by
      rw [keeps.position, UInt64.toNat_one]
      omega
    obtain ⟨position, sum, place⟩ := sum?_of_lt next
    have found : w.chars[w.position.toNat]? = some c.chars[c.position] := by
      rw [keeps.chars, keeps.position, Array.getElem?_eq_getElem more]
    refine ⟨{ w with position }, ?_, ?_⟩
    · simp [WordCursor.read?, found, sum, Cursor.read_of_lt more]
    · rw [Cursor.read_of_lt more]
      exact ⟨keeps.chars, by rw [place, keeps.position, UInt64.toNat_one], keeps.marked⟩
  · have none : w.chars[w.position.toNat]? = none := by
      rw [keeps.chars, keeps.position, Array.getElem?_eq_none ended]
    rw [Cursor.read_of_le ended]
    exact ⟨w, by simp [WordCursor.read?, none], keeps⟩

/-- What is left of the text is a word, and a place that goes on by no more is one too. -/
theorem Keeps.skip? (keeps : w.Keeps c) (fits : c.chars.size < UInt64.size) (n : UInt64) :
    ∃ moved w', w.skip? n = some (moved, w') ∧ moved.toNat = (c.skip n.toNat).1 ∧
      w'.Keeps (c.skip n.toNat).2 := by
  have within := c.position_le
  have size := keeps.size fits
  have place := keeps.position
  obtain ⟨left, difference, rest⟩ := difference?_of_le (a := w.size) (b := w.position) (by omega)
  have moved : (least n left).toNat = min n.toNat (c.chars.size - c.position) := by
    rw [least_toNat, rest, size, place]
  obtain ⟨position, sum, next⟩ := sum?_of_lt (a := w.position) (b := least n left) (by omega)
  refine ⟨least n left, { w with position }, ?_, moved, keeps.chars, ?_, keeps.marked⟩
  · simp [WordCursor.skip?, difference, sum]
  · rw [next, moved, place]
    rfl

theorem Keeps.call? (keeps : w.Keeps c) (fits : c.chars.size < UInt64.size) (q : Call) :
    ∃ w', w.call? q = some ((c.call q).1, w') ∧ w'.Keeps (c.call q).2 := by
  cases q with
  | read =>
    obtain ⟨w', found, keeps'⟩ := keeps.read? fits
    exact ⟨w', by rw [WordCursor.call?, found]; rfl, keeps'⟩
  | peek =>
    refine ⟨w, ?_, keeps⟩
    rw [WordCursor.call?, keeps.chars, keeps.position]
    rfl
  | skip n =>
    obtain ⟨moved, w', found, same, keeps'⟩ := keeps.skip? fits n
    refine ⟨w', ?_, keeps'⟩
    rw [WordCursor.call?, found, Cursor.call, ← same]
    rfl
  | mark => exact ⟨_, rfl, keeps.chars, keeps.position, keeps.position⟩
  | reset =>
    refine ⟨_, rfl, keeps.chars, ?_, keeps.marked⟩
    rw [least_toNat, keeps.size fits, keeps.marked]
    exact Nat.min_eq_left c.marked_le

/-- Through any calls, words are enough. -/
theorem Keeps.serve? (keeps : w.Keeps c) (fits : c.chars.size < UInt64.size) (calls : List Call) :
    ∃ w', w.serve? calls = some (c.replies calls, w') ∧ w'.Keeps (c.after calls) := by
  induction calls generalizing w c with
  | nil => exact ⟨w, rfl, keeps⟩
  | cons q calls ih =>
    obtain ⟨w₁, first, keeps₁⟩ := keeps.call? fits q
    rw [← c.call_chars q] at fits
    obtain ⟨w₂, rest, keeps₂⟩ := ih keeps₁ fits
    refine ⟨w₂, ?_, keeps₂⟩
    simp [WordCursor.serve?, first, rest, Cursor.replies]

end WordCursor

namespace Cursor

/-- Whatever a cursor over a text is asked, it stays in the text and answers from its place. A
reset makes it what it was at the latest mark, or at the start, so that it answers again what it
answered from there. If the text has no more characters than a word counts, words are enough. -/
theorem reset_replays (text : String) (calls : List Call) :
    ((ofText text).after calls).Sound text ∧
    (ofText text).after (calls ++ [.reset]) = (ofText text).after (toMark calls) ∧
    (∀ next, ∃ again,
      (ofText text).replies (calls ++ .reset :: next) =
        (ofText text).replies calls ++ .done :: again ∧
      (ofText text).replies (toMark calls ++ next) =
        (ofText text).replies (toMark calls) ++ again ∧
      (toMark calls ++ next <+: calls →
        (ofText text).replies (toMark calls) ++ again <+: (ofText text).replies calls)) ∧
    (text.length < UInt64.size → ∃ w,
      (WordCursor.ofText text).serve? calls = some ((ofText text).replies calls, w) ∧
        w.Keeps ((ofText text).after calls)) := by
  have back : ((ofText text).after calls).reset = (ofText text).after (toMark calls) :=
    after_reset rfl calls
  refine ⟨?_, ?_, ?_, ?_⟩
  · apply Sound.of_chars
    exact after_chars _ calls
  · rw [after_concat]
    exact back
  · intro next
    refine ⟨((ofText text).after (toMark calls)).replies next, ?_, replies_append .., ?_⟩
    · rw [replies_append, ← back]
      rfl
    · rintro ⟨rest, same⟩
      refine ⟨((ofText text).after (toMark calls ++ next)).replies rest, ?_⟩
      rw [← replies_append, ← replies_append, same]
  · intro fits
    have new : (WordCursor.ofText text).Keeps (ofText text) := ⟨rfl, rfl, rfl⟩
    apply new.serve?
    rwa [ofText, List.size_toArray, String.length_toList]

/-- The farthest skip ends at the end of the text. -/
theorem reset_replays_behind_skip :
    let text := "é>=b"
    let calls : List Call := [.read, .mark, .skip 0xFFFFFFFFFFFFFFFF, .read, .reset, .peek]
    text.length < UInt64.size ∧ ∃ w,
      (WordCursor.ofText text).serve? calls = some ([.character 'é', .done, .skipped 3,
        .character none, .done, .character '>'], w) ∧ w.position.toNat = 1 := by
  intro text calls
  have fits : text.length < UInt64.size := by decide
  obtain ⟨w, served, keeps⟩ := (reset_replays text calls).2.2.2 fits
  have told : (ofText text).replies calls = [.character 'é', .done, .skipped 3, .character none,
      .done, .character '>'] := by decide
  have place : ((ofText text).after calls).position = 1 := by decide
  rw [told] at served
  exact ⟨fits, w, served, keeps.position.trans place⟩

end Cursor
end ScriptScan
