import ScriptScan.Proofs.JsonReading

/-! Values on one line. Whatever characters their texts have, all that would break the line is
escaped. -/
namespace ScriptScan.Json

/-- No character is a control character below the blank, so that none is a line feed. -/
def isPrinted (cs : List Char) : Bool := cs.all fun c => 0x20 ≤ c.toNat

variable {cs ds : List Char} {c : Char} {n : Nat} {entries : List (String × Json)}

theorem isPrinted_append : isPrinted (cs ++ ds) = (isPrinted cs && isPrinted ds) := List.all_append

theorem isPrinted_cons : isPrinted (c :: cs) = (decide (0x20 ≤ c.toNat) && isPrinted cs) := rfl

theorem isPrinted_toDigits (n : Nat) : isPrinted (Nat.toDigits 10 n) = true := by
  rw [isPrinted, List.all_eq_true]
  intro c member
  have digit := Text.isDigit_of_mem_toDigits member
  simp only [Char.isDigit, ge_iff_le, Bool.and_eq_true, decide_eq_true_eq,
    UInt32.le_iff_toNat_le] at digit
  exact decide_eq_true (Nat.le_trans (by decide) digit.1)

theorem isPrinted_hexPadded (width n : Nat) : isPrinted (Text.hexPadded width n).toList = true := by
  have digit : ∀ d < 16, isPrinted [Text.hexDigit d] = true := by decide
  induction width generalizing n with
  | zero => rfl
  | succ width ih =>
    have last := digit (n % 16) (Nat.mod_lt n (by decide))
    rw [Text.hexPadded, String.toList_push, isPrinted_append, ih, last]
    rfl

theorem isPrinted_escape (c : Char) : isPrinted (escape c) = true := by
  unfold escape putChar
  iterate 7
    split
    · rfl
  split
  case isTrue =>
    rw [String.toList_append, isPrinted_append, isPrinted_hexPadded]
    rfl
  case isFalse visible =>
    simpa [isPrinted] using visible

theorem isPrinted_quote (text : String) : isPrinted (quote text) = true := by
  have chars : (text.toList.flatMap escape).all (fun c => 0x20 ≤ c.toNat) = true := by
    rw [List.all_flatMap, List.all_eq_true]
    exact fun c _ => isPrinted_escape c
  rw [quote, isPrinted_append, isPrinted_cons, isPrinted, chars]
  rfl

theorem isPrinted_layItems {xs : List Json} (items : ∀ x ∈ xs, isPrinted (lay .dense n x) = true) :
    isPrinted (layItems .dense n xs) = true := by
  induction xs with
  | nil => rfl
  | cons x xs ih =>
    obtain ⟨first, others⟩ := List.forall_mem_cons.mp items
    rw [layItems, isPrinted_cons, isPrinted_append, isPrinted_append, first, ih others]
    rfl

theorem isPrinted_layEntries (values : ∀ e ∈ entries, isPrinted (lay .dense n e.2) = true) :
    isPrinted (layEntries .dense n entries) = true := by
  induction entries with
  | nil => rfl
  | cons e entries ih =>
    obtain ⟨first, others⟩ := List.forall_mem_cons.mp values
    simp only [layEntries, isPrinted_cons, isPrinted_append, isPrinted_quote, first, ih others]
    rfl

theorem isPrinted_lay (n : Nat) (j : Json) : isPrinted (lay .dense n j) = true := by
  induction j using induction generalizing n with
  | null | foreign => rfl
  | bool b => cases b <;> rfl
  | nat m => exact isPrinted_toDigits m
  | text s => exact isPrinted_quote s
  | list xs ih =>
    cases xs with
    | nil => rfl
    | cons x xs =>
      obtain ⟨first, others⟩ := List.forall_mem_cons.mp ih
      simp only [lay, isPrinted_cons, isPrinted_append, first,
        isPrinted_layItems fun x member => others x member _]
      rfl
  | object es ih =>
    cases es with
    | nil => rfl
    | cons e es =>
      obtain ⟨first, others⟩ := List.forall_mem_cons.mp ih
      simp only [lay, isPrinted_cons, isPrinted_append, isPrinted_quote, first,
        isPrinted_layEntries fun e member => others e member _]
      rfl

/-- On one line, a value is all printed, whatever characters its texts have. -/
theorem isPrinted_compact (j : Json) : isPrinted j.compact.toList = true := by
  rw [toList_compact]
  exact isPrinted_lay 0 j

end ScriptScan.Json
