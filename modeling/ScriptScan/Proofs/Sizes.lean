import Mathlib.Algebra.Order.Ring.Unbundled.Rat
import Mathlib.Tactic.FieldSimp
import Mathlib.Tactic.Linarith
import Mathlib.Tactic.NormNum
import Mathlib.Tactic.Positivity
import ScriptScan.File.Size
import ScriptScan.Proofs.JsonReading

/-! Sizes as they are shown. The unit is chosen for the size as it is, and what is shown is then
rounded, so that just below the next unit rounding can reach 1024 of the unit before. Everywhere
else the number that is shown is in the range of its unit, and nowhere is it more than half a
hundredth off. -/
namespace ScriptScan

namespace Text
variable {num den : Nat}

/-- Twice the quotient is at most one divisor away from what is rounded. -/
theorem roundQuotient_near (positive : 0 < den) :
    2 * (roundQuotient num den * den) ≤ 2 * num + den ∧
      2 * num ≤ 2 * (roundQuotient num den * den) + den := by
  have parts := Nat.div_add_mod' num den
  have left := Nat.mod_lt num positive
  have next : (num / den + 1) * den = num / den * den + den := Nat.succ_mul _ _
  simp only [roundQuotient]
  split_ifs
  all_goals omega

theorem roundToDouble_of_lt {n : Nat} (exact : n < 1 <<< 53) : roundToDouble n = n := if_pos exact

theorem length_decimalPadded (width n : Nat) : (decimalPadded width n).toList.length = width := by
  induction width generalizing n with
  | zero => rfl
  | succ width ih => simp [decimalPadded, ih]

theorem numberOf_decimalPadded (width n : Nat) :
    numberOf 10 (decimalPadded width n).toList = n % 10 ^ width := by
  induction width generalizing n with
  | zero => simp [decimalPadded, numberOf, Nat.mod_one]
  | succ width ih =>
    have below : n % 10 < 10 := Nat.mod_lt n (by decide)
    have digit : (Nat.digitChar (n % 10)).isDigit = true := by simpa using below
    have worth : (digitValue? (Nat.digitChar (n % 10))).getD 0 = n % 10 := by
      rw [digitValue?_of_isDigit digit]
      exact Nat.toNat_digitChar_sub_48_of_lt_ten below
    rw [decimalPadded, String.toList_push, numberOf, List.foldl_concat, ← numberOf, ih, worth,
      pow_succ', Nat.mod_mul, Nat.add_comm]

end Text

namespace FileSize

/-- A number of hundredths of a unit. -/
structure Amount where
  hundredths : Nat
  unit : Nat
deriving DecidableEq, Repr

namespace Amount

def text (a : Amount) : String :=
  s!"{a.hundredths / 100}.{Text.decimalPadded 2 (a.hundredths % 100)} {unitName a.unit}"

/-- The amount is nearest to `size`, and is not less than its unit. -/
structure Rounds (a : Amount) (size : Nat) : Prop where
  unit : 1 ≤ a.unit ∧ a.unit ≤ 3
  near : |(a.hundredths : ℚ) / 100 - size / 1024 ^ a.unit| ≤ 1 / 200
  one_le : 100 ≤ a.hundredths

/-- The amount is less than the next unit, if there is one. -/
def Normal (a : Amount) : Prop := a.unit < 3 → a.hundredths < 102400

end Amount

/-- A text that shows a size as it should: bytes are exact below the first unit, and above
it stands a nearest hundredth of the unit that the shown number is in the range of. -/
inductive Shows (size : Nat) : String → Prop
  | bytes (small : size < 1024) : Shows size s!"{size} B"
  | amount (a : Amount) (large : 1024 ≤ size) (rounds : a.Rounds size) (normal : a.Normal) :
    Shows size a.text

/-- The size is less than half a hundredth of a unit below the next unit. -/
def Carries (size : Nat) : Prop :=
  1048571 ≤ size ∧ size < 1048576 ∨ 1073736582 ≤ size ∧ size < 1073741824

variable {size : Nat} {a b : Amount}

namespace Amount

theorem toList_text (a : Amount) :
    a.text.toList = Nat.toDigits 10 (a.hundredths / 100) ++
      '.' :: ((Text.decimalPadded 2 (a.hundredths % 100)).toList ++
        ' ' :: (unitName a.unit).toList) := by
  simp [text]
  rfl

theorem takeWhile_text (a : Amount) :
    a.text.toList.takeWhile (·.isDigit) = Nat.toDigits 10 (a.hundredths / 100) := by
  rw [toList_text, List.takeWhile_append_of_pos fun c => Text.isDigit_of_mem_toDigits]
  simp

/-- An amount can be told from its text. -/
theorem text_injective (first : 1 ≤ a.unit ∧ a.unit ≤ 3) (second : 1 ≤ b.unit ∧ b.unit ≤ 3)
    (same : a.text = b.text) : a = b := by
  have whole : a.hundredths / 100 = b.hundredths / 100 := by
    have digits := congrArg (fun t => Text.numberOf 10 (t.toList.takeWhile (·.isDigit))) same
    simpa only [takeWhile_text, Text.numberOf_toDigits] using digits
  have chars := congrArg String.toList same
  rw [toList_text, toList_text, whole, List.append_cancel_left_eq, List.cons.injEq] at chars
  obtain ⟨padded, rest⟩ := List.append_inj chars.2
    ((Text.length_decimalPadded 2 _).trans (Text.length_decimalPadded 2 _).symm)
  have part := congrArg (Text.numberOf 10) padded
  rw [Text.numberOf_decimalPadded, Text.numberOf_decimalPadded] at part
  have hundredths : a.hundredths = b.hundredths := by omega
  have names : ∀ u < 4, ∀ v < 4, 1 ≤ u → 1 ≤ v → unitName u = unitName v → u = v := by decide
  have unit : a.unit = b.unit :=
    names _ (by omega) _ (by omega) first.1 second.1 (String.toList_inj.mp (List.cons.inj rest).2)
  cases a
  cases b
  simp_all

/-- Being nearest, in whole numbers. -/
theorem near_of_le {den hundredths : Nat} (positive : 0 < den)
    (upper : 2 * (hundredths * den) ≤ 2 * (100 * size) + den)
    (lower : 2 * (100 * size) ≤ 2 * (hundredths * den) + den) :
    |(hundredths : ℚ) / 100 - size / den| ≤ 1 / 200 := by
  have divisor : (0 : ℚ) < den := Nat.cast_pos.mpr positive
  have upper' : (2 : ℚ) * (hundredths * den) ≤ 2 * (100 * size) + den := by exact_mod_cast upper
  have lower' : (2 : ℚ) * (100 * size) ≤ 2 * (hundredths * den) + den := by exact_mod_cast lower
  have quotient : (hundredths : ℚ) / 100 - size / den =
      (hundredths * den - 100 * size) / (100 * den) := by field_simp
  rw [quotient, abs_div, abs_of_pos (by positivity : (0 : ℚ) < 100 * den),
    div_le_iff₀ (by positivity), abs_le]
  constructor <;> linarith

end Amount

/-- What is shown of a size above the first unit. -/
def amount (size : Nat) : Amount where
  hundredths := Text.roundQuotient (100 * size) (Nat.pow 1024 (unitOf size))
  unit := unitOf size

theorem text_of_lt (small : size < 1024) : text size = s!"{size} B" := by
  have kept : Text.roundToDouble size = size :=
    Text.roundToDouble_of_lt (Nat.lt_trans small (by decide))
  have unit : unitOf size = 0 := if_pos small
  simp [text, kept, unit]

theorem text_of_le (large : 1024 ≤ size) (fits : size < 2 ^ 53) :
    text size = (amount size).text := by
  have kept : Text.roundToDouble size = size := Text.roundToDouble_of_lt fits
  have unit : unitOf size ≠ 0 := by grind [unitOf]
  simp only [text, kept, if_neg unit]
  rfl

theorem unitOf_cases (large : 1024 ≤ size) :
    (unitOf size = 1 ∧ size < 1048576) ∨
      (unitOf size = 2 ∧ 1048576 ≤ size ∧ size < 1073741824) ∨
      (unitOf size = 3 ∧ 1073741824 ≤ size) := by grind [unitOf]

theorem amount_near (size : Nat) :
    2 * ((amount size).hundredths * 1024 ^ unitOf size) ≤ 2 * (100 * size) + 1024 ^ unitOf size ∧
      2 * (100 * size) ≤ 2 * ((amount size).hundredths * 1024 ^ unitOf size) + 1024 ^ unitOf size :=
  Text.roundQuotient_near (Nat.pow_pos (by decide))

/-- The amount is one of its unit at least, and one of the next unit at most. It is one of the
next just where the size carries. -/
theorem amount_range (large : 1024 ≤ size) :
    (1 ≤ unitOf size ∧ unitOf size ≤ 3) ∧ 100 ≤ (amount size).hundredths ∧
      (unitOf size < 3 → (amount size).hundredths ≤ 102400) ∧
      (unitOf size < 3 ∧ (amount size).hundredths = 102400 ↔ Carries size) := by
  obtain ⟨upper, lower⟩ := amount_near size
  rw [Carries]
  rcases unitOf_cases large with ⟨unit, _⟩ | ⟨unit, _⟩ | ⟨unit, _⟩
  all_goals
    rw [unit] at upper lower ⊢
    omega

theorem amount_rounds (large : 1024 ≤ size) : (amount size).Rounds size := by
  obtain ⟨unit, one_le, _⟩ := amount_range large
  obtain ⟨upper, lower⟩ := amount_near size
  have near := Amount.near_of_le (Nat.pow_pos (by decide)) upper lower
  exact ⟨unit, by exact_mod_cast near, one_le⟩

/-- Only in the last unit, or more than half a hundredth below the next, is the amount in the
range of its unit. -/
theorem amount_normal_iff (large : 1024 ≤ size) : (amount size).Normal ↔ ¬ Carries size := by
  obtain ⟨_, _, most, carries⟩ := amount_range large
  rw [← carries, not_and]
  exact forall_congr' fun below => Nat.lt_iff_le_and_ne.trans (and_iff_right (most below))

theorem amount_of_carries (carries : Carries size) :
    (amount size).unit < 3 ∧ (amount size).hundredths = 102400 := by
  have large : 1024 ≤ size := by
    unfold Carries at carries
    omega
  exact (amount_range large).2.2.2.mpr carries

theorem shows_text_iff (fits : size < 2 ^ 53) : Shows size (text size) ↔ ¬ Carries size := by
  rcases Nat.lt_or_ge size 1024 with small | large
  · have free : ¬ Carries size := by
      unfold Carries
      omega
    rw [text_of_lt small]
    exact iff_of_true (.bytes small) free
  · rw [text_of_le large fits, ← amount_normal_iff large]
    refine ⟨fun shows => ?_, .amount _ large (amount_rounds large)⟩
    generalize same : (amount size).text = shown at shows
    cases shows with
    | bytes small => exact absurd large (Nat.not_le.mpr small)
    | amount a _ rounds normal =>
      rwa [Amount.text_injective (amount_rounds large).unit rounds.unit same]

/-- Bytes are shown exactly, and a larger size as an amount of a unit that is nearest to it. All
is as it should be but for the sizes that round up to the next unit: they are shown as 1024 of
theirs. -/
theorem shows_iff_not_carries (size : Nat) (fits : size < 2 ^ 53) :
    (size < 1024 → text size = s!"{size} B") ∧
      (1024 ≤ size → ∃ a : Amount, text size = a.text ∧ a.Rounds size ∧
        (Carries size → a.unit < 3 ∧ a.hundredths = 102400)) ∧
      (Shows size (text size) ↔ ¬ Carries size) := by
  refine ⟨text_of_lt, fun large => ?_, shows_text_iff fits⟩
  exact ⟨amount size, text_of_le large fits, amount_rounds large, amount_of_carries⟩

theorem shows_iff_not_carries_below_gigabyte :
    1073736581 < 2 ^ 53 ∧ ¬ Carries 1073736581 ∧ Shows 1073736581 "1023.99 MB" := by
  have free : ¬ Carries 1073736581 := by simp [Carries]
  have shown : text 1073736581 = "1023.99 MB" := by decide +kernel
  exact ⟨by decide, free, shown ▸ (shows_iff_not_carries 1073736581 (by decide)).2.2.mpr free⟩

/-- One byte below a megabyte, there stand 1024 kilobytes for one megabyte. -/
theorem kilobytes_carried :
    text 1048575 = "1024.00 KB" ∧ ¬ Shows 1048575 (text 1048575) ∧ Shows 1048575 "1.00 MB" := by
  have carries : Carries 1048575 := by simp [Carries]
  have megabyte : (⟨100, 2⟩ : Amount).Rounds 1048575 := ⟨by decide, by norm_num [abs_le], by decide⟩
  have shown : (⟨100, 2⟩ : Amount).text = "1.00 MB" := by decide +kernel
  refine ⟨by decide +kernel, fun shows => (shows_text_iff (by decide)).mp shows carries, ?_⟩
  rw [← shown]
  exact .amount _ (by decide) megabyte fun _ => by decide

end FileSize
end ScriptScan
