import Mathlib.Data.List.TakeDrop
import Mathlib.Data.List.TakeWhile
import ScriptScan.Json.Read
import ScriptScan.Proofs.JsonLayout

/-! Reading what was written as JSON. A value is read back from its characters, whatever
blanks the layout puts between its parts, and what stands behind them is left. -/
namespace ScriptScan

namespace Text

theorem digitValue?_of_isDigit {c : Char} (digit : c.isDigit = true) :
    digitValue? c = some (c.toNat - '0'.toNat) := by
  have bounds : '0' ≤ c ∧ c ≤ '9' := by simpa [Char.isDigit, Char.le_def] using digit
  rw [digitValue?, if_pos bounds]

theorem isDigitOf_of_isDigit {c : Char} (digit : c.isDigit = true) : isDigitOf 10 c = true := by
  have bounds : 48 ≤ c.toNat ∧ c.toNat ≤ 57 := by
    simpa [Char.isDigit, UInt32.le_iff_toNat_le] using digit
  have zero : '0'.toNat = 48 := rfl
  simp only [isDigitOf, digitValue?_of_isDigit digit, Option.any_some, decide_eq_true_eq, zero]
  omega

theorem isDigit_of_mem_toDigits {n : Nat} {c : Char} (member : c ∈ Nat.toDigits 10 n) :
    c.isDigit = true :=
  Nat.isDigit_of_mem_toDigits (by decide) (by decide) member

theorem numberOf_toDigits (n : Nat) : numberOf 10 (Nat.toDigits 10 n) = n := by
  have worth (cs : List Char) (digits : ∀ c ∈ cs, c.isDigit = true) (start : Nat) :
      cs.foldl (fun n c => 10 * n + (digitValue? c).getD 0) start =
        Nat.ofDigitChars 10 cs start := by
    induction cs generalizing start with
    | nil => rfl
    | cons c cs ih =>
      obtain ⟨first, others⟩ := List.forall_mem_cons.mp digits
      rw [List.foldl_cons, Nat.ofDigitChars_cons, ih others, digitValue?_of_isDigit first]
      rfl
  rw [numberOf, worth _ fun c => isDigit_of_mem_toDigits]
  exact Nat.ofDigitChars_toDigits (by decide) (by decide)

theorem head?_toDigits {n : Nat} (nonzero : n ≠ 0) : (Nat.toDigits 10 n).head? ≠ some '0' := by
  induction n using Nat.strongRecOn with
  | ind n ih =>
    rw [Nat.toDigits_eq_if (by decide)]
    split
    · simpa using nonzero
    · have smaller := ih (n / 10) (by omega) (by omega)
      rw [List.head?_append]
      cases head : (Nat.toDigits 10 (n / 10)).head? with
      | none => exact absurd (List.head?_eq_none_iff.mp head) Nat.toDigits_ne_nil
      | some c => simpa [head] using smaller

/-- No zero leads the digits of a number, unless it is zero itself. -/
theorem toDigits_leads (n : Nat) :
    (Nat.toDigits 10 n).length = 1 ∨ (Nat.toDigits 10 n).head? ≠ some '0' := by
  by_cases zero : n = 0
  · left
    rw [zero]
    rfl
  · exact .inr (head?_toDigits zero)

end Text

namespace Json

/-- The characters are all blank. -/
def Blank (cs : List Char) : Prop := ∀ c ∈ cs, isGap c = true

structure Layout.IsBlank (l : Layout) : Prop where
  gap : ∀ indent, Blank (l.gap indent)
  colon : Blank l.colon

/-- A numeral does not go on in `rest`. -/
def Ends (rest : List Char) : Prop :=
  ∀ c, rest.head? = some c → Text.isDigitOf 10 c = false ∧ c ≠ '.' ∧ c ≠ 'e' ∧ c ≠ 'E'

/-- No part of the value is without a meaning. -/
inductive Plain : Json → Prop
  | null : Plain null
  | bool : Plain (bool b)
  | nat : Plain (nat n)
  | text : Plain (text s)
  | list : (∀ x ∈ xs, Plain x) → Plain (list xs)
  | object : (∀ e ∈ es, Plain e.2) → Plain (object es)

variable {l : Layout} {j : Json} {c : Char} {gap rest : List Char}

theorem dense_isBlank : Layout.dense.IsBlank := by
  constructor <;> simp [Layout.dense, Blank]

theorem lines_isBlank : Layout.lines.IsBlank := by
  constructor
  · intro indent c member
    rcases List.mem_cons.mp member with rfl | space
    · rfl
    · rw [List.eq_of_mem_replicate space]
      rfl
  · simp [Layout.lines, Blank, isGap]

theorem isGap_cases (blank : isGap c = true) : c = ' ' ∨ c = '\t' ∨ c = '\n' ∨ c = '\r' := by
  simpa [isGap, or_assoc] using blank

theorem skipGaps_append (blank : Blank gap) (cs : List Char) :
    skipGaps (gap ++ cs) = skipGaps cs :=
  List.dropWhile_append_of_pos blank

theorem skipGaps_cons (solid : isGap c = false) (cs : List Char) : skipGaps (c :: cs) = c :: cs := by
  simp [skipGaps, solid]

theorem unit?_hexPadded : ∀ n < 32, unit? (Text.hexPadded 4 n).toList = some n := by
  decide +kernel

theorem addUnit_of_lt (small : n < 32) (seen : List Char) :
    (⟨some seen, none⟩ : TextSoFar).addUnit n = ⟨some (Char.ofNat n :: seen), none⟩ := by
  have high : isHighSurrogate n = false := by simp [isHighSurrogate]; omega
  have low : isLowSurrogate n = false := by simp [isLowSurrogate]; omega
  simp [TextSoFar.addUnit, TextSoFar.addChar, TextSoFar.settled, high, low]

/-- A character that need not be escaped stands for itself. -/
theorem readText_cons (apart : c ≠ '"') (solid : c ≠ '\\') (printed : ¬ c.toNat < 0x20)
    (t : TextSoFar) (cs : List Char) : readText t (c :: cs) = readText (t.addChar c) cs := by
  have unescaped : ¬ (c = '\\' ∨ c.toNat < 0x20) := not_or.mpr ⟨solid, printed⟩
  rw [readText, if_neg unescaped]
  · exact apart
  · rintro _ _ _ _ _ rfl
    contradiction
  · rintro _ _ rfl
    contradiction

/-- An escaped character is read as the character. -/
theorem readText_escape (seen : List Char) (c : Char) (rest : List Char) :
    readText ⟨some seen, none⟩ (escape c ++ rest) = readText ⟨some (c :: seen), none⟩ rest := by
  unfold escape putChar
  iterate 7
    split
    · subst_vars
      simp [readText, shortEscape?, TextSoFar.addChar, TextSoFar.settled]
  split
  · have small : c.toNat < 32 := by assumption
    have number := unit?_hexPadded c.toNat small
    obtain ⟨a, b, d, e, digits⟩ :
        ∃ a b d e, (Text.hexPadded 4 c.toNat).toList = [a, b, d, e] :=
      ⟨_, _, _, _, by simp only [Text.hexPadded, String.toList_push]; rfl⟩
    rw [digits] at number
    simp [digits, readText, number, addUnit_of_lt small]
  · rw [String.toList_push, String.toList_empty, List.nil_append, List.singleton_append,
      readText_cons ‹_› ‹_› ‹_›]
    rfl

theorem readText_quote (text : String) (rest : List Char) :
    readText {} (text.toList.flatMap escape ++ '"' :: rest) = some (some text, rest) := by
  have all (cs seen : List Char) :
      readText ⟨some seen, none⟩ (cs.flatMap escape ++ '"' :: rest) =
        some (some (String.ofList (seen.reverse ++ cs)), rest) := by
    induction cs generalizing seen with
    | nil => simp [readText, TextSoFar.text?, TextSoFar.settled]
    | cons c cs ih =>
      rw [List.flatMap_cons, List.append_assoc, readText_escape, ih]
      simp
  simpa using all text.toList []

theorem Ends.cons (apart : Text.isDigitOf 10 c = false) (dot : c ≠ '.') (e : c ≠ 'e')
    (E : c ≠ 'E') (rest : List Char) : Ends (c :: rest) := by
  intro d head
  obtain rfl : c = d := by simpa using head
  exact ⟨apart, dot, e, E⟩

theorem ends_nil : Ends [] := by simp [Ends]

theorem ends_comma (rest : List Char) : Ends (',' :: rest) :=
  .cons (by decide) (by decide) (by decide) (by decide) rest

theorem Ends.append (blank : Blank gap) (ends : Ends rest) : Ends (gap ++ rest) := by
  cases gap with
  | nil => exact ends
  | cons c gap =>
    rcases isGap_cases (blank c List.mem_cons_self) with rfl | rfl | rfl | rfl <;>
      exact .cons (by decide) (by decide) (by decide) (by decide) _

/-- The digits of a number are read as far as they go. -/
theorem readDigits_toDigits (n : Nat) (ends : Ends rest) :
    readDigits (Nat.toDigits 10 n ++ rest) = some (Nat.toDigits 10 n, rest) := by
  have digits : ∀ c ∈ Nat.toDigits 10 n, Text.isDigitOf 10 c = true :=
    fun c member => Text.isDigitOf_of_isDigit (Text.isDigit_of_mem_toDigits member)
  have stop : rest.takeWhile (Text.isDigitOf 10) = [] ∧
      rest.dropWhile (Text.isDigitOf 10) = rest := by
    cases rest with
    | nil => exact ⟨rfl, rfl⟩
    | cons c rest =>
      have apart := (ends c rfl).1
      simp [apart]
  have split : (Nat.toDigits 10 n ++ rest).span (Text.isDigitOf 10) =
      (Nat.toDigits 10 n, rest) := by
    rw [List.span_eq_takeWhile_dropWhile, List.takeWhile_append_of_pos digits,
      List.dropWhile_append_of_pos digits, stop.1, stop.2, List.append_nil]
  rw [readDigits, split]
  split <;> simp_all

theorem readFraction_of_ends (ends : Ends rest) : readFraction rest = some (false, rest) := by
  unfold readFraction
  split
  · exact absurd rfl (ends '.' rfl).2.1
  · rfl

theorem readExponent_of_ends (ends : Ends rest) : readExponent rest = some (false, rest) := by
  unfold readExponent
  split
  · exact absurd rfl (ends 'e' rfl).2.2.1
  · exact absurd rfl (ends 'E' rfl).2.2.2
  · rfl

theorem exists_digit (n : Nat) : ∃ d ds, Nat.toDigits 10 n = d :: ds ∧ d.isDigit = true := by
  cases digits : Nat.toDigits 10 n with
  | nil => exact absurd digits Nat.toDigits_ne_nil
  | cons d ds =>
    refine ⟨d, ds, rfl, Text.isDigit_of_mem_toDigits (n := n) ?_⟩
    rw [digits]
    exact List.mem_cons_self

theorem readNumber_toDigits (n : Nat) (ends : Ends rest) :
    readNumber (Nat.toDigits 10 n ++ rest) = some (nat n, rest) := by
  have positive : (Nat.toDigits 10 n ++ rest).head? ≠ some '-' := by
    obtain ⟨d, ds, digits, digit⟩ := exists_digit n
    rw [digits, List.cons_append, List.head?_cons]
    rintro ⟨⟩
    exact absurd digit (by decide)
  have digits : readDigits (if (Nat.toDigits 10 n ++ rest).head? = some '-' then
      (Nat.toDigits 10 n ++ rest).tail else Nat.toDigits 10 n ++ rest) =
      some (Nat.toDigits 10 n, rest) := by
    rw [if_neg positive, readDigits_toDigits n ends]
  have allowed : (guard ((Nat.toDigits 10 n).length = 1 ∨
      (Nat.toDigits 10 n).head? ≠ some '0') : Option Unit) = some () :=
    if_pos (Text.toDigits_leads n)
  rw [readNumber, decide_eq_false positive]
  dsimp only
  rw [digits, Option.bind_eq_bind, Option.bind_some, allowed, readFraction_of_ends ends]
  simp only [Option.bind_eq_bind, Option.bind_some, readExponent_of_ends ends,
    Text.numberOf_toDigits]
  rfl

/-- The first character of a value is not blank, and no bracket that closes. -/
theorem exists_lay_cons (l : Layout) (indent : Nat) (j : Json) :
    ∃ c cs, lay l indent j = c :: cs ∧ isGap c = false ∧ c ≠ ']' ∧ c ≠ '\x7d' := by
  cases j with
  | null | foreign => exact ⟨_, _, rfl, by decide, by decide, by decide⟩
  | bool b => cases b <;> exact ⟨_, _, rfl, by decide, by decide, by decide⟩
  | nat n =>
    obtain ⟨d, ds, digits, digit⟩ := exists_digit n
    refine ⟨d, ds, digits, ?_, ?_, ?_⟩
    · rw [Bool.eq_false_iff]
      intro blank
      rcases isGap_cases blank with rfl | rfl | rfl | rfl <;> exact absurd digit (by decide)
    · rintro rfl
      exact absurd digit (by decide)
    · rintro rfl
      exact absurd digit (by decide)
  | text s => exact ⟨_, _, rfl, by decide, by decide, by decide⟩
  | list xs => cases xs <;> exact ⟨_, _, rfl, by decide, by decide, by decide⟩
  | object es =>
    rcases es with _ | ⟨⟨k, x⟩, es⟩ <;> exact ⟨_, _, rfl, by decide, by decide, by decide⟩

theorem readValue_blank (blank : Blank gap) (fuel : Nat) (cs : List Char) :
    readValue fuel (gap ++ cs) = readValue fuel cs := by
  cases fuel with
  | zero => rfl
  | succ fuel => simp only [readValue, skipGaps_append blank]

theorem readItems_blank (blank : Blank gap) (fuel : Nat) (seen : List Json) (cs : List Char) :
    readItems fuel seen (gap ++ cs) = readItems fuel seen cs := by
  cases fuel with
  | zero => rfl
  | succ fuel => simp only [readItems, readValue_blank blank]

theorem readEntries_blank (blank : Blank gap) (fuel : Nat) (seen : Option (List (String × Json)))
    (cs : List Char) : readEntries fuel seen (gap ++ cs) = readEntries fuel seen cs := by
  cases fuel with
  | zero => rfl
  | succ fuel => simp only [readEntries, skipGaps_append blank]

/-- A value is read back from its characters; a step is spent for each character at most. -/
def ReadsBack (l : Layout) (j : Json) : Prop :=
  ∀ indent fuel rest, (lay l indent j).length ≤ fuel → Ends rest →
    readValue fuel (lay l indent j ++ rest) = some (j, rest)

theorem readValue_toDigits (n fuel : Nat) (ends : Ends rest) :
    readValue (fuel + 1) (Nat.toDigits 10 n ++ rest) = some (nat n, rest) := by
  have number := readNumber_toDigits n ends
  obtain ⟨d, ds, digits, digit⟩ := exists_digit n
  have solid : isGap d = false := by
    obtain ⟨c, cs, same, solid, _⟩ := exists_lay_cons .dense 0 (nat n)
    rw [lay, digits] at same
    rwa [(List.cons.inj same).1]
  rw [digits, List.cons_append] at number ⊢
  simp only [readValue, skipGaps_cons solid]
  split
  case h_7 => exact number
  all_goals
    obtain ⟨rfl, _⟩ := List.cons.inj ‹_›
    exact absurd digit (by decide)

theorem readItems_lay (blank : l.IsBlank) (closing : Blank gap) {x : Json} {xs : List Json}
    (items : ∀ y ∈ x :: xs, ReadsBack l y) (seen : List Json) (indent fuel : Nat)
    (enough : (lay l indent x ++ layItems l indent xs).length < fuel) (rest : List Char) :
    readItems fuel seen (lay l indent x ++ (layItems l indent xs ++ (gap ++ ']' :: rest))) =
      some (list (seen.reverse ++ x :: xs), rest) := by
  induction xs generalizing x seen fuel with
  | nil =>
    obtain ⟨fuel, rfl⟩ := Nat.exists_eq_add_one_of_ne_zero (Nat.ne_zero_of_lt enough)
    simp only [layItems, List.append_nil] at enough
    have ends : Ends (gap ++ ']' :: rest) :=
      .append closing (.cons (by decide) (by decide) (by decide) (by decide) _)
    have first := items x List.mem_cons_self indent fuel _ (Nat.le_of_lt_succ enough) ends
    simp only [layItems, List.nil_append, readItems, first, skipGaps_append closing,
      skipGaps_cons (c := ']') rfl, List.reverse_cons]
  | cons y ys ih =>
    obtain ⟨fuel, rfl⟩ := Nat.exists_eq_add_one_of_ne_zero (Nat.ne_zero_of_lt enough)
    obtain ⟨head, others⟩ := List.forall_mem_cons.mp items
    simp only [layItems, List.length_append, List.length_cons] at enough
    have first := head indent fuel
    have next := ih others (x :: seen) fuel (by rw [List.length_append]; omega)
    simp only [layItems, List.cons_append, List.append_assoc, readItems]
    rw [first _ (by omega) (ends_comma _)]
    simp only [skipGaps_cons (c := ',') rfl, readItems_blank (blank.gap indent), next,
      List.reverse_cons, List.append_assoc, List.singleton_append]

theorem quote_append (text : String) (cs : List Char) :
    quote text ++ cs = '"' :: (text.toList.flatMap escape ++ '"' :: cs) := by
  simp [quote]

theorem readEntries_lay (blank : l.IsBlank) (closing : Blank gap) {k : String} {x : Json}
    {es : List (String × Json)} (entries : ∀ e ∈ (k, x) :: es, ReadsBack l e.2)
    (seen : List (String × Json)) (indent fuel : Nat)
    (enough : (quote k ++ (lay l indent x ++ layEntries l indent es)).length < fuel)
    (rest : List Char) :
    readEntries fuel (some seen) (quote k ++ (':' :: (l.colon ++ (lay l indent x ++
        (layEntries l indent es ++ (gap ++ '\x7d' :: rest)))))) =
      some (object (seen.reverse ++ (k, x) :: es), rest) := by
  induction es generalizing k x seen fuel with
  | nil =>
    obtain ⟨fuel, rfl⟩ := Nat.exists_eq_add_one_of_ne_zero (Nat.ne_zero_of_lt enough)
    simp only [layEntries, List.append_nil, List.length_append] at enough
    have ends : Ends (gap ++ '\x7d' :: rest) :=
      .append closing (.cons (by decide) (by decide) (by decide) (by decide) _)
    have item : ReadsBack l x := entries (k, x) List.mem_cons_self
    have first := item indent fuel _ (by omega) ends
    simp only [layEntries, List.nil_append, quote_append, readEntries,
      skipGaps_cons (c := '"') rfl, readText_quote, skipGaps_cons (c := ':') rfl,
      readValue_blank blank.colon, first, skipGaps_append closing,
      skipGaps_cons (c := '\x7d') rfl, List.reverse_cons]
  | cons e es ih =>
    obtain ⟨k', y⟩ := e
    obtain ⟨fuel, rfl⟩ := Nat.exists_eq_add_one_of_ne_zero (Nat.ne_zero_of_lt enough)
    have item : ReadsBack l x := entries (k, x) List.mem_cons_self
    have others := (List.forall_mem_cons.mp entries).2
    simp only [layEntries, List.length_append, List.length_cons] at enough
    have first := item indent fuel
    have next := ih others ((k, x) :: seen) fuel (by simp only [List.length_append]; omega)
    simp only [layEntries, List.cons_append, List.append_assoc, quote_append k, readEntries,
      skipGaps_cons (c := '"') rfl, readText_quote, skipGaps_cons (c := ':') rfl,
      readValue_blank blank.colon]
    rw [first _ (by omega) (ends_comma _)]
    simp only [skipGaps_cons (c := ',') rfl, readEntries_blank (blank.gap indent), next,
      List.reverse_cons, List.append_assoc, List.singleton_append]

/-- Words and texts are told by their first characters. -/
theorem readValue_first (fuel : Nat) (cs : List Char) :
    readValue (fuel + 1) ('n' :: 'u' :: 'l' :: 'l' :: cs) = some (null, cs) ∧
      readValue (fuel + 1) ('t' :: 'r' :: 'u' :: 'e' :: cs) = some (bool true, cs) ∧
      readValue (fuel + 1) ('f' :: 'a' :: 'l' :: 's' :: 'e' :: cs) = some (bool false, cs) ∧
      readValue (fuel + 1) ('"' :: cs) =
        (readText {} cs).map fun (s, rest) => ((s.map text).getD foreign, rest) := by
  refine ⟨?_, ?_, ?_, ?_⟩
  all_goals
    rw [readValue, skipGaps_cons rfl]
    rfl

/-- Behind an opening bracket there is its closing one, or what it holds. -/
theorem readValue_opened (fuel : Nat) {cs ds : List Char} (first : skipGaps cs = c :: ds) :
    (c = ']' → readValue (fuel + 1) ('[' :: cs) = some (list [], ds)) ∧
      (c ≠ ']' → readValue (fuel + 1) ('[' :: cs) = readItems fuel [] (c :: ds)) ∧
      (c = '\x7d' → readValue (fuel + 1) ('\x7b' :: cs) = some (object [], ds)) ∧
      (c ≠ '\x7d' → readValue (fuel + 1) ('\x7b' :: cs) = readEntries fuel (some []) (c :: ds)) := by
  simp only [readValue, skipGaps_cons (c := '[') rfl, skipGaps_cons (c := '\x7b') rfl, first]
  refine ⟨?_, fun apart => ?_, ?_, fun apart => ?_⟩
  · rintro rfl
    rfl
  · split
    · exact absurd (List.cons.inj ‹_›).1 apart
    · rfl
  · rintro rfl
    rfl
  · split
    · exact absurd (List.cons.inj ‹_›).1 apart
    · rfl

theorem exists_eq_add_one {indent fuel : Nat} (enough : (lay l indent j).length ≤ fuel) :
    ∃ n, fuel = n + 1 := by
  obtain ⟨c, cs, chars, _⟩ := exists_lay_cons l indent j
  rw [chars, List.length_cons] at enough
  exact ⟨fuel - 1, by omega⟩

namespace ReadsBack

theorem null : ReadsBack l null := by
  intro indent fuel rest enough _
  obtain ⟨fuel, rfl⟩ := exists_eq_add_one enough
  exact (readValue_first fuel rest).1

theorem bool (b : Bool) : ReadsBack l (bool b) := by
  intro indent fuel rest enough _
  obtain ⟨fuel, rfl⟩ := exists_eq_add_one enough
  obtain ⟨_, whenTrue, whenFalse, _⟩ := readValue_first fuel rest
  cases b with
  | true => exact whenTrue
  | false => exact whenFalse

theorem nat (n : Nat) : ReadsBack l (nat n) := by
  intro indent fuel rest enough ends
  obtain ⟨fuel, rfl⟩ := exists_eq_add_one enough
  exact readValue_toDigits n fuel ends

theorem text (s : String) : ReadsBack l (text s) := by
  intro indent fuel rest enough _
  obtain ⟨fuel, rfl⟩ := exists_eq_add_one enough
  obtain ⟨_, _, _, quoted⟩ := readValue_first fuel (s.toList.flatMap escape ++ '"' :: rest)
  rw [lay, quote_append, quoted, readText_quote]
  rfl

theorem list {xs : List Json} (blank : l.IsBlank) (items : ∀ x ∈ xs, ReadsBack l x) :
    ReadsBack l (list xs) := by
  intro indent fuel rest enough _
  obtain ⟨fuel, rfl⟩ := exists_eq_add_one enough
  cases xs with
  | nil => exact (readValue_opened fuel (skipGaps_cons rfl rest)).1 rfl
  | cons x xs =>
    obtain ⟨c, cs, chars, solid, apart, _⟩ := exists_lay_cons l (indent + 2) x
    have first (ds : List Char) :
        skipGaps (l.gap (indent + 2) ++ (lay l (indent + 2) x ++ ds)) = c :: (cs ++ ds) := by
      rw [skipGaps_append (blank.gap _), chars, List.cons_append, skipGaps_cons solid]
    simp only [lay, List.length_cons, List.length_append] at enough
    have read := readItems_lay blank (blank.gap indent) items [] (indent + 2) fuel
      (by rw [List.length_append]; omega) rest
    rw [chars, List.cons_append] at read
    simp only [lay, List.cons_append, List.append_assoc, List.nil_append]
    rw [(readValue_opened fuel (first _)).2.1 apart, read]
    rfl

theorem object {es : List (String × Json)} (blank : l.IsBlank)
    (entries : ∀ e ∈ es, ReadsBack l e.2) : ReadsBack l (object es) := by
  intro indent fuel rest enough _
  obtain ⟨fuel, rfl⟩ := exists_eq_add_one enough
  rcases es with _ | ⟨⟨k, x⟩, es⟩
  · exact (readValue_opened fuel (skipGaps_cons rfl rest)).2.2.1 rfl
  · have first (ds : List Char) : skipGaps (l.gap (indent + 2) ++ (quote k ++ ds)) =
        '"' :: (k.toList.flatMap escape ++ '"' :: ds) := by
      rw [skipGaps_append (blank.gap _), quote_append, skipGaps_cons rfl]
    simp only [lay, List.length_cons, List.length_append] at enough
    have read := readEntries_lay blank (blank.gap indent) entries [] (indent + 2) fuel
      (by simp only [List.length_append]; omega) rest
    rw [quote_append] at read
    simp only [lay, List.cons_append, List.append_assoc, List.nil_append]
    rw [(readValue_opened fuel (first _)).2.2.2 (by decide), read]
    rfl

end ReadsBack

/-- Whatever the layout puts between its parts, a value with a meaning is read back. -/
theorem Plain.readsBack (plain : j.Plain) (blank : l.IsBlank) : ReadsBack l j := by
  induction j using induction with
  | null => exact .null
  | bool b => exact .bool b
  | nat n => exact .nat n
  | text s => exact .text s
  | list xs ih =>
    cases plain with
    | list parts => exact .list blank fun x member => ih x member (parts x member)
  | object es ih =>
    cases plain with
    | object parts => exact .object blank fun e member => ih e member (parts e member)
  | foreign => cases plain

/-- A whole text is read if it is a value with blanks behind it. -/
theorem Plain.read? {text : String} (plain : j.Plain) (blank : l.IsBlank) (behind : Blank rest)
    (chars : text.toList = lay l indent j ++ rest) : read? text = some j := by
  have ends : Ends rest := by simpa using ends_nil.append behind
  have enough : (lay l indent j).length ≤ 2 * text.length + 2 := by
    rw [← String.length_toList, chars, List.length_append]
    omega
  have nothing : skipGaps rest = [] := List.dropWhile_eq_nil_iff.mpr behind
  rw [Json.read?, chars, plain.readsBack blank indent _ rest enough ends]
  simp only [nothing, if_true]

theorem Plain.read?_compact (plain : j.Plain) : Json.read? j.compact = some j := by
  have behind : Blank [] := by simp [Blank]
  apply plain.read? dense_isBlank behind
  rw [toList_compact, List.append_nil]

/-- On lines of its own, a value may have a line end behind it. -/
theorem Plain.read?_indented (plain : j.Plain) : Json.read? (j.indented ++ "\n") = some j := by
  have behind : Blank ['\n'] := by simp [Blank, isGap]
  apply plain.read? lines_isBlank behind
  rw [String.toList_append, toList_indented]
  rfl

end Json
end ScriptScan
