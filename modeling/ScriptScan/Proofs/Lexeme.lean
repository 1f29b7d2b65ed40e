import ScriptScan.Text.Blank
import ScriptScan.Token.Alphabet

/-! The forms of lexemes, apart from any scanner: what a text of each kind looks
like, which character would make it longer, and which texts may still become a
keyword. -/
namespace ScriptScan

/-- The characters that are part of some token. All others separate tokens. -/
def isTokenChar (c : Char) : Bool := isWordChar c || c = '=' || c = '>'

/-- A separator that is worth a diagnostic. -/
def isStray (c : Char) : Bool := !isTokenChar c && !isBlank c

/-- A letter, and letters and digits after it. -/
def IsWord (text : String) : Prop :=
  text.toList.head?.any isLetter = true ∧ ∀ c ∈ text.toList, isWordChar c = true

def IsNumber (text : String) : Prop := text ≠ "" ∧ ∀ c ∈ text.toList, isDigit c = true

instance (text : String) : Decidable (IsWord text) :=
  decidable_of_iff (text.toList.head?.any isLetter = true ∧ text.toList.all isWordChar = true)
    (by rw [IsWord, List.all_eq_true])

instance (text : String) : Decidable (IsNumber text) :=
  decidable_of_iff (text ≠ "" ∧ text.toList.all isDigit = true)
    (by rw [IsNumber, List.all_eq_true])

namespace Kind

/-- The form of a lexeme of each kind. -/
def Spells : Kind → String → Prop
  | identifier, text => IsWord text ∧ text ≠ "int"
  | integer, text => IsNumber text
  | intKeyword, text => text = "int"
  | assign, text => text = "="
  | greater, text => text = ">"
  | greaterEqual, text => text = ">="

/-- Whether a lexeme of the kind would go on with `c`. -/
def extendedBy : Kind → Char → Bool
  | identifier, c | intKeyword, c => isWordChar c
  | integer, c => isDigit c
  | greater, c => c = '='
  | assign, _ | greaterEqual, _ => false

end Kind

instance Kind.decidableSpells : (k : Kind) → (text : String) → Decidable (k.Spells text)
  | identifier, _ => inferInstanceAs (Decidable (_ ∧ _))
  | integer, text => inferInstanceAs (Decidable (IsNumber text))
  | intKeyword, _ | assign, _ | greater, _ | greaterEqual, _ => inferInstanceAs (Decidable (_ = _))

def Token.WellFormed (t : Token) : Prop := t.kind.Spells t.text

instance (t : Token) : Decidable t.WellFormed := inferInstanceAs (Decidable (t.kind.Spells t.text))

theorem isWordChar_of_isLetter (letter : isLetter c = true) : isWordChar c = true := by
  simp [isWordChar, letter]

theorem isWordChar_of_isDigit (digit : isDigit c = true) : isWordChar c = true := by
  simp [isWordChar, digit]

theorem isDigit_eq_false_of_isLetter (letter : isLetter c = true) : isDigit c = false := by
  have la : 'a'.val.toNat = 97 := rfl
  have lA : 'A'.val.toNat = 65 := rfl
  have l9 : '9'.val.toNat = 57 := rfl
  simp only [isLetter, isDigit, Bool.or_eq_true, Bool.and_eq_true, decide_eq_true_eq,
    Bool.and_eq_false_iff, decide_eq_false_iff_not, Char.le_def, UInt32.le_iff_toNat_le] at *
  omega

theorem isTokenChar_of_isWordChar (word : isWordChar c = true) : isTokenChar c = true := by
  simp [isTokenChar, word]

theorem isTokenChar_cases (used : isTokenChar c = true) :
    isLetter c = true ∨ isDigit c = true ∨ c = '=' ∨ c = '>' := by
  simpa [isTokenChar, isWordChar, or_assoc] using used

theorem isStray_of_isTokenChar (used : isTokenChar c = true) : isStray c = false := by
  simp [isStray, used]

theorem isWhiteSpace_of_isBlank (blank : isBlank c = true) : Text.isWhiteSpace c = true := by
  have known : c = ' ' ∨ c = '\t' ∨ c = '\n' ∨ c = '\r' := by
    simpa [isBlank, or_assoc] using blank
  rcases known with rfl | rfl | rfl | rfl <;> decide

/-- White space is part of no token, be it a blank or not. -/
theorem isTokenChar_of_isWhiteSpace (space : Text.isWhiteSpace c = true) : isTokenChar c = false := by
  rw [Bool.eq_false_iff]
  intro used
  simp only [Text.isWhiteSpace, Text.whiteSpaceRanges, List.any_cons, List.any_nil, Bool.or_eq_true,
    Bool.and_eq_true, decide_eq_true_eq, Bool.or_false] at space
  have la : 'a'.val.toNat = 97 := rfl
  have lz : 'z'.val.toNat = 122 := rfl
  have lA : 'A'.val.toNat = 65 := rfl
  have lZ : 'Z'.val.toNat = 90 := rfl
  have l0 : '0'.val.toNat = 48 := rfl
  have l9 : '9'.val.toNat = 57 := rfl
  have code : c.toNat = c.val.toNat := rfl
  rcases isTokenChar_cases used with letter | digit | rfl | rfl
  · simp only [isLetter, Bool.or_eq_true, Bool.and_eq_true, decide_eq_true_eq, Char.le_def,
      UInt32.le_iff_toNat_le] at letter
    omega
  · simp only [isDigit, Bool.and_eq_true, decide_eq_true_eq, Char.le_def,
      UInt32.le_iff_toNat_le] at digit
    omega
  · simp at space
  · simp at space

theorem forall_mem_push {text : String} {p : Char → Prop} :
    (∀ d ∈ (text.push c).toList, p d) ↔ (∀ d ∈ text.toList, p d) ∧ p c := by
  rw [String.toList_push, List.forall_mem_append, List.forall_mem_singleton]

theorem IsWord.ne_empty (word : IsWord text) : text ≠ "" := by
  rintro rfl
  exact absurd word (by decide)

theorem IsWord.head (word : IsWord text) (chars : text.toList = first :: rest) :
    isLetter first = true := by
  simpa [chars] using word.1

theorem IsWord.singleton (letter : isLetter c = true) : IsWord (String.singleton c) := by
  simp [IsWord, letter, isWordChar_of_isLetter letter]

theorem IsWord.push (word : IsWord text) (next : isWordChar c = true) : IsWord (text.push c) := by
  cases chars : text.toList with
  | nil => exact absurd (String.toList_eq_nil_iff.mp chars) word.ne_empty
  | cons first rest =>
    exact ⟨by simpa [chars] using word.head chars, forall_mem_push.mpr ⟨word.2, next⟩⟩

theorem IsNumber.singleton (digit : isDigit c = true) : IsNumber (String.singleton c) := by
  simpa [IsNumber] using digit

theorem IsNumber.push (number : IsNumber text) (next : isDigit c = true) :
    IsNumber (text.push c) :=
  ⟨String.push_ne_empty, forall_mem_push.mpr ⟨number.2, next⟩⟩

/-- Words start with a letter and numbers with a digit. -/
theorem IsWord.not_number (word : IsWord text) : ¬ IsNumber text := by
  intro number
  cases chars : text.toList with
  | nil => exact word.ne_empty (String.toList_eq_nil_iff.mp chars)
  | cons first rest =>
    have digit := number.2 first (by simp [chars])
    simp [isDigit_eq_false_of_isLetter (word.head chars)] at digit

namespace Keyword

/-- A text with which some keyword begins. -/
def IsStem (text : String) : Prop := ∃ entry ∈ table, text.toList <+: entry.1.toList

theorem isStem_iff : IsStem text ↔ text.toList <+: ['i', 'n', 't'] := by
  have spelled : "int".toList = ['i', 'n', 't'] := rfl
  simp only [IsStem, table, List.mem_singleton, exists_eq_left, spelled]

theorem kind?_eq (text : String) : kind? text = if text = "int" then some .intKeyword else none := by
  by_cases same : text = "int"
  · subst same
    rfl
  · have other : ("int" = text) = False := eq_false fun h => same h.symm
    simp [kind?, table, same, other]

theorem continues_iff : continues text c = true ↔ IsStem (text.push c) := by
  simp [continues, IsStem, List.isPrefixOf_iff_prefix]

theorem starts_iff : starts c = true ↔ IsStem (String.singleton c) := by
  simp [starts, IsStem, List.cons_prefix_iff, List.head?_eq_some_iff]

/-- Keywords are words, so that their beginnings are words too. -/
theorem IsStem.isWord (stem : IsStem text) (inhabited : text ≠ "") : IsWord text := by
  rw [isStem_iff] at stem
  cases chars : text.toList with
  | nil => exact absurd (String.toList_eq_nil_iff.mp chars) inhabited
  | cons first rest =>
    have start : first = 'i' := (List.cons_prefix_cons.mp (chars ▸ stem)).1
    refine ⟨by simp [chars, start, isLetter], ?_⟩
    intro c member
    have letters : c = 'i' ∨ c = 'n' ∨ c = 't' := by simpa using stem.subset member
    rcases letters with rfl | rfl | rfl <;> decide

theorem IsStem.of_push (stem : IsStem (text.push c)) : IsStem text := by
  obtain ⟨entry, member, starts⟩ := stem
  refine ⟨entry, member, ?_⟩
  rw [String.toList_push] at starts
  exact (List.prefix_append _ _).trans starts

theorem isStem_int : IsStem "int" := ⟨_, List.mem_singleton.mpr rfl, List.prefix_rfl⟩

theorem ne_int_of_not_isStem (other : ¬ IsStem text) : text ≠ "int" := by
  rintro rfl
  exact other isStem_int

theorem IsStem.length_le (stem : IsStem text) : text.length ≤ 3 := by
  rw [← String.length_toList]
  exact (isStem_iff.mp stem).length_le

end Keyword

namespace Kind

theorem Spells.ne_empty {k : Kind} (spelled : k.Spells text) : text ≠ "" := by
  cases k with
  | identifier => exact spelled.1.ne_empty
  | integer => exact spelled.1
  | intKeyword | assign | greater | greaterEqual =>
    rw [show text = _ from spelled]
    decide

theorem Spells.isTokenChar {k : Kind} (spelled : k.Spells text) :
    ∀ c ∈ text.toList, isTokenChar c = true := by
  cases k with
  | identifier => exact fun c member => isTokenChar_of_isWordChar (spelled.1.2 c member)
  | integer =>
    exact fun c member => isTokenChar_of_isWordChar (isWordChar_of_isDigit (spelled.2 c member))
  | intKeyword | assign | greater | greaterEqual =>
    rw [show text = _ from spelled, ← List.all_eq_true]
    decide

/-- The first character tells words, numbers and signs apart. -/
theorem Spells.of_head {k : Kind} (spelled : k.Spells text) (chars : text.toList = first :: rest) :
    (isLetter first = true ∧ IsWord text) ∨ (isDigit first = true ∧ IsNumber text) ∨
      (first = '=' ∧ rest = []) ∨ (first = '>' ∧ (rest = [] ∨ rest = ['='])) := by
  cases k with
  | identifier => exact .inl ⟨spelled.1.head chars, spelled.1⟩
  | integer => exact .inr (.inl ⟨spelled.2 first (by simp [chars]), spelled⟩)
  | intKeyword =>
    have word : IsWord text := by rw [show text = _ from spelled]; decide
    exact .inl ⟨word.head chars, word⟩
  | assign =>
    obtain rfl : text = "=" := spelled
    obtain ⟨rfl, rfl⟩ := List.cons.inj chars
    exact .inr (.inr (.inl ⟨rfl, rfl⟩))
  | greater =>
    obtain rfl : text = ">" := spelled
    obtain ⟨rfl, rfl⟩ := List.cons.inj chars
    exact .inr (.inr (.inr ⟨rfl, .inl rfl⟩))
  | greaterEqual =>
    obtain rfl : text = ">=" := spelled
    obtain ⟨rfl, rfl⟩ := List.cons.inj chars
    exact .inr (.inr (.inr ⟨rfl, .inr rfl⟩))

/-- A text has at most one kind. -/
theorem Spells.unique {k l : Kind} (first : k.Spells text) (second : l.Spells text) : k = l := by
  cases k with
  | identifier =>
    cases l with
    | identifier => rfl
    | integer => exact absurd second first.1.not_number
    | intKeyword => exact absurd second first.2
    | assign | greater | greaterEqual =>
      obtain rfl : text = _ := second
      exact absurd first (by decide)
  | integer =>
    cases l with
    | identifier => exact absurd first second.1.not_number
    | integer => rfl
    | intKeyword | assign | greater | greaterEqual =>
      obtain rfl : text = _ := second
      exact absurd first (by decide)
  | intKeyword | assign | greater | greaterEqual =>
    obtain rfl : text = _ := first
    revert second
    cases l <;> decide

theorem Spells.isWord {k : Kind} (spelled : k.Spells text) (chars : text.toList = first :: rest)
    (letter : isLetter first = true) : IsWord text := by
  rcases spelled.of_head chars with ⟨_, word⟩ | ⟨digit, _⟩ | ⟨rfl, _⟩ | ⟨rfl, _⟩
  · exact word
  · simp [isDigit_eq_false_of_isLetter letter] at digit
  · exact absurd letter (by decide)
  · exact absurd letter (by decide)

theorem Spells.isNumber {k : Kind} (spelled : k.Spells text) (chars : text.toList = first :: rest)
    (digit : isDigit first = true) : IsNumber text := by
  rcases spelled.of_head chars with ⟨letter, _⟩ | ⟨_, number⟩ | ⟨rfl, _⟩ | ⟨rfl, _⟩
  · simp [isDigit_eq_false_of_isLetter letter] at digit
  · exact number
  · exact absurd digit (by decide)
  · exact absurd digit (by decide)

/-- Where two lexemes start alike, the longer one extends the shorter. -/
theorem Spells.extendedBy {k l : Kind} (short : k.Spells text) (long : l.Spells longer)
    (chars : longer.toList = text.toList ++ c :: rest) : k.extendedBy c = true := by
  have member : c ∈ longer.toList := by simp [chars]
  cases start : text.toList with
  | nil => exact absurd (String.toList_eq_nil_iff.mp start) short.ne_empty
  | cons first more =>
    rw [start, List.cons_append] at chars
    have beyond : more ++ c :: rest ≠ [] := by simp
    have sign := long.of_head chars
    cases k with
    | identifier => exact (long.isWord chars (short.1.head start)).2 c member
    | intKeyword =>
      have word : IsWord text := by rw [show text = _ from short]; decide
      exact (long.isWord chars (word.head start)).2 c member
    | integer => exact (long.isNumber chars (short.2 first (by simp [start]))).2 c member
    | assign =>
      obtain rfl : text = "=" := short
      obtain ⟨rfl, rfl⟩ := List.cons.inj start
      simp +decide at sign
    | greater =>
      obtain rfl : text = ">" := short
      obtain ⟨rfl, rfl⟩ := List.cons.inj start
      simp +decide at sign
      simp [Kind.extendedBy, sign]
    | greaterEqual =>
      obtain rfl : text = ">=" := short
      obtain ⟨rfl, rfl⟩ := List.cons.inj start
      simp +decide at sign

end Kind
end ScriptScan
