import ScriptScan.Proofs.Scanner

/-! Scanners used act by act. Characters are fed, or stepped over with the place left
alone, and the lexeme may be closed at any time; whatever the order, what the scanner
holds fits its state and what it has emitted is well formed. -/
namespace ScriptScan.Scanner

inductive Act
  | feed (c : Char)
  | step (c : Char)
  | finish
deriving DecidableEq, Repr

/-- The characters that an act moves the place over. -/
def Act.fed : Act → List Char
  | feed c => [c]
  | step _ | finish => []

def act (s : Scanner) : Act → Scanner
  | .feed c => s.feed c
  | .step c => s.step c
  | .finish => s.finish

def after (s : Scanner) (acts : List Act) : Scanner := acts.foldl act s

/-- What holds between acts, `fed` being all text that was fed so far. -/
structure Sound (s : Scanner) (fed : String) : Prop where
  initial_iff : s.state = .initial ↔ s.lexeme = ""
  lexeme_iff : s.lexeme = "" ↔ s.kind = none
  keywordStem : ∀ n, s.state = .keywordStem n → 1 ≤ n ∧ n ≤ 3 ∧
    s.lexeme.toList = "int".toList.take n ∧ s.kind = some .identifier
  identifier : s.state = .identifier → IsWord s.lexeme ∧ ¬ Keyword.IsStem s.lexeme ∧
    s.lexeme ≠ "int" ∧ s.kind = some .identifier
  integer : s.state = .integer → IsNumber s.lexeme ∧ s.kind = some .integer
  greater : s.state = .greater → s.lexeme = ">" ∧ s.kind = some .greater
  greaterEqual : s.state = .greaterEqual → s.lexeme = ">=" ∧ s.kind = some .greaterEqual
  assign : s.state = .assign → s.lexeme = "=" ∧ s.kind = some .assign
  tokens : ∀ t ∈ s.tokens, t.text ≠ "" ∧ t.WellFormed
  position : s.position = Position.start.advanceAll fed

variable {s : Scanner}

theorem pending_wellFormed (coherent : s.Coherent) : ∀ t ∈ s.pending, t.WellFormed := by
  rcases pending_cases coherent with ⟨_, none⟩ | ⟨t, one, _, formed, _⟩
  · simp [none]
  · simpa [one] using formed

theorem act_coherent (coherent : s.Coherent) (a : Act) : (s.act a).Coherent := by
  cases a with
  | feed c => exact feed_coherent coherent c
  | step c => exact (step_spec coherent c).coherent
  | finish =>
    rw [act, finish_eq coherent]
    exact s.closed_coherent

/-- An act emits nothing or the open token. -/
theorem act_tokens (coherent : s.Coherent) (a : Act) :
    ∀ t ∈ (s.act a).tokens, t ∈ s.tokens ∨ t ∈ s.pending := by
  have step_tokens (c : Char) : ∀ t ∈ (s.step c).tokens, t ∈ s.tokens ∨ t ∈ s.pending := by
    intro t member
    rw [← Array.mem_toList_iff, (step_spec coherent c).tokens_eq] at member
    split at member <;> simp_all
  cases a with
  | feed c => exact step_tokens c
  | step c => exact step_tokens c
  | finish =>
    rw [act, finish_eq coherent]
    simp [closed]

theorem act_position (coherent : s.Coherent) (a : Act) :
    (s.act a).position = a.fed.foldl Position.advance s.position := by
  cases a with
  | feed c => exact feed_position coherent c
  | step c => exact (step_spec coherent c).position_eq
  | finish =>
    rw [act, finish_eq coherent]
    rfl

theorem after_coherent (coherent : s.Coherent) (acts : List Act) : (s.after acts).Coherent := by
  induction acts generalizing s with
  | nil => exact coherent
  | cons a acts ih => exact ih (act_coherent coherent a)

theorem after_wellFormed (coherent : s.Coherent) (formed : ∀ t ∈ s.tokens, t.WellFormed)
    (acts : List Act) : ∀ t ∈ (s.after acts).tokens, t.WellFormed := by
  induction acts generalizing s with
  | nil => exact formed
  | cons a acts ih =>
    apply ih (act_coherent coherent a)
    intro t member
    rcases act_tokens coherent a t member with before | closed
    · exact formed t before
    · exact pending_wellFormed coherent t closed

theorem after_position (coherent : s.Coherent) (acts : List Act) :
    (s.after acts).position = (acts.flatMap Act.fed).foldl Position.advance s.position := by
  induction acts generalizing s with
  | nil => rfl
  | cons a acts ih =>
    rw [List.flatMap_cons, List.foldl_append, ← act_position coherent]
    exact ih (act_coherent coherent a)

theorem Sound.of_coherent (coherent : s.Coherent) (formed : ∀ t ∈ s.tokens, t.WellFormed)
    (position : s.position = Position.start.advanceAll fed) : Sound s fed := by
  obtain ⟨state, lexeme, kind, tokens, diagnostics, suppressed, reporting, place⟩ := s
  change Shape state lexeme kind at coherent
  constructor
  case initial_iff => exact coherent.lexeme_eq_empty_iff.symm
  case lexeme_iff => exact coherent.lexeme_eq_empty_iff.trans coherent.kind_eq_none_iff.symm
  case keywordStem =>
    rintro n rfl
    cases coherent with
    | keywordStem stem inhabited =>
      have start := List.prefix_iff_eq_take.mp (Keyword.isStem_iff.mp stem)
      rw [String.length_toList] at start
      refine ⟨?_, stem.length_le, start, rfl⟩
      exact Nat.pos_of_ne_zero (mt String.length_eq_zero_iff.mp inhabited)
  case identifier =>
    rintro rfl
    cases coherent with
    | identifier word other => exact ⟨word, other, Keyword.ne_int_of_not_isStem other, rfl⟩
  case integer =>
    rintro rfl
    cases coherent with
    | integer number => exact ⟨number, rfl⟩
  case greater | greaterEqual | assign =>
    rintro rfl
    cases coherent
    exact ⟨rfl, rfl⟩
  case tokens => exact fun t member => ⟨Kind.Spells.ne_empty (formed t member), formed t member⟩
  case position => exact position

/-- However a new scanner is used, it stays sound. -/
theorem after_sound (acts : List Act) :
    Sound (after {} acts) (String.ofList (acts.flatMap Act.fed)) := by
  have new : Coherent {} := Shape.initial
  apply Sound.of_coherent (after_coherent new acts) (after_wellFormed new (by simp) acts)
  rw [after_position new, Position.advanceAll, String.foldl_eq_foldl_toList, String.toList_ofList]

end ScriptScan.Scanner
