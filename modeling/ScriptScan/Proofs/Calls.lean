import ScriptScan.Proofs.Acts

/-! Restarts from outside. To all acts on a scanner comes a restart whose state is not
taken on, so that state and lexeme can come apart. The characters of tokens are kept as
they are given, until one is taken up for a token that was never opened. -/
namespace ScriptScan.Scanner

inductive Call
  | act (a : Act)
  | restart (c : Char)
deriving DecidableEq, Repr

def Call.given : Call → List Char
  | act (.feed c) | act (.step c) | restart c => [c]
  | act .finish => []

def call (s : Scanner) : Call → Scanner
  | .act a => s.act a
  | .restart c => (s.restart c).1

def afterCalls (s : Scanner) (calls : List Call) : Scanner := calls.foldl call s

def held (s : Scanner) : List Char :=
  s.tokens.toList.flatMap (·.text.toList) ++ s.lexeme.toList

/-- A lexeme is open just when there is a kind for it. -/
def Agrees (s : Scanner) : Prop := s.lexeme = "" ↔ s.kind = none

instance (s : Scanner) : Decidable s.Agrees := inferInstanceAs (Decidable (_ ↔ _))

/-- Lexeme and kind agree, and the scanner holds those of the given characters that are
part of tokens. -/
structure Keeps (s : Scanner) (given : List Char) : Prop where
  agrees : s.Agrees
  held_eq : s.held = given.filter isTokenChar

/-- The call hands over a character that the state takes up, though no token is open. Only
`greater` sets a kind as it takes up a character. -/
def Strands (s : Scanner) : Call → Prop
  | .act (.feed c) | .act (.step c) => s.kind = none ∧ s.accepts c = true ∧ s.state ≠ .greater
  | .act .finish | .restart _ => False

/-- The scanner with the kind that its lexeme would be closed with. -/
def settled (s : Scanner) : Scanner :=
  match s.state with
  | .keywordStem _ => s.promote
  | _ => s

/-- All that a call can do: its character is taken up behind the lexeme, or the lexeme is
closed, as it is or as it is settled, and what the call hands over comes after it. -/
inductive Effect (s : Scanner) (next : Call) (t : Scanner) : Prop
  | take : next.given = [c] → s.accepts c = true →
      (s.Strands next ↔ s.kind = none ∧ s.state ≠ .greater) → t.tokens = s.tokens →
      t.lexeme = s.lexeme.push c →
      (t.kind = if s.state = .greater then some .greaterEqual else s.kind) → Effect s next t
  | close : r = s ∨ r = s.settled → ¬ s.Strands next → t.Agrees →
      t.held = r.emit.held ++ next.given.filter isTokenChar → Effect s next t

variable {s : Scanner} {c : Char} {given : List Char}

@[simp] theorem emit_lexeme (s : Scanner) : s.emit.lexeme = "" := by
  unfold emit
  split
  · simp_all
  · split <;> rfl

@[simp] theorem emit_kind (s : Scanner) : s.emit.kind = none := by
  unfold emit
  split
  · rfl
  · split <;> simp_all

theorem held_emit (s : Scanner) :
    s.emit.held.Sublist s.held ∧ (s.Agrees → s.emit.held = s.held) := by
  cases kind : s.kind with
  | none =>
    -- Nothing is emitted, and a lexeme that is there all the same is dropped.
    have emitted : s.emit.tokens = s.tokens := by
      unfold emit
      split <;> simp [kind]
    constructor
    · simp [held, emitted]
    · intro agrees
      simp [held, emitted, agrees.mpr kind]
  | some k =>
    by_cases empty : s.lexeme = ""
    · simp [emit, held, empty]
    · simp [emit, held, empty, kind]

theorem restart_spec (s : Scanner) (c : Char) :
    (s.restart c).1.Agrees ∧ (s.restart c).1.held = s.emit.held ++ [c].filter isTokenChar := by
  have opened : Shape .initial s.emit.lexeme s.emit.kind := by
    rw [emit_lexeme, emit_kind]
    exact .initial
  have same := s.restart_eq_start c
  cases used : isTokenChar c with
  | true =>
    obtain ⟨state, kind, shape, started⟩ :=
      start_of_isTokenChar (s := { s.emit with state := .initial }) opened rfl used
    rw [started] at same
    obtain ⟨-, lexeme, kindEq, tokens, -⟩ := Scanner.mk.inj same
    constructor
    · rw [Agrees, lexeme, kindEq]
      exact shape.lexeme_eq_empty_iff.trans shape.kind_eq_none_iff.symm
    · simp [held, lexeme, tokens, used]
  | false =>
    rw [start_of_separator used, skip_eq] at same
    obtain ⟨-, lexeme, kindEq, tokens, -⟩ := Scanner.mk.inj same
    constructor
    · simp [Agrees, lexeme, kindEq]
    · simp [held, lexeme, tokens, used]

@[simp] theorem settled_held (s : Scanner) : s.settled.held = s.held := by
  unfold settled
  split
  · rw [promote_eq]
    rfl
  · rfl

theorem settled_agrees (agrees : s.Agrees) : s.settled.Agrees := by
  unfold settled
  split
  · rw [promote_eq, Agrees, Keyword.kind?_eq]
    by_cases whole : s.lexeme = "int"
    · simp [whole]
    · rw [if_neg whole]
      exact agrees
  · exact agrees

/-- Whatever the lexeme is, a state takes a character up behind it or restarts. -/
theorem step_of_takes (s : Scanner) (accepted : s.accepts c = true) :
    ∃ state, s.step c = { s with
      state, lexeme := s.lexeme.push c,
      kind := if s.state = .greater then some .greaterEqual else s.kind } := by
  cases stateEq : s.state with
  | initial | greaterEqual | assign => simp [accepts, stateEq] at accepted
  | identifier =>
    refine ⟨.identifier, ?_⟩
    simp_all [step, next, append, accepts]
  | keywordStem matched =>
    have word : isWordChar c = true := by simpa [accepts, stateEq] using accepted
    cases more : Keyword.continues s.lexeme c with
    | true => exact ⟨.keywordStem (matched + 1), by simp [step, next, append, stateEq, more]⟩
    | false => exact ⟨.identifier, by simp [step, next, append, stateEq, more, word]⟩
  | integer =>
    refine ⟨.integer, ?_⟩
    simp_all [step, next, append, accepts]
  | greater =>
    refine ⟨.greaterEqual, ?_⟩
    simp_all [step, next, append, accepts]

theorem step_of_restarts (s : Scanner) (refused : s.accepts c = false) :
    s.step c = { (s.settled.restart c).1 with state := (s.settled.restart c).2 } := by
  cases stateEq : s.state with
  | keywordStem matched =>
    have word : isWordChar c = false := by simpa [accepts, stateEq] using refused
    have stop : Keyword.continues s.lexeme c = false :=
      Bool.eq_false_iff.mpr fun more => by simp [isWordChar_of_continues more] at word
    simp [step, next, settled, stateEq, stop, word]
  | initial | identifier | integer | greater | greaterEqual | assign =>
    simp_all [step, next, settled, accepts]

theorem call_spec (s : Scanner) (next : Call) : Effect s next (s.call next) := by
  cases next with
  | act a =>
    cases a with
    | feed c | step c =>
      cases accepted : s.accepts c with
      | true =>
        obtain ⟨state, same⟩ := s.step_of_takes accepted
        refine .take (c := c) rfl accepted (by simp [Strands, accepted]) ?_ ?_ ?_
        all_goals simp [call, act, feed, same]
      | false =>
        obtain ⟨agrees, heldEq⟩ := s.settled.restart_spec c
        refine .close (.inr rfl) (by simp [Strands, accepted]) ?_ ?_
        · simp only [call, act, feed, s.step_of_restarts accepted]
          exact agrees
        · simp only [call, act, feed, s.step_of_restarts accepted]
          exact heldEq
    | finish =>
      have agrees : s.finish.Agrees := iff_of_true (emit_lexeme _) (emit_kind _)
      exact .close (.inr rfl) id agrees (List.append_nil _).symm
  | restart c =>
    obtain ⟨agrees, heldEq⟩ := s.restart_spec c
    exact .close (.inl rfl) id agrees heldEq

/-- A call adds the token characters that it hands over behind those held so far. Of these
it may drop some only where lexeme and kind do not agree. -/
theorem held_call (s : Scanner) (next : Call) :
    ∃ kept, (s.call next).held = kept ++ next.given.filter isTokenChar ∧
      kept.Sublist s.held ∧ (s.Agrees → kept = s.held) := by
  cases s.call_spec next with
  | take given accepted _ tokens lexeme =>
    refine ⟨s.held, ?_, .refl _, fun _ => rfl⟩
    simp [held, tokens, lexeme, given, isTokenChar_of_accepts accepted]
  | close closed _ _ heldEq =>
    refine ⟨_, heldEq, ?_⟩
    -- Settling changes the kind alone, so that the same characters are emitted.
    rcases closed with rfl | rfl
    · exact held_emit _
    · rw [← s.settled_held]
      exact ⟨s.settled.held_emit.1, fun agrees => s.settled.held_emit.2 (settled_agrees agrees)⟩

theorem call_agrees_iff (s : Scanner) (next : Call) :
    (s.call next).Agrees ↔ ¬ s.Strands next := by
  cases s.call_spec next with
  | take _ _ strands _ lexeme kind =>
    rw [Agrees, lexeme, kind, strands]
    by_cases greater : s.state = .greater <;> simp [greater]
  | close _ free agrees => exact iff_of_true agrees free

theorem call_backed (s : Scanner) (next : Call) (empty : (s.call next).lexeme = "") :
    (s.call next).kind = none := by
  cases s.call_spec next with
  | take _ _ _ _ lexeme => simp [lexeme] at empty
  | close _ _ agrees => exact agrees.mp empty

theorem Keeps.call (keeps : s.Keeps given) (next : Call) (free : ¬ s.Strands next) :
    (s.call next).Keeps (given ++ next.given) := by
  obtain ⟨kept, heldEq, _, all⟩ := s.held_call next
  refine ⟨(s.call_agrees_iff next).mpr free, ?_⟩
  rw [heldEq, all keeps.agrees, keeps.held_eq, List.filter_append]

@[simp] theorem afterCalls_nil (s : Scanner) : s.afterCalls [] = s := rfl

theorem afterCalls_concat (s : Scanner) (calls : List Call) (next : Call) :
    s.afterCalls (calls ++ [next]) = (s.afterCalls calls).call next := by
  simp [afterCalls]

theorem Keeps.afterCalls (keeps : s.Keeps given) (calls : List Call)
    (free : ∀ done next, done ++ [next] <+: calls → ¬ (s.afterCalls done).Strands next) :
    (s.afterCalls calls).Keeps (given ++ calls.flatMap Call.given) := by
  induction calls generalizing s given with
  | nil => simpa using keeps
  | cons first calls ih =>
    have first_free : ¬ s.Strands first := free [] first (by simp)
    rw [List.flatMap_cons, ← List.append_assoc]
    apply ih (keeps.call first first_free)
    intro done next started
    exact free (first :: done) next (List.cons_prefix_cons.mpr ⟨rfl, started⟩)

theorem afterCalls_sublist (held : s.held.Sublist (given.filter isTokenChar))
    (calls : List Call) :
    (s.afterCalls calls).held.Sublist ((given ++ calls.flatMap Call.given).filter isTokenChar) := by
  induction calls generalizing s given with
  | nil => simpa using held
  | cons first calls ih =>
    obtain ⟨kept, heldEq, part, _⟩ := s.held_call first
    rw [List.flatMap_cons, ← List.append_assoc]
    apply ih
    rw [heldEq, List.filter_append]
    exact (part.trans held).append (.refl _)

theorem afterCalls_backed (backed : s.lexeme = "" → s.kind = none) (calls : List Call) :
    (s.afterCalls calls).lexeme = "" → (s.afterCalls calls).kind = none := by
  induction calls generalizing s with
  | nil => exact backed
  | cons first calls ih => exact ih (s.call_backed first)

/-- However a new scanner is called, it keeps what it is given up to the first call that
strands a character, and no further. In any case nothing is held twice or out of order,
and a kind is never without a lexeme. -/
theorem keeps_iff_not_strands (calls : List Call) :
    ((∀ done, done <+: calls → (afterCalls {} done).Keeps (done.flatMap Call.given)) ↔
        ∀ done next, done ++ [next] <+: calls → ¬ (afterCalls {} done).Strands next) ∧
      (afterCalls {} calls).held.Sublist ((calls.flatMap Call.given).filter isTokenChar) ∧
      ((afterCalls {} calls).lexeme = "" → (afterCalls {} calls).kind = none) := by
  have new : Keeps {} [] := ⟨iff_of_true rfl rfl, rfl⟩
  have nothing : (held {}).Sublist (([] : List Char).filter isTokenChar) := .refl _
  refine ⟨⟨?_, ?_⟩, afterCalls_sublist nothing calls, afterCalls_backed (fun _ => rfl) calls⟩
  · intro keeps done next started
    rw [← call_agrees_iff, ← afterCalls_concat]
    exact (keeps _ started).agrees
  · intro free done started
    exact new.afterCalls done fun before next first => free before next (first.trans started)

/-- A restart at a blank closes the number and leaves its state. The digit fed next is
taken up without a kind, and the blank after it drops it. -/
theorem restart_strands_digit :
    let digit : List Call := [.act (.feed '1'), .restart ' ', .act (.feed '2')]
    let blank := digit ++ [.act (.feed ' ')]
    ¬ (afterCalls {} digit).Agrees ∧ (afterCalls {} blank).held = ['1'] ∧
      (blank.flatMap Call.given).filter isTokenChar = ['1', '2'] := by
  decide

end ScriptScan.Scanner
