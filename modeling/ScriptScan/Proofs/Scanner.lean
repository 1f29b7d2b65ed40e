import ScriptScan.Proofs.Lexeme
import ScriptScan.Token.Scanner

/-! What one step of the scanner does. In every state the lexeme has a shape that
fixes its kind; a character either makes the lexeme longer or closes it, and then
the step is the one that a scanner without a lexeme would make. -/
namespace ScriptScan.Scanner

/-- The lexeme and the kind that go with a state. -/
inductive Shape : State → String → Option Kind → Prop
  | initial : Shape .initial "" none
  | keywordStem : Keyword.IsStem text → text ≠ "" →
      Shape (.keywordStem text.length) text (some .identifier)
  | identifier : IsWord text → ¬ Keyword.IsStem text → Shape .identifier text (some .identifier)
  | integer : IsNumber text → Shape .integer text (some .integer)
  | greater : Shape .greater ">" (some .greater)
  | greaterEqual : Shape .greaterEqual ">=" (some .greaterEqual)
  | assign : Shape .assign "=" (some .assign)

/-- State, lexeme and kind of the scanner agree. -/
def Coherent (s : Scanner) : Prop := Shape s.state s.lexeme s.kind

/-- Whether `c` makes the open lexeme longer. -/
def accepts (s : Scanner) (c : Char) : Bool :=
  match s.state with
  | .identifier | .keywordStem _ => isWordChar c
  | .integer => isDigit c
  | .greater => c = '='
  | .initial | .greaterEqual | .assign => false

/-- The open token as it would be closed now; none between tokens. -/
def pending (s : Scanner) : List Token :=
  s.kind.toList.map fun k => ⟨(Keyword.kind? s.lexeme).getD k, s.lexeme⟩

/-- The scanner with its lexeme closed. -/
def closed (s : Scanner) : Scanner :=
  { s with state := .initial, lexeme := "", kind := none, tokens := s.tokens ++ s.pending.toArray }

/-- What a separator does where no lexeme is open. -/
def skip (s : Scanner) (c : Char) : Scanner := if isStray c then s.drop c else s

/-- What `c` does where no lexeme is open. -/
def start (s : Scanner) (c : Char) : Scanner :=
  if isLetter c then
    { s.begin .identifier c with state := if Keyword.starts c then .keywordStem 1 else .identifier }
  else if isDigit c then { s.begin .integer c with state := .integer }
  else if c = '=' then { s.begin .assign c with state := .assign }
  else if c = '>' then { s.begin .greater c with state := .greater }
  else s.skip c

/-- All that a step can do: the character extends the lexeme, or it closes the lexeme
and is the start of another or no part of any. -/
inductive Step (s : Scanner) (c : Char) : Scanner → Prop
  | extend {state kind} : s.accepts c = true → Shape state (s.lexeme.push c) kind →
      Step s c { s with state, kind, lexeme := s.lexeme.push c }
  | start {state kind} : s.accepts c = false → isTokenChar c = true →
      Shape state (String.singleton c) kind →
      Step s c { s.closed with state, kind, lexeme := String.singleton c }
  | skip : s.accepts c = false → isTokenChar c = false → Step s c (s.closed.skip c)

variable {s : Scanner} {c : Char} {state : State} {text : String} {kind : Option Kind}

theorem Shape.lexeme_eq_empty_iff (shape : Shape state text kind) :
    text = "" ↔ state = .initial := by
  cases shape with
  | initial => simp
  | keywordStem _ inhabited => simp [inhabited]
  | identifier word => simp [word.ne_empty]
  | integer number => simp [number.1]
  | greater | greaterEqual | assign => simp

theorem Shape.kind_eq_none_iff (shape : Shape state text kind) :
    kind = none ↔ state = .initial := by
  cases shape <;> simp

/-- Only the stem that is the whole keyword is promoted. -/
theorem Shape.kind?_eq_none (shape : Shape state text kind) (apart : ∀ n, state ≠ .keywordStem n) :
    Keyword.kind? text = none := by
  rw [Keyword.kind?_eq, if_neg]
  intro same
  cases shape with
  | initial | greater | greaterEqual | assign => simp at same
  | keywordStem => exact apart _ rfl
  | identifier _ other => exact Keyword.ne_int_of_not_isStem other same
  | integer number =>
    subst same
    exact absurd (number.2 'i' (by decide)) (by decide)

theorem emit_eq (agree : s.lexeme = "" ↔ s.kind = none) :
    s.emit = { s with
      kind := none, lexeme := "",
      tokens := s.tokens ++ (s.kind.toList.map fun k => (⟨k, s.lexeme⟩ : Token)).toArray } := by
  cases kind : s.kind with
  | none => simp [emit, agree.mpr kind]
  | some k =>
    have inhabited : s.lexeme ≠ "" := mt agree.mp (by simp [kind])
    simp [emit, inhabited, kind]

theorem promote_eq (s : Scanner) :
    s.promote = { s with kind := (Keyword.kind? s.lexeme).or s.kind } := by
  unfold promote
  split <;> simp_all

theorem finish_eq (coherent : s.Coherent) : s.finish = s.closed := by
  have agree : s.lexeme = "" ↔ s.kind = none :=
    coherent.lexeme_eq_empty_iff.trans coherent.kind_eq_none_iff.symm
  cases stateEq : s.state with
  | keywordStem matched =>
    have ⟨k, kindEq⟩ : ∃ k, s.kind = some k := by
      apply Option.ne_none_iff_exists'.mp
      simp [coherent.kind_eq_none_iff, stateEq]
    have inhabited : s.lexeme ≠ "" := by simp [agree, kindEq]
    have agree : s.promote.lexeme = "" ↔ s.promote.kind = none := by
      simp [promote_eq, inhabited, kindEq]
    simp only [finish, stateEq, emit_eq agree, closed, pending]
    cases h : Keyword.kind? s.lexeme <;> simp [promote_eq, h, kindEq]
  | initial | identifier | integer | greater | greaterEqual | assign =>
    have plain := coherent.kind?_eq_none (by simp [stateEq])
    simp [finish, stateEq, emit_eq agree, closed, pending, plain]

theorem closed_coherent (s : Scanner) : s.closed.Coherent := .initial

theorem step_of_accepts (coherent : s.Coherent) (accepted : s.accepts c = true) :
    ∃ state kind, Shape state (s.lexeme.push c) kind ∧
      s.step c = { s with state, kind, lexeme := s.lexeme.push c } := by
  obtain ⟨state, lexeme, kind, tokens, diagnostics, suppressed, reporting, position⟩ := s
  change Shape state lexeme kind at coherent
  cases coherent with
  | initial | greaterEqual | assign => simp [accepts] at accepted
  | keywordStem stem inhabited =>
    by_cases more : Keyword.continues lexeme c = true
    · have shape := Shape.keywordStem (Keyword.continues_iff.mp more) String.push_ne_empty
      rw [String.length_push] at shape
      exact ⟨_, _, shape, by simp [step, next, more, append]⟩
    · refine ⟨.identifier, _, .identifier ((stem.isWord inhabited).push accepted) ?_, ?_⟩
      · exact mt Keyword.continues_iff.mpr more
      · simp_all [step, next, append, accepts]
  | identifier word other =>
    refine ⟨.identifier, _, .identifier (word.push accepted) (mt Keyword.IsStem.of_push other), ?_⟩
    simp_all [step, next, append, accepts]
  | integer number =>
    refine ⟨.integer, _, .integer (number.push accepted), ?_⟩
    simp_all [step, next, append, accepts]
  | greater =>
    obtain rfl : c = '=' := by simpa [accepts] using accepted
    exact ⟨_, _, .greaterEqual, rfl⟩

/-- Only the diagnostics and their number take note of a dropped character. -/
theorem drop_eq (s : Scanner) (c : Char) :
    s.drop c = { s with
      diagnostics := (s.drop c).diagnostics, suppressed := (s.drop c).suppressed } := by
  unfold drop
  repeat' split
  all_goals rfl

theorem drop_withState (s : Scanner) (c : Char) (state : State) :
    { s with state }.drop c = { s.drop c with state } := by
  simp only [drop]
  repeat' split
  all_goals rfl

theorem skip_eq (s : Scanner) (c : Char) :
    s.skip c = { s with
      diagnostics := (s.skip c).diagnostics, suppressed := (s.skip c).suppressed } := by
  unfold skip
  split
  · exact s.drop_eq c
  · rfl

@[simp] theorem skip_lexeme (s : Scanner) (c : Char) : (s.skip c).lexeme = s.lexeme := by
  rw [skip_eq]

@[simp] theorem skip_tokens (s : Scanner) (c : Char) : (s.skip c).tokens = s.tokens := by
  rw [skip_eq]

/-- The characters that no state takes up are handled from the state `initial`. -/
theorem restart_eq_start (s : Scanner) (c : Char) :
    { (s.restart c).1 with state := (s.restart c).2 } =
      ({ s.emit with state := .initial }).start c := by
  unfold restart start
  split
  · rfl
  split
  · rfl
  split
  · rfl
  split
  · rfl
  have unused : isTokenChar c = false := by simp_all [isTokenChar, isWordChar]
  cases blank : isBlank c with
  | true => simp [skip, isStray, blank]
  | false => simp [skip, isStray, unused, blank, drop_withState]

theorem isWordChar_of_continues (more : Keyword.continues text c = true) : isWordChar c = true :=
  ((Keyword.continues_iff.mp more).isWord String.push_ne_empty).2 c (by simp)

theorem step_of_refuses (coherent : s.Coherent) (refused : s.accepts c = false) :
    s.step c = s.closed.start c := by
  rw [← finish_eq coherent]
  cases stateEq : s.state with
  | keywordStem matched =>
    have word : isWordChar c = false := by simpa [accepts, stateEq] using refused
    have stop : Keyword.continues s.lexeme c = false :=
      Bool.eq_false_iff.mpr fun more => by simp [isWordChar_of_continues more] at word
    simp [step, next, finish, stateEq, stop, word, restart_eq_start]
  | initial | identifier | integer | greater | greaterEqual | assign =>
    simp_all [step, next, finish, accepts, restart_eq_start]

theorem isTokenChar_of_accepts (accepted : s.accepts c = true) : isTokenChar c = true := by
  cases stateEq : s.state <;> simp_all [accepts, isTokenChar, isWordChar]

theorem start_of_isTokenChar (opened : Shape s.state s.lexeme s.kind) (initial : s.state = .initial)
    (used : isTokenChar c = true) :
    ∃ state kind, Shape state (String.singleton c) kind ∧
      s.start c = { s with state, kind, lexeme := String.singleton c } := by
  have empty : s.lexeme = "" := opened.lexeme_eq_empty_iff.mpr initial
  have alone : s.lexeme.push c = String.singleton c := by simp [empty]
  rcases isTokenChar_cases used with letter | digit | rfl | rfl
  · cases stem : Keyword.starts c with
    | true =>
      have shape := Shape.keywordStem (Keyword.starts_iff.mp stem) (by simp)
      exact ⟨_, _, shape, by simp [start, letter, stem, begin, alone]⟩
    | false =>
      have other : ¬ Keyword.IsStem (String.singleton c) := by simp [← Keyword.starts_iff, stem]
      exact ⟨_, _, .identifier (.singleton letter) other, by simp [start, letter, stem, begin, alone]⟩
  · have letter : isLetter c = false :=
      Bool.eq_false_iff.mpr fun letter => by simp [isDigit_eq_false_of_isLetter letter] at digit
    exact ⟨_, _, .integer (.singleton digit), by simp [start, letter, digit, begin, alone]⟩
  · exact ⟨_, _, .assign, by simp +decide [start, begin, alone]⟩
  · exact ⟨_, _, .greater, by simp +decide [start, begin, alone]⟩

theorem start_of_separator (unused : isTokenChar c = false) :
    s.start c = s.skip c := by
  simp_all [start, isTokenChar, isWordChar]

theorem step_spec (coherent : s.Coherent) (c : Char) : Step s c (s.step c) := by
  cases accepted : s.accepts c with
  | true =>
    obtain ⟨state, kind, shape, same⟩ := step_of_accepts coherent accepted
    exact same ▸ .extend accepted shape
  | false =>
    rw [step_of_refuses coherent accepted]
    cases used : isTokenChar c with
    | true =>
      obtain ⟨state, kind, shape, same⟩ := start_of_isTokenChar s.closed_coherent rfl used
      exact same ▸ .start accepted used shape
    | false => exact start_of_separator used ▸ .skip accepted used

/-- Between tokens nothing is pending; else it is one token, formed like its kind, and
the kind says which characters extend it. -/
theorem pending_cases (coherent : s.Coherent) :
    (s.lexeme = "" ∧ s.pending = []) ∨
      ∃ t : Token, s.pending = [t] ∧ t.text = s.lexeme ∧ t.WellFormed ∧
        ∀ c, t.kind.extendedBy c = s.accepts c := by
  obtain ⟨state, lexeme, kind, tokens, diagnostics, suppressed, reporting, position⟩ := s
  change Shape state lexeme kind at coherent
  cases coherent with
  | initial => exact .inl ⟨rfl, rfl⟩
  | keywordStem stem inhabited =>
    refine .inr ⟨_, rfl, rfl, ?_⟩
    by_cases whole : lexeme = "int"
    · subst whole
      exact ⟨rfl, fun _ => rfl⟩
    · simp only [Keyword.kind?_eq, if_neg whole, Option.getD_none]
      exact ⟨⟨stem.isWord inhabited, whole⟩, fun _ => rfl⟩
  | identifier word other =>
    have apart := Keyword.ne_int_of_not_isStem other
    refine .inr ⟨_, rfl, rfl, ?_⟩
    simp only [Keyword.kind?_eq, if_neg apart, Option.getD_none]
    exact ⟨⟨word, apart⟩, fun _ => rfl⟩
  | integer number =>
    have plain : Keyword.kind? lexeme = none := (Shape.integer number).kind?_eq_none (by simp)
    refine .inr ⟨_, rfl, rfl, ?_⟩
    simp only [plain, Option.getD_none]
    exact ⟨number, fun _ => rfl⟩
  | greater | greaterEqual | assign => exact .inr ⟨_, rfl, rfl, rfl, fun _ => rfl⟩

namespace Step
variable {t : Scanner}

theorem coherent (moved : Step s c t) : t.Coherent := by
  cases moved with
  | extend _ shape | start _ _ shape => exact shape
  | skip =>
    rw [skip_eq]
    exact .initial

/-- Places are counted by `feed` alone. -/
theorem position_eq (moved : Step s c t) : t.position = s.position := by
  cases moved with
  | extend | start => rfl
  | skip =>
    rw [skip_eq]
    rfl

/-- A step adds the open token, if it closes one, and no other. -/
theorem tokens_eq (moved : Step s c t) :
    t.tokens.toList = s.tokens.toList ++ if s.accepts c then [] else s.pending := by
  cases moved with
  | extend accepted => simp [accepted]
  | start refused => simp [refused, closed]
  | skip refused => simp [refused, closed]

end Step

theorem closed_tokens (s : Scanner) : s.closed.tokens.toList = s.tokens.toList ++ s.pending := by
  simp [closed]

theorem feedAll_eq (s : Scanner) (text : String) : s.feedAll text = text.toList.foldl feed s :=
  String.foldl_eq_foldl_toList

theorem feed_coherent (coherent : s.Coherent) (c : Char) : (s.feed c).Coherent :=
  (step_spec coherent c).coherent

theorem feed_position (coherent : s.Coherent) (c : Char) :
    (s.feed c).position = s.position.advance c :=
  congrArg (·.advance c) (step_spec coherent c).position_eq

theorem foldl_feed_coherent (coherent : s.Coherent) (cs : List Char) :
    (cs.foldl feed s).Coherent := by
  induction cs generalizing s with
  | nil => exact coherent
  | cons c cs ih => exact ih (feed_coherent coherent c)

theorem feedAll_coherent (coherent : s.Coherent) (text : String) : (s.feedAll text).Coherent := by
  rw [feedAll_eq]
  exact foldl_feed_coherent coherent text.toList

end ScriptScan.Scanner
