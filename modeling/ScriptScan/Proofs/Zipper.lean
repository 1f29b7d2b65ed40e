import ScriptScan.Token.Stream

/-! A token stream is a zipper: its sequence, cut in two at the reading place. Reading
moves the cut on by one token, going back moves it back, and nothing else ever changes. -/
namespace ScriptScan

/-- The tokens before the reading place and those behind it. -/
structure Zipper where
  consumed : List Token
  remaining : List Token
deriving DecidableEq, Repr

namespace Zipper

def ofTokens (tokens : List Token) : Zipper := ⟨[], tokens⟩

def whole (z : Zipper) : List Token := z.consumed ++ z.remaining

def peek? (z : Zipper) : Option Token := z.remaining.head?

def peekAhead? (z : Zipper) (n : Nat) : Option Token := z.remaining[n]?

def read : Zipper → Option Token × Zipper
  | ⟨consumed, t :: remaining⟩ => (some t, ⟨consumed ++ [t], remaining⟩)
  | ⟨consumed, []⟩ => (none, ⟨consumed, []⟩)

def unread (z : Zipper) : Zipper :=
  match z.consumed.getLast? with
  | some t => ⟨z.consumed.dropLast, t :: z.remaining⟩
  | none => z

def moveTo (z : Zipper) (n : Nat) : Except StreamError Unit × Zipper :=
  if n ≤ z.whole.length then (.ok (), ⟨z.whole.take n, z.whole.drop n⟩)
  else (.error (.positionOutOfRange n z.whole.length), z)

def check (z : Zipper) (k : Kind) : Bool := z.peek?.any (·.kind = k)

def advanceIf (z : Zipper) (k : Kind) : Bool × Zipper :=
  if z.check k then (true, z.read.2) else (false, z)

def expect (z : Zipper) (k : Kind) : Except StreamError Token × Zipper :=
  match z.peek? with
  | none => (.error (.unexpectedEnd k), z)
  | some t =>
    if t.kind = k then (.ok t, z.read.2) else (.error (.unexpectedToken k t z.consumed.length), z)

end Zipper

/-- The operations that a client has on a token sequence with a reading place. -/
structure Reader (σ : Type) where
  read : σ → Option Token × σ
  peek? : σ → Option Token
  peekAhead? : σ → Nat → Option Token
  unread : σ → σ
  moveTo : σ → Nat → Except StreamError Unit × σ
  check : σ → Kind → Bool
  advanceIf : σ → Kind → Bool × σ
  expect : σ → Kind → Except StreamError Token × σ

inductive Request
  | read
  | peek
  | peekAhead (n : Nat)
  | unread
  | moveTo (n : Nat)
  | check (k : Kind)
  | advanceIf (k : Kind)
  | expect (k : Kind)
deriving DecidableEq, Repr

inductive Reply
  | done
  | token (t : Option Token)
  | answer (yes : Bool)
  | moved (result : Except StreamError Unit)
  | taken (result : Except StreamError Token)

namespace Reader

def step (r : Reader σ) (s : σ) : Request → Reply × σ
  | .read => (.token (r.read s).1, (r.read s).2)
  | .peek => (.token (r.peek? s), s)
  | .peekAhead n => (.token (r.peekAhead? s n), s)
  | .unread => (.done, r.unread s)
  | .moveTo n => (.moved (r.moveTo s n).1, (r.moveTo s n).2)
  | .check k => (.answer (r.check s k), s)
  | .advanceIf k => (.answer (r.advanceIf s k).1, (r.advanceIf s k).2)
  | .expect k => (.taken (r.expect s k).1, (r.expect s k).2)

/-- The replies to a sequence of requests, and the state after it. -/
def serve (r : Reader σ) (s : σ) : List Request → List Reply × σ
  | [] => ([], s)
  | q :: rest =>
    let (reply, s) := r.step s q
    let (replies, s) := r.serve s rest
    (reply :: replies, s)

end Reader

def Zipper.reader : Reader Zipper :=
  { read, peek?, peekAhead?, unread, moveTo, check, advanceIf, expect }

namespace TokenStream

def reader : Reader TokenStream :=
  { read, peek?, peekAhead?, unread, moveTo, check, advanceIf, expect }

def zipper (s : TokenStream) : Zipper :=
  ⟨s.tokens.toList.take s.position, s.tokens.toList.drop s.position⟩

variable (s : TokenStream)

theorem zipper_whole : s.zipper.whole = s.tokens.toList := List.take_append_drop _ _

theorem zipper_consumed_length : s.zipper.consumed.length = s.position := by
  simp [zipper, s.position_le]

theorem zipper_remaining_length : s.zipper.remaining.length = s.remaining := by
  simp [zipper, remaining]

theorem zipper_remaining_getElem? (n : Nat) :
    s.zipper.remaining[n]? = s.tokens[s.position + n]? := by
  simp [zipper, List.getElem?_drop]

theorem zipper_of_lt (more : s.position < s.tokens.size) :
    s.zipper = ⟨s.tokens.toList.take s.position,
      s.tokens[s.position] :: s.tokens.toList.drop (s.position + 1)⟩ := by
  rw [zipper, List.drop_eq_getElem_cons (by simpa using more), Array.getElem_toList]

theorem zipper_of_le (ended : s.tokens.size ≤ s.position) : s.zipper = ⟨s.tokens.toList, []⟩ := by
  have all : s.tokens.toList.length ≤ s.position := by simpa using ended
  rw [zipper, List.take_of_length_le all, List.drop_of_length_le all]

theorem atEnd_iff : s.atEnd = true ↔ s.zipper.remaining = [] := by
  simp [atEnd, zipper]

theorem read_of_lt (more : s.position < s.tokens.size) :
    s.read = (some s.tokens[s.position],
      { s with position := s.position + 1, position_le := more }) :=
  dif_pos more

theorem read_of_le (ended : s.tokens.size ≤ s.position) : s.read = (none, s) :=
  dif_neg (Nat.not_lt.mpr ended)

theorem read_some (found : s.read = (some t, rest)) :
    ∃ more : s.position < s.tokens.size, t = s.tokens[s.position] ∧
      rest = { s with position := s.position + 1, position_le := more } := by
  rcases Nat.lt_or_ge s.position s.tokens.size with more | ended
  · rw [read_of_lt s more] at found
    obtain ⟨first, rfl⟩ := Prod.mk.inj found
    exact ⟨more, (Option.some.inj first).symm, rfl⟩
  · simp [read_of_le s ended] at found

theorem read_none (found : s.read = (none, rest)) : s.position = s.tokens.size ∧ rest = s := by
  rcases Nat.lt_or_ge s.position s.tokens.size with more | ended
  · simp [read_of_lt s more] at found
  · rw [read_of_le s ended] at found
    obtain ⟨-, rfl⟩ := Prod.mk.inj found
    exact ⟨Nat.le_antisymm s.position_le ended, rfl⟩

theorem read_zipper : s.zipper.read = (s.read.1, s.read.2.zipper) := by
  rcases Nat.lt_or_ge s.position s.tokens.size with more | ended
  · have next : s.tokens.toList.take (s.position + 1) =
        s.tokens.toList.take s.position ++ [s.tokens[s.position]] := by
      simp [List.take_add_one, more]
    rw [zipper_of_lt s more, read_of_lt s more, Zipper.read, zipper, next]
  · rw [read_of_le s ended, zipper_of_le s ended]
    rfl

theorem peek_zipper : s.zipper.peek? = s.peek? := by
  simp [Zipper.peek?, zipper, peek?, List.head?_drop]

theorem peekAhead_zipper (fits : s.tokens.size ≤ UInt64.size) (n : Nat) :
    s.zipper.peekAhead? n = s.peekAhead? n := by
  rw [Zipper.peekAhead?, zipper_remaining_getElem?, peekAhead?]
  split
  case isTrue => rfl
  case isFalse far =>
    -- A place too far to be counted lies behind every sequence that can be counted.
    rw [Array.getElem?_eq_none (by omega)]

theorem unread_read (found : s.read = (some t, rest)) : rest.unread = s := by
  obtain ⟨_, _, rfl⟩ := s.read_some found
  rfl

theorem read_unread (moved : s.position ≠ 0) :
    ∃ more : s.unread.position < s.unread.tokens.size,
      s.unread.read = (some s.unread.tokens[s.unread.position], s) := by
  have place := s.position_le
  have more : s.unread.position < s.unread.tokens.size := by
    simp only [unread]
    omega
  refine ⟨more, ?_⟩
  rw [read_of_lt _ more]
  obtain ⟨tokens, position, position_le⟩ := s
  simp only [unread, Prod.mk.injEq, TokenStream.mk.injEq, true_and]
  exact Nat.succ_pred moved

theorem unread_zipper : s.zipper.unread = s.unread.zipper := by
  by_cases first : s.position = 0
  · have stays : s.unread = s := by
      obtain ⟨tokens, position, position_le⟩ := s
      obtain rfl : position = 0 := first
      rfl
    simp [stays, Zipper.unread, zipper, first]
  · -- The stream is what its predecessor reads to, and reading is known on zippers.
    obtain ⟨more, back⟩ := s.read_unread first
    have moved := s.unread.read_zipper
    rw [back, zipper_of_lt _ more, Zipper.read] at moved
    rw [← (Prod.mk.inj moved).2, zipper_of_lt _ more, Zipper.unread]
    simp

theorem moveTo_zipper (n : Nat) : s.zipper.moveTo n = ((s.moveTo n).1, (s.moveTo n).2.zipper) := by
  unfold Zipper.moveTo moveTo
  rw [zipper_whole, Array.length_toList]
  split <;> rfl

theorem check_zipper (k : Kind) : s.zipper.check k = s.check k := by
  rw [Zipper.check, peek_zipper, check]
  cases s.peek? <;> rfl

theorem advanceIf_zipper (k : Kind) :
    s.zipper.advanceIf k = ((s.advanceIf k).1, (s.advanceIf k).2.zipper) := by
  rw [Zipper.advanceIf, advanceIf, check_zipper, read_zipper]
  split <;> rfl

theorem expect_zipper (k : Kind) :
    s.zipper.expect k = ((s.expect k).1, (s.expect k).2.zipper) := by
  rw [Zipper.expect, expect, peek_zipper, read_zipper, zipper_consumed_length]
  cases s.peek? with
  | none => rfl
  | some t => by_cases same : t.kind = k <;> simp [Token.hasKind, same]

theorem expect_of_check (yes : s.check k = true) : ∃ t, s.expect k = (.ok t, s.read.2) := by
  unfold check at yes
  unfold expect
  cases here : s.peek? with
  | none => simp [here] at yes
  | some t => exact ⟨t, if_pos (by simpa [here] using yes)⟩

theorem expect_of_not_check (no : s.check k = false) : ∃ e, s.expect k = (.error e, s) := by
  unfold check at no
  unfold expect
  cases here : s.peek? with
  | none => exact ⟨_, rfl⟩
  | some t =>
    have other : t.hasKind k = false := by simpa [here] using no
    exact ⟨_, if_neg (by simp [other])⟩

/-- Expecting a kind succeeds just where the kind is found, and goes where advancing goes. -/
theorem expect_agrees (k : Kind) :
    ((∃ t, (s.expect k).1 = .ok t) ↔ s.check k = true) ∧
      (s.check k = true ↔ (s.advanceIf k).1 = true) ∧ (s.expect k).2 = (s.advanceIf k).2 := by
  unfold advanceIf
  cases found : s.check k with
  | true =>
    obtain ⟨t, same⟩ := s.expect_of_check found
    simp [same]
  | false =>
    obtain ⟨e, same⟩ := s.expect_of_not_check found
    simp [same]

theorem expect_refused (refused : (s.expect k).1 = .error e) : (s.expect k).2 = s := by
  cases found : s.check k with
  | true =>
    obtain ⟨t, same⟩ := s.expect_of_check found
    simp [same] at refused
  | false =>
    obtain ⟨e, same⟩ := s.expect_of_not_check found
    rw [same]

theorem moveTo_refused (refused : (s.moveTo n).1 = .error e) : (s.moveTo n).2 = s := by
  unfold moveTo at refused ⊢
  split at refused
  case isTrue => simp at refused
  case isFalse far => rw [dif_neg far]

/-- Reads until nothing is read. -/
def drain (s : TokenStream) : List Token × TokenStream :=
  match _found : s.read with
  | (some t, rest) => (t :: rest.drain.1, rest.drain.2)
  | (none, rest) => ([], rest)
termination_by s.remaining
decreasing_by
  all_goals
    obtain ⟨more, -, rfl⟩ := s.read_some _found
    simp only [remaining]
    omega

theorem drain_eq : s.drain = (s.zipper.remaining, s.readAll.2) := by
  fun_induction drain s with
  | case1 s t rest found ih =>
    obtain ⟨more, rfl, rfl⟩ := s.read_some found
    rw [ih, zipper_of_lt s more]
    rfl
  | case2 s rest found =>
    obtain ⟨ended, rfl⟩ := s.read_none found
    rw [zipper_of_le rest (Nat.le_of_eq ended.symm)]
    obtain ⟨tokens, position, position_le⟩ := rest
    obtain rfl : position = tokens.size := ended
    rfl

theorem readAll_eq : s.readAll = (s.zipper.remaining.toArray, s.drain.2) := by
  rw [drain_eq]
  simp [readAll, zipper, ← Array.toList_inj, List.take_of_length_le]

theorem read_tokens : s.read.2.tokens = s.tokens := by
  unfold read
  split <;> rfl

theorem step_tokens (q : Request) : (reader.step s q).2.tokens = s.tokens := by
  cases q with
  | read => exact read_tokens s
  | peek | peekAhead | unread | check => rfl
  | moveTo n =>
    simp only [Reader.step, reader, moveTo]
    split <;> rfl
  | advanceIf k =>
    simp only [Reader.step, reader, advanceIf]
    split
    · exact read_tokens s
    · rfl
  | expect k =>
    simp only [Reader.step, reader, (s.expect_agrees k).2.2, advanceIf]
    split
    · exact read_tokens s
    · rfl

theorem step_state (q : Request) :
    (Zipper.reader.step s.zipper q).2 = (reader.step s q).2.zipper := by
  cases q with
  | read => exact congrArg Prod.snd s.read_zipper
  | peek | peekAhead | check => rfl
  | unread => exact s.unread_zipper
  | moveTo n => exact congrArg Prod.snd (s.moveTo_zipper n)
  | advanceIf k => exact congrArg Prod.snd (s.advanceIf_zipper k)
  | expect k => exact congrArg Prod.snd (s.expect_zipper k)

theorem step_reply (fits : s.tokens.size ≤ UInt64.size) (q : Request) :
    (Zipper.reader.step s.zipper q).1 = (reader.step s q).1 := by
  cases q with
  | read => exact congrArg (Reply.token ∘ Prod.fst) s.read_zipper
  | peek => exact congrArg Reply.token s.peek_zipper
  | peekAhead n => exact congrArg Reply.token (s.peekAhead_zipper fits n)
  | unread => rfl
  | moveTo n => exact congrArg (Reply.moved ∘ Prod.fst) (s.moveTo_zipper n)
  | check k => exact congrArg Reply.answer (s.check_zipper k)
  | advanceIf k => exact congrArg (Reply.answer ∘ Prod.fst) (s.advanceIf_zipper k)
  | expect k => exact congrArg (Reply.taken ∘ Prod.fst) (s.expect_zipper k)

theorem serve_tokens (qs : List Request) : (reader.serve s qs).2.tokens = s.tokens := by
  induction qs generalizing s with
  | nil => rfl
  | cons q qs ih => exact (ih _).trans (s.step_tokens q)

theorem serve_state (qs : List Request) :
    (Zipper.reader.serve s.zipper qs).2 = (reader.serve s qs).2.zipper := by
  induction qs generalizing s with
  | nil => rfl
  | cons q qs ih =>
    simp only [Reader.serve, s.step_state q]
    exact ih _

theorem serve_replies (fits : s.tokens.size ≤ UInt64.size) (qs : List Request) :
    (Zipper.reader.serve s.zipper qs).1 = (reader.serve s qs).1 := by
  induction qs generalizing s with
  | nil => rfl
  | cons q qs ih =>
    have still : (reader.step s q).2.tokens.size ≤ UInt64.size := by rwa [step_tokens]
    simp only [Reader.serve, s.step_state q, s.step_reply fits q, ih _ still]

/-- A stream over `tokens` is the zipper `z`, as far as a client can tell. -/
structure Mirrors (s : TokenStream) (tokens : Array Token) (z : Zipper) : Prop where
  tokens_eq : s.tokens = tokens
  whole_eq : z.consumed ++ z.remaining = tokens.toList
  position_eq : s.position = z.consumed.length
  position_le : s.position ≤ s.length
  remaining_eq : s.remaining = z.remaining.length
  atEnd_iff : s.atEnd = true ↔ z.remaining = []
  peekAhead_eq : ∀ n, s.peekAhead? n =
    if s.position + n < UInt64.size then z.remaining[n]? else none
  unread_read : ∀ t rest, s.read = (some t, rest) → rest.unread = s
  read_none : ∀ rest, s.read = (none, rest) → rest = s
  expect_agrees : ∀ k, ((∃ t, (s.expect k).1 = .ok t) ↔ s.check k = true) ∧
    (s.check k = true ↔ (s.advanceIf k).1 = true) ∧ (s.expect k).2 = (s.advanceIf k).2
  expect_refused : ∀ k e, (s.expect k).1 = .error e → (s.expect k).2 = s
  moveTo_refused : ∀ n e, (s.moveTo n).1 = .error e → (s.moveTo n).2 = s
  drain_eq : s.drain.1 = z.remaining
  readAll_eq : s.readAll = (z.remaining.toArray, s.drain.2)

theorem mirrors_zipper : s.Mirrors s.tokens s.zipper where
  tokens_eq := rfl
  whole_eq := s.zipper_whole
  position_eq := s.zipper_consumed_length.symm
  position_le := s.position_le
  remaining_eq := s.zipper_remaining_length.symm
  atEnd_iff := s.atEnd_iff
  peekAhead_eq n := by rw [peekAhead?, s.zipper_remaining_getElem?]
  unread_read _ _ found := s.unread_read found
  read_none _ found := (s.read_none found).2
  expect_agrees := s.expect_agrees
  expect_refused _ _ refused := s.expect_refused refused
  moveTo_refused _ _ refused := s.moveTo_refused refused
  drain_eq := congrArg Prod.fst s.drain_eq
  readAll_eq := s.readAll_eq

end TokenStream

/-- Whatever is requested of a stream, it is the zipper of its tokens afterwards. Where the
tokens are no more than a machine word counts, all its replies are those of the zipper. -/
theorem stream_refines_zipper (tokens : Array Token) (qs : List Request) :
    let served := TokenStream.reader.serve (.ofTokens tokens) qs
    let mirrored := Zipper.reader.serve (.ofTokens tokens.toList) qs
    served.2.Mirrors tokens mirrored.2 ∧
      (tokens.size ≤ UInt64.size → served.1 = mirrored.1) := by
  intro served mirrored
  have state : mirrored.2 = served.2.zipper := (TokenStream.ofTokens tokens).serve_state qs
  have kept : served.2.tokens = tokens := (TokenStream.ofTokens tokens).serve_tokens qs
  constructor
  · rw [state]
    simpa only [kept] using served.2.mirrors_zipper
  · intro fits
    exact ((TokenStream.ofTokens tokens).serve_replies fits qs).symm

/-- Refused requests stand between reads, and the farthest place is asked for. -/
theorem stream_refines_zipper_refusing :
    let tokens : Array Token := #[⟨.intKeyword, "int"⟩, ⟨.identifier, "a"⟩]
    let qs : List Request := [.read, .moveTo 3, .expect .assign, .peekAhead (UInt64.size - 1),
      .unread, .expect .intKeyword]
    tokens.size ≤ UInt64.size ∧
      (TokenStream.reader.serve (.ofTokens tokens) qs).1 =
        (Zipper.reader.serve (.ofTokens tokens.toList) qs).1 := by
  intro tokens qs
  have fits : tokens.size ≤ UInt64.size := by simp [tokens, UInt64.size]
  exact ⟨fits, (stream_refines_zipper tokens qs).2 fits⟩

end ScriptScan
