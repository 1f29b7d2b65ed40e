import ScriptScan.Proofs.Scanner
import ScriptScan.Token.Scan

/-! Maximal munch as a law of whole texts: tokens and the gaps between them make up
the text, and no token could be longer. The law fixes the tokens, and they are the
ones that are scanned. -/
namespace ScriptScan

/-- The characters are `tokens` with gaps around them. No gap holds a character of a
token, and the character behind a token, if there is one, does not extend it. -/
inductive Munch : List Char → List Token → Prop
  | done : (∀ c ∈ gap, isTokenChar c = false) → Munch gap []
  | token {t : Token} : (∀ c ∈ gap, isTokenChar c = false) → t.WellFormed →
      (∀ c, rest.head? = some c → t.kind.extendedBy c = false) → Munch rest tokens →
      Munch (gap ++ t.text.toList ++ rest) (t :: tokens)

def MaximalMunch (text : String) (tokens : Array Token) : Prop := Munch text.toList tokens.toList

namespace Munch
open Scanner
variable {s : Scanner}

theorem wellFormed (munch : Munch cs ts) : ∀ t ∈ ts, t.WellFormed := by
  induction munch with
  | done => simp
  | token _ formed _ _ ih => exact List.forall_mem_cons.mpr ⟨formed, ih⟩

theorem skip (separator : isTokenChar c = false) (munch : Munch rest ts) :
    Munch (c :: rest) ts := by
  cases munch with
  | done apart => exact .done (List.forall_mem_cons.mpr ⟨separator, apart⟩)
  | token apart formed stop tail =>
    simp only [← List.cons_append]
    exact .token (List.forall_mem_cons.mpr ⟨separator, apart⟩) formed stop tail

/-- A lexeme that the rest of the text does not extend is a token of the text. -/
theorem close (coherent : s.Coherent) (stop : ∀ c, rest.head? = some c → s.accepts c = false)
    (munch : Munch rest ts) : Munch (s.lexeme.toList ++ rest) (s.pending ++ ts) := by
  rcases pending_cases coherent with ⟨empty, none⟩ | ⟨t, one, text, formed, extended⟩
  · simpa [empty, none] using munch
  · have whole : Munch ([] ++ t.text.toList ++ rest) (t :: ts) :=
      .token (by simp) formed (fun c head => (extended c).trans (stop c head)) munch
    simpa [one, text] using whole

/-- What is scanned from an open lexeme on is the tokens of the lexeme and the rest. -/
theorem of_run (coherent : s.Coherent) (rest : List Char) :
    ∃ ts, (rest.foldl feed s).finish.tokens.toList = s.tokens.toList ++ ts ∧
      Munch (s.lexeme.toList ++ rest) ts := by
  induction rest generalizing s with
  | nil =>
    refine ⟨s.pending, ?_, ?_⟩
    · rw [List.foldl_nil, finish_eq coherent, closed_tokens]
    · have none : Munch [] [] := .done (by simp)
      simpa using none.close coherent (by simp)
  | cons c rest ih =>
    obtain ⟨ts, scanned, munch⟩ := ih (feed_coherent coherent c)
    rw [List.foldl_cons, scanned]
    have moved := step_spec coherent c
    have fed : (s.feed c).tokens = (s.step c).tokens ∧ (s.feed c).lexeme = (s.step c).lexeme :=
      ⟨rfl, rfl⟩
    rw [fed.1]
    rw [fed.2] at munch
    clear scanned fed
    generalize s.step c = t at moved munch
    cases moved with
    | extend => exact ⟨ts, rfl, by simpa using munch⟩
    | start refused =>
      refine ⟨s.pending ++ ts, by simp [closed], close coherent (by simpa using refused) ?_⟩
      simpa using munch
    | skip refused unused =>
      refine ⟨s.pending ++ ts, by simp [closed], close coherent (by simpa using refused) ?_⟩
      exact .skip unused (by simpa [closed] using munch)

theorem text_isTokenChar {t : Token} (formed : t.WellFormed) :
    ∃ c cs, t.text.toList = c :: cs ∧ isTokenChar c = true := by
  cases chars : t.text.toList with
  | nil => exact absurd (String.toList_eq_nil_iff.mp chars) (Kind.Spells.ne_empty formed)
  | cons c cs => exact ⟨c, cs, rfl, Kind.Spells.isTokenChar formed c (by simp [chars])⟩

/-- A gap ends where the first character of a token stands. -/
theorem gap_unique (apart : ∀ c ∈ gap, isTokenChar c = false)
    (apart' : ∀ c ∈ gap', isTokenChar c = false) (used : isTokenChar d = true)
    (used' : isTokenChar d' = true) (same : gap ++ d :: rest = gap' ++ d' :: rest') :
    gap = gap' := by
  induction gap generalizing gap' with
  | nil =>
    cases gap' with
    | nil => rfl
    | cons c gap' =>
      have : d = c := by simpa using congrArg List.head? same
      simp [← this, used] at apart'
  | cons c gap ih =>
    cases gap' with
    | nil =>
      have : c = d' := by simpa using congrArg List.head? same
      simp [this, used'] at apart
    | cons c' gap' =>
      obtain ⟨rfl, tail⟩ := List.cons.inj same
      rw [ih (List.forall_mem_cons.mp apart).2 (List.forall_mem_cons.mp apart').2 tail]

/-- A token is not the start of a longer one, since its end is where it cannot go on. -/
theorem token_longest {t u : Token} (formed : t.WellFormed) (formed' : u.WellFormed)
    (stop : ∀ c, (more ++ rest).head? = some c → t.kind.extendedBy c = false)
    (longer : u.text.toList = t.text.toList ++ more) : t = u := by
  cases more with
  | nil =>
    have text : t.text = u.text := String.toList_inj.mp (by simpa using longer.symm)
    have kind : t.kind = u.kind := Kind.Spells.unique formed (text ▸ formed')
    cases t
    cases u
    simp_all
  | cons c more =>
    have extended := Kind.Spells.extendedBy formed formed' longer
    simp [stop c rfl] at extended

theorem token_unique {t u : Token} (formed : t.WellFormed) (formed' : u.WellFormed)
    (stop : ∀ c, rest.head? = some c → t.kind.extendedBy c = false)
    (stop' : ∀ c, rest'.head? = some c → u.kind.extendedBy c = false)
    (same : t.text.toList ++ rest = u.text.toList ++ rest') : t = u ∧ rest = rest' := by
  have tokens : t = u := by
    rcases List.append_eq_append_iff.mp same with ⟨more, longer, rfl⟩ | ⟨more, longer, rfl⟩
    · exact token_longest formed formed' stop longer
    · exact (token_longest formed' formed stop' longer).symm
  subst tokens
  exact ⟨rfl, List.append_cancel_left same⟩

theorem unique (first : Munch cs ts) (second : Munch cs us) : ts = us := by
  induction first generalizing us with
  | @done gap apart =>
    cases second with
    | done => rfl
    | token _ formed =>
      obtain ⟨c, text, chars, used⟩ := text_isTokenChar formed
      simp [apart c (by simp [chars])] at used
  | @token gap rest ts t apart formed stop _ ih =>
    obtain ⟨c, text, chars, used⟩ := text_isTokenChar formed
    generalize same : gap ++ t.text.toList ++ rest = cs at second
    cases second with
    | done apart' =>
      subst same
      simp [apart' c (by simp [chars])] at used
    | @token gap' rest' _ u apart' formed' stop' tail =>
      obtain ⟨d, text', chars', used'⟩ := text_isTokenChar formed'
      rw [List.append_assoc, List.append_assoc] at same
      have gaps : gap = gap' := by
        rw [chars, chars'] at same
        exact gap_unique apart apart' used used' same
      subst gaps
      obtain ⟨rfl, rfl⟩ := token_unique formed formed' stop stop' (List.append_cancel_left same)
      rw [ih tail]

end Munch

theorem MaximalMunch.unique (first : MaximalMunch text ts) (second : MaximalMunch text us) :
    ts = us :=
  Array.toList_inj.mp (Munch.unique first second)

/-- Whether or not dropped characters are noted. -/
theorem maximalMunch_run (reporting : Bool) (text : String) :
    MaximalMunch text (Scanner.run { reporting } text).tokens := by
  have new : Scanner.Coherent { reporting } := .initial
  obtain ⟨ts, scanned, munch⟩ := Munch.of_run new text.toList
  rw [MaximalMunch, Scanner.run, Scanner.feedAll_eq, scanned]
  simpa using munch

theorem MaximalMunch.eq_tokenize (munch : MaximalMunch text tokens) : tokens = tokenize text :=
  munch.unique (maximalMunch_run false text)

theorem run_tokens (reporting : Bool) (text : String) :
    (Scanner.run { reporting } text).tokens = tokenize text :=
  (maximalMunch_run reporting text).eq_tokenize

/-- A text has one tokenization by maximal munch, and it is the one that is scanned. -/
theorem maximalMunch_iff (text : String) (tokens : Array Token) :
    MaximalMunch text tokens ↔ tokens = tokenize text := by
  constructor
  · intro munch
    exact munch.unique (maximalMunch_run false text)
  · rintro rfl
    exact maximalMunch_run false text

example : tokenize "int>=x1" =
    #[⟨.intKeyword, "int"⟩, ⟨.greaterEqual, ">="⟩, ⟨.identifier, "x1"⟩] := by cbv

end ScriptScan
