import Mathlib
import ScriptScan.Analysis
import ScriptScan.Proofs.MaximalMunch
import ScriptScan.Proofs.Strays

/-! Measures of an analysis. They are kept one token at a time, and in the end they agree
with the tokens that were found. No character of the text is left out of account: each is
part of a token, a blank or stray. -/
namespace ScriptScan

namespace Metrics

/-- The kinds that occur at all with their numbers, in the order of `ks`. -/
def entries (ks : List Kind) (count : Kind → Nat) : List (Kind × Nat) :=
  (ks.map fun k => (k, count k)).filter fun e => 0 < e.2

/-- What the measures are to say of the tokens that were counted. -/
structure Tallies (m : Metrics) (detailed : Bool) (ts : List Token) : Prop where
  tokens : m.tokens = ts.length
  roles : m.tokens = m.keywords + m.identifiers + m.literals + m.operators
  counts : TokenCounts.ofTokens ts.toArray =
    ⟨m.tokens, m.keywords, m.identifiers, m.literals, m.operators⟩
  le_longest : ∀ t ∈ ts, t.text.length ≤ m.longestLexeme
  longest : ts = [] ∧ m.longestLexeme = 0 ∨ ∃ t ∈ ts, t.text.length = m.longestLexeme
  kinds : m.kinds =
    if detailed then entries Kind.all fun k => ts.countP fun t => t.kind = k else []

variable {m : Metrics} {k : Kind} {ks : List Kind} {ts : List Token} {detailed : Bool}

theorem entries_cons (l : Kind) (ks : List Kind) (count : Kind → Nat) :
    entries (l :: ks) count =
      if 0 < count l then (l, count l) :: entries ks count else entries ks count := by
  simp [entries, List.filter_cons]

theorem entries_congr {count count' : Kind → Nat} (same : ∀ k ∈ ks, count k = count' k) :
    entries ks count = entries ks count' := by
  rw [entries, entries, List.map_congr_left]
  intro k member
  rw [same k member]

theorem countKind_of_lt {es : List (Kind × Nat)} (before : ∀ e ∈ es, k.rank < e.1.rank) :
    countKind k es = (k, 1) :: es := by
  cases es with
  | nil => rfl
  | cons e es => rw [countKind, if_pos (before e List.mem_cons_self)]

theorem countKind_entries {count : Kind → Nat}
    (sorted : ks.Pairwise fun k l => k.rank < l.rank) (member : k ∈ ks) :
    countKind k (entries ks count) = entries ks fun l => count l + if l = k then 1 else 0 := by
  induction ks with
  | nil => contradiction
  | cons l ks ih =>
    obtain ⟨before, sorted⟩ := List.pairwise_cons.mp sorted
    rw [entries_cons, entries_cons]
    rcases List.mem_cons.mp member with rfl | behind
    · have others : entries ks (fun l => count l + if l = k then 1 else 0) = entries ks count := by
        apply entries_congr
        intro l behind
        have apart : l ≠ k := by
          rintro rfl
          exact Nat.lt_irrefl _ (before l behind)
        rw [if_neg apart, Nat.add_zero]
      rw [others]
      by_cases occurs : 0 < count k
      · simp [occurs, countKind]
      · have first : ∀ e ∈ entries ks count, k.rank < e.1.rank := by
          intro e listed
          obtain ⟨l, behind, rfl⟩ := List.mem_map.mp (List.mem_filter.mp listed).1
          exact before l behind
        have zero : count k = 0 := Nat.eq_zero_of_not_pos occurs
        simp [zero, countKind_of_lt first]
    · have earlier : l.rank < k.rank := before k behind
      have apart : l ≠ k := by
        rintro rfl
        exact Nat.lt_irrefl _ earlier
      rw [if_neg apart, Nat.add_zero, ← ih sorted behind]
      by_cases occurs : 0 < count l
      · simp [occurs, countKind, Nat.not_lt.mpr (Nat.le_of_lt earlier), apart.symm]
      · simp [occurs]

theorem all_sorted : Kind.all.Pairwise fun k l => k.rank < l.rank := by decide

theorem mem_all (k : Kind) : k ∈ Kind.all := by cases k <;> decide

/-- What a token adds. -/
theorem add_eq (detailed : Bool) (m : Metrics) (t : Token) :
    m.add detailed t = { m with
      tokens := m.tokens + 1
      keywords := m.keywords + if t.kind.isKeyword then 1 else 0
      identifiers := m.identifiers + if t.kind = .identifier then 1 else 0
      literals := m.literals + if t.kind.isLiteral then 1 else 0
      operators := m.operators + if t.kind.isOperator then 1 else 0
      longestLexeme := max m.longestLexeme t.text.length
      kinds := if detailed then countKind t.kind m.kinds else m.kinds } := by
  unfold add
  cases t.kind <;> rfl

theorem ofTokens_concat (ts : List Token) (t : Token) :
    TokenCounts.ofTokens (ts ++ [t]).toArray = (TokenCounts.ofTokens ts.toArray).add t := by
  simp [TokenCounts.ofTokens]

theorem Tallies.add (tallies : m.Tallies detailed ts) (t : Token) :
    (m.add detailed t).Tallies detailed (ts ++ [t]) := by
  obtain ⟨tokens, roles, counts, le_longest, longest, kinds⟩ := tallies
  rw [add_eq]
  constructor
  case tokens => simp [tokens]
  case roles =>
    simp only [roles]
    cases t.kind <;> simp [Kind.isKeyword, Kind.isLiteral, Kind.isOperator] <;> omega
  case counts =>
    rw [ofTokens_concat, counts]
    cases found : t.kind <;>
      simp [TokenCounts.add, found, Kind.isKeyword, Kind.isLiteral, Kind.isOperator]
  case le_longest =>
    intro u member
    rcases List.mem_append.mp member with earlier | last
    · exact Nat.le_trans (le_longest u earlier) (Nat.le_max_left _ _)
    · rw [List.mem_singleton.mp last]
      exact Nat.le_max_right _ _
  case longest =>
    right
    by_cases longer : m.longestLexeme ≤ t.text.length
    · exact ⟨t, by simp, (Nat.max_eq_right longer).symm⟩
    · have kept : max m.longestLexeme t.text.length = m.longestLexeme :=
        Nat.max_eq_left (Nat.le_of_not_le longer)
      rcases longest with ⟨_, zero⟩ | ⟨u, member, attained⟩
      · omega
      · exact ⟨u, List.mem_append_left _ member, attained.trans kept.symm⟩
  case kinds =>
    cases detailed with
    | false => exact kinds
    | true =>
      simp only [if_true] at kinds ⊢
      rw [kinds, countKind_entries all_sorted (mem_all t.kind)]
      apply entries_congr
      intro k _
      simp [List.countP_append, List.countP_cons, eq_comm]

theorem foldl_tallies (tallies : m.Tallies detailed ts) (us : List Token) :
    (us.foldl (add detailed) m).Tallies detailed (ts ++ us) := by
  induction us generalizing m ts with
  | nil => simpa using tallies
  | cons u us ih => simpa using ih (tallies.add u)

theorem foldl_characters (detailed : Bool) (m : Metrics) (ts : List Token) :
    (ts.foldl (add detailed) m).characters = m.characters ∧
      (ts.foldl (add detailed) m).unrecognized = m.unrecognized := by
  induction ts generalizing m with
  | nil => exact ⟨rfl, rfl⟩
  | cons t ts ih =>
    have next := ih (m.add detailed t)
    rw [add_eq] at next
    rw [List.foldl_cons, add_eq]
    exact next

theorem ofScan_tallies (detailed : Bool) (text : String) (s : Scan) :
    (ofScan detailed text s).Tallies detailed s.tokens.toList := by
  have nothing : (ofScan detailed text { s with tokens := #[] }).Tallies detailed [] := by
    constructor <;> simp [ofScan, TokenCounts.ofTokens, entries]
  have all := foldl_tallies nothing s.tokens.toList
  rw [List.nil_append, Array.foldl_toList] at all
  exact all

theorem ofScan_characters (detailed : Bool) (text : String) (s : Scan) :
    (ofScan detailed text s).characters = text.length ∧
      (ofScan detailed text s).unrecognized = s.diagnostics.size + s.suppressed := by
  rw [ofScan, ← Array.foldl_toList]
  exact foldl_characters detailed _ s.tokens.toList

end Metrics

theorem isTokenChar_of_isBlank (blank : isBlank c = true) : isTokenChar c = false :=
  isTokenChar_of_isWhiteSpace (isWhiteSpace_of_isBlank blank)

/-- A character is part of a token, a blank or stray, and no two of these. -/
theorem length_eq_countP (cs : List Char) :
    cs.length = cs.countP isTokenChar + cs.countP isBlank + cs.countP isStray := by
  induction cs with
  | nil => rfl
  | cons c cs ih =>
    rw [List.length_cons, ih, List.countP_cons, List.countP_cons, List.countP_cons]
    cases blank : isBlank c with
    | true =>
      have unused := isTokenChar_of_isBlank blank
      simp [isStray, blank, unused]
      omega
    | false =>
      cases used : isTokenChar c <;> simp [isStray, blank, used] <;> omega

theorem countP_gap (apart : ∀ c ∈ gap, isTokenChar c = false) :
    List.countP isTokenChar gap = 0 := by
  simpa using apart

theorem Munch.sum_length (munch : Munch cs ts) :
    (ts.map fun t => t.text.length).sum = cs.countP isTokenChar := by
  induction munch with
  | done apart => exact (countP_gap apart).symm
  | @token gap rest ts t apart formed _ _ ih =>
    have lexeme : t.text.toList.countP isTokenChar = t.text.length := by
      rw [List.countP_eq_length.mpr (Kind.Spells.isTokenChar formed), String.length_toList]
    rw [List.map_cons, List.sum_cons, ih, List.countP_append, List.countP_append,
      countP_gap apart, lexeme, Nat.zero_add]

theorem straysFrom_length (p : Position) (cs : List Char) :
    (straysFrom p cs).length = cs.countP isStray := by
  induction cs generalizing p with
  | nil => rfl
  | cons c cs ih => by_cases stray : isStray c = true <;> simp [straysFrom, stray, ih]

/-- Strays beyond the limit are counted like those that are recorded. -/
theorem size_add_suppressed (text : String) :
    (tokenizeWithDiagnostics text).diagnostics.size + (tokenizeWithDiagnostics text).suppressed =
      text.toList.countP isStray := by
  have size := (Scanner.run_recorded text).size
  obtain ⟨-, counted⟩ := Scanner.run_recorded text
  change (Scanner.run {} text).diagnostics.size + (Scanner.run {} text).suppressed = _
  rw [← straysFrom_length .start, ← strays_eq]
  omega

theorem length_eq_tokens (text : String) :
    text.length = ((tokenize text).toList.map fun t => t.text.length).sum +
      text.toList.countP isBlank + text.toList.countP isStray := by
  have munch : Munch text.toList (tokenize text).toList := maximalMunch_run false text
  rw [munch.sum_length, ← length_eq_countP, String.length_toList]

/-- After an analysis the measures tell of its tokens, and with reporting on they account for
every character of the text, whether or not its diagnostic found room. -/
theorem analyze_conserves (a : Analyzer) (j : Journal) (text : String) :
    let scan := (a.analyze j text).1
    let m := (a.analyze j text).2.1.metrics
    m.Tallies a.preferences.detailedMetrics scan.tokens.toList ∧
      m.characters = text.length ∧ m.unrecognized = scan.diagnostics.size + scan.suppressed ∧
      (a.preferences.reportUnrecognized = true →
        m.characters = (scan.tokens.toList.map fun t => t.text.length).sum +
          text.toList.countP isBlank + m.unrecognized) := by
  intro scan m
  obtain ⟨characters, unrecognized⟩ :=
    Metrics.ofScan_characters a.preferences.detailedMetrics text scan
  refine ⟨Metrics.ofScan_tallies _ text scan, characters, unrecognized, fun reporting => ?_⟩
  have found : scan = tokenizeWithDiagnostics text := by
    change Scan.ofScanner (Scanner.run { reporting := _ } text) = _
    rw [reporting]
    rfl
  have tokens : scan.tokens = tokenize text := run_tokens _ text
  change m.unrecognized = _ at unrecognized
  rw [unrecognized, found, size_add_suppressed, ← found, tokens]
  exact characters.trans (length_eq_tokens text)

/-- Five characters of tokens, two blanks and one stray character. -/
theorem analyze_conserves_reporting :
    let a : Analyzer := { preferences := ⟨true, false, false, false⟩ }
    let scan := (a.analyze {} "int é x1").1
    let m := (a.analyze {} "int é x1").2.1.metrics
    a.preferences.reportUnrecognized = true ∧ m.characters = 8 ∧
      8 = (scan.tokens.toList.map fun t => t.text.length).sum + 2 + m.unrecognized := by
  intro a scan m
  have reporting : a.preferences.reportUnrecognized = true := rfl
  obtain ⟨_, characters, _, conserved⟩ := analyze_conserves a {} "int é x1"
  have sum := conserved reporting
  have blanks : "int é x1".toList.countP isBlank = 2 := by decide
  have length : "int é x1".length = 8 := by decide
  rw [characters, length, blanks] at sum
  exact ⟨reporting, characters.trans length, sum⟩

end ScriptScan
