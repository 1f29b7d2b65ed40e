import ScriptScan.Proofs.MaximalMunch

/-! Texts cut in two. Where no token can go on over the cut, the two parts are
tokenized apart. Wherever the cut is, only the last token before it can still
change, since it is the one that was open there. -/
namespace ScriptScan

/-- Whether some token has `c` with `d` behind it. -/
def joins (c d : Char) : Bool := (isWordChar c && isWordChar d) || (c = '>' && d = '=')

/-- No token goes on from the end of `front` into `back`; an empty part has no end
for one to go on over. -/
def Apart (front back : List Char) : Prop :=
  ∀ c ∈ front.getLast?, ∀ d ∈ back.head?, joins c d = false

instance (front back : List Char) : Decidable (Apart front back) :=
  decidable_of_iff (front.getLast?.all (fun c => back.head?.all (!joins c ·)) = true)
    (by simp [Apart, Option.all_eq_true])

theorem Kind.Spells.joins {k : Kind} (spelled : k.Spells text) (last : c ∈ text.toList.getLast?)
    (more : k.extendedBy d = true) : joins c d = true := by
  have member : c ∈ text.toList := List.mem_of_getLast? last
  have words (word : isWordChar c = true) (next : isWordChar d = true) :
      ScriptScan.joins c d = true := by
    simp [ScriptScan.joins, word, next]
  cases k with
  | identifier => exact words (spelled.1.2 c member) more
  | integer =>
    exact words (isWordChar_of_isDigit (spelled.2 c member)) (isWordChar_of_isDigit more)
  | intKeyword =>
    have word : IsWord text := by rw [show text = _ from spelled]; decide
    exact words (word.2 c member) more
  | greater =>
    obtain rfl : text = ">" := spelled
    obtain rfl : '>' = c := by simpa using last
    obtain rfl : d = '=' := by simpa [Kind.extendedBy] using more
    rfl
  | assign | greaterEqual => simp [Kind.extendedBy] at more

theorem Apart.of_append (apart : Apart (start ++ rest) back) : Apart rest back := by
  intro c last
  apply apart c
  rw [List.getLast?_append, Option.mem_def.mp last]
  rfl

namespace Munch
open Scanner

theorem skipAll (separators : ∀ c ∈ gap, isTokenChar c = false) (munch : Munch rest ts) :
    Munch (gap ++ rest) ts := by
  induction gap with
  | nil => exact munch
  | cons c gap ih =>
    obtain ⟨first, others⟩ := List.forall_mem_cons.mp separators
    exact .skip first (ih others)

theorem append (first : Munch front ts) (apart : Apart front back) (second : Munch back us) :
    Munch (front ++ back) (ts ++ us) := by
  induction first with
  | done separators => exact second.skipAll separators
  | @token gap rest ts t separators formed stop _ ih =>
    have tail := ih apart.of_append
    rw [List.append_assoc]
    refine .token separators formed ?_ tail
    intro d next
    cases rest with
    | cons r rest => exact stop d next
    | nil =>
      -- The token ends at the cut, where it had no next character to stop it.
      rw [List.append_nil] at apart
      obtain ⟨c, last⟩ : ∃ c, t.text.toList.getLast? = some c := by
        have ⟨_, _, chars, _⟩ := text_isTokenChar formed
        exact Option.ne_none_iff_exists'.mp (by simp [chars])
      have cut : joins c d = false := apart.of_append c last d next
      apply Bool.eq_false_iff.mpr
      intro extended
      simp [Kind.Spells.joins formed last extended] at cut

end Munch

theorem tokenize_append (apart : Apart front.toList back.toList) :
    tokenize (front ++ back) = tokenize front ++ tokenize back := by
  have first : Munch front.toList (tokenize front).toList := maximalMunch_run false front
  have second : Munch back.toList (tokenize back).toList := maximalMunch_run false back
  have both : MaximalMunch (front ++ back) (tokenize front ++ tokenize back) := by
    rw [MaximalMunch, String.toList_append, Array.toList_append]
    exact first.append apart second
  exact both.eq_tokenize.symm

namespace Scanner

theorem feedAll_prefix (reporting : Bool) (front back : String) :
    (feedAll { reporting } front).tokens.toList <+: (tokenize (front ++ back)).toList := by
  have new : Coherent { reporting } := .initial
  have coherent := foldl_feed_coherent new front.toList
  obtain ⟨ts, scanned, _⟩ := Munch.of_run coherent back.toList
  rw [← run_tokens reporting, run, feedAll_eq, feedAll_eq, String.toList_append,
    List.foldl_append, scanned]
  exact List.prefix_append _ _

theorem dropLast_prefix (text : String) :
    (tokenize text).toList.dropLast <+: (feedAll { reporting := false } text).tokens.toList := by
  have new : Coherent { reporting := false } := .initial
  have coherent := foldl_feed_coherent new text.toList
  rw [tokenize, run, feedAll_eq, finish_eq coherent, closed_tokens]
  -- The end of the text closes one token at most.
  rcases pending_cases coherent with ⟨_, none⟩ | ⟨t, one, _⟩
  · rw [none, List.append_nil]
    exact List.dropLast_prefix _
  · refine ⟨[], ?_⟩
    rw [one, List.append_nil, List.dropLast_concat]

end Scanner

/-- Parts that no token joins are tokenized apart. Of any two parts, the first gives all
its tokens but the last to the whole, and a scan all that it emits before its text ends. -/
theorem tokenize_split (front back : String) :
    (Apart front.toList back.toList →
        tokenize (front ++ back) = tokenize front ++ tokenize back) ∧
      (tokenize front).toList.dropLast <+: (tokenize (front ++ back)).toList ∧
      ∀ reporting : Bool, (Scanner.feedAll { reporting } front).tokens.toList <+:
        (tokenize (front ++ back)).toList := by
  refine ⟨tokenize_append, ?_, fun reporting => Scanner.feedAll_prefix reporting front back⟩
  exact (Scanner.dropLast_prefix front).trans (Scanner.feedAll_prefix false front back)

/-- A keyword that ends at the cut is one on both sides of it. -/
theorem tokenize_split_keyword : Apart "x>int".toList "=>1".toList ∧
    tokenize ("x>int" ++ "=>1") = tokenize "x>int" ++ tokenize "=>1" := by
  have apart : Apart "x>int".toList "=>1".toList := by decide
  exact ⟨apart, (tokenize_split "x>int" "=>1").1 apart⟩

end ScriptScan
