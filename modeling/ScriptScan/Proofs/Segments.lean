import ScriptScan.Proofs.Acts
import ScriptScan.Proofs.Lines
import ScriptScan.Proofs.MaximalMunch
import ScriptScan.Proofs.Strays

/-! Texts scanned one behind another, with the open lexeme closed at the end of each. The
tokens are those of the texts by themselves. What was dropped, and where, is told by the
texts joined, as closing a lexeme leaves places and records alone. -/
namespace ScriptScan

theorem straysFrom_append (p : Position) (cs ds : List Char) :
    straysFrom p (cs ++ ds) = straysFrom p cs ++ straysFrom (cs.foldl Position.advance p) ds := by
  induction cs generalizing p with
  | nil => rfl
  | cons c cs ih =>
    by_cases stray : isStray c = true <;> simp [straysFrom, stray, ih]

theorem strays_append (front back : String) :
    strays (front ++ back) =
      strays front ++ straysFrom (Position.start.advanceAll front) back.toList := by
  rw [strays_eq, strays_eq, String.toList_append, straysFrom_append, Position.advanceAll_eq]

namespace Scanner
variable {s t : Scanner} {texts : List String}

/-- The acts that scan a text to its end, and close the lexeme `extra` times more. -/
def portion (text : String) (extra : Nat) : List Act :=
  text.toList.map .feed ++ List.replicate (extra + 1) .finish

/-- The acts that scan some texts one behind another, each with a number of extra closings. -/
def portions (parts : List (String × Nat)) : List Act :=
  parts.flatMap fun (text, extra) => portion text extra

/-- The scanner is done with `texts`. No token is open, and what it holds is told by them. -/
structure Done (s : Scanner) (texts : List String) : Prop where
  state : s.state = .initial
  lexeme : s.lexeme = ""
  kind : s.kind = none
  reporting : s.reporting = true
  tokens : s.tokens.toList = texts.flatMap fun text => (tokenize text).toList
  recorded : s.Recorded (strays (String.join texts))
  position : s.position = Position.start.advanceAll (String.join texts)

theorem Done.coherent (done : s.Done texts) : s.Coherent := by
  rw [Coherent, done.state, done.lexeme, done.kind]
  exact .initial

theorem Recorded.unique (first : s.Recorded found) (second : t.Recorded found) :
    s.diagnostics = t.diagnostics ∧ s.suppressed = t.suppressed :=
  ⟨Array.toList_inj.mp (first.1.trans second.1.symm), first.2.trans second.2.symm⟩

/-- There is nothing left to close. -/
theorem finish_closed (s : Scanner) : s.closed.finish = s.closed := by
  rw [finish_eq s.closed_coherent]
  simp [closed, pending]

theorem after_append (s : Scanner) (first second : List Act) :
    s.after (first ++ second) = (s.after first).after second := List.foldl_append ..

theorem after_feeds (s : Scanner) (text : String) :
    s.after (text.toList.map .feed) = s.feedAll text := by
  rw [after, List.foldl_map, feedAll_eq]
  rfl

/-- Closing more than once is closing once. -/
theorem after_finishes (coherent : s.Coherent) (extra : Nat) :
    s.after (List.replicate (extra + 1) .finish) = s.closed := by
  have rest : s.closed.after (List.replicate extra .finish) = s.closed := by
    induction extra with
    | zero => rfl
    | succ extra ih =>
      rw [List.replicate_succ, after, List.foldl_cons, act, finish_closed]
      exact ih
  rw [List.replicate_succ, after, List.foldl_cons, act, finish_eq coherent]
  exact rest

theorem after_portion (coherent : s.Coherent) (text : String) (extra : Nat) :
    s.after (portion text extra) = s.run text := by
  have fed := feedAll_coherent coherent text
  rw [portion, after_append, after_feeds, after_finishes fed, run, finish_eq fed]

theorem feedAll_reporting (coherent : s.Coherent) (text : String) :
    (s.feedAll text).reporting = s.reporting := by
  rw [feedAll_eq]
  induction text.toList generalizing s with
  | nil => rfl
  | cons c cs ih =>
    exact (ih (feed_coherent coherent c)).trans (step_spec coherent c).reporting_eq

theorem feedAll_position (coherent : s.Coherent) (text : String) :
    (s.feedAll text).position = s.position.advanceAll text := by
  have fed : (text.toList.map Act.feed).flatMap Act.fed = text.toList := by
    simp [List.flatMap_map, Act.fed]
  rw [← after_feeds, after_position coherent, fed, Position.advanceAll_eq]

/-- Between tokens a scan adds the tokens of its text, whatever came before. -/
theorem run_tokens_of_initial (coherent : s.Coherent) (initial : s.state = .initial)
    (text : String) : (s.run text).tokens.toList = s.tokens.toList ++ (tokenize text).toList := by
  obtain ⟨ts, scanned, munch⟩ := Munch.of_run coherent text.toList
  rw [coherent.lexeme_eq_empty_iff.mpr initial, String.toList_empty, List.nil_append] at munch
  have alone : ts = (tokenize text).toList := munch.unique (maximalMunch_run false text)
  rw [run, feedAll_eq, scanned, alone]

/-- A scanner that is done with some texts goes on with the next as a new one would. -/
theorem Done.run (done : s.Done texts) (text : String) : (s.run text).Done (texts ++ [text]) := by
  have joined : String.join (texts ++ [text]) = String.join texts ++ text := by simp
  have fed := feedAll_coherent done.coherent text
  have recorded := foldl_feed_recorded done.coherent done.reporting done.recorded text.toList
  rw [done.position, ← feedAll_eq, ← strays_append, ← joined] at recorded
  have tokens := run_tokens_of_initial done.coherent done.state text
  rw [Scanner.run, finish_eq fed] at tokens ⊢
  refine ⟨rfl, rfl, rfl, ?_, ?_, recorded, ?_⟩
  · exact (feedAll_reporting done.coherent text).trans done.reporting
  · rw [tokens, done.tokens, List.flatMap_append, List.flatMap_singleton]
  · rw [joined, Position.advanceAll_append, ← done.position]
    exact feedAll_position done.coherent text

theorem done_new : Done {} [] := by
  have none : strays "" = [] := by
    rw [strays_eq]
    rfl
  refine ⟨rfl, rfl, rfl, rfl, rfl, ?_, by simp [Position.advanceAll_eq]⟩
  rw [String.join_nil, none]
  exact ⟨rfl, rfl⟩

/-- The tokens apart, it matters only what text is done with, and not in which parts. -/
theorem Done.eq_of_join (first : s.Done texts) (second : t.Done texts')
    (same : String.join texts = String.join texts') :
    s = { t with tokens := (texts.flatMap fun text => (tokenize text).toList).toArray } := by
  obtain ⟨diagnostics, suppressed⟩ := first.recorded.unique (same ▸ second.recorded)
  have tokens := congrArg List.toArray first.tokens
  rw [Array.toArray_toList] at tokens
  have position := first.position.trans (same ▸ second.position.symm)
  obtain ⟨state, lexeme, kind, reporting, -, -, -⟩ := first
  obtain ⟨state', lexeme', kind', reporting', -, -, -⟩ := second
  cases s
  cases t
  simp_all only

theorem Done.after (done : s.Done texts) (parts : List (String × Nat)) :
    (s.after (portions parts)).Done (texts ++ parts.map (·.1)) := by
  induction parts generalizing s texts with
  | nil =>
    rw [List.map_nil, List.append_nil]
    exact done
  | cons part parts ih =>
    obtain ⟨text, extra⟩ := part
    rw [portions, List.flatMap_cons, ← portions, after_append, after_portion done.coherent,
      List.map_cons, ← List.singleton_append, ← List.append_assoc]
    exact ih (done.run text)

/-- Texts that are fed with one or more closings behind each are tokenized apart. But for
the tokens, the scanner ends as after one scan of the texts joined. -/
theorem after_portions (parts : List (String × Nat)) :
    after {} (portions parts) =
        { Scanner.run {} (String.join (parts.map (·.1))) with
          tokens := (parts.flatMap fun (text, _) => (tokenize text).toList).toArray } ∧
      (after {} (portions parts)).state = .initial ∧
      (after {} (portions parts)).lexeme = "" ∧
      (after {} (portions parts)).kind = none := by
  have apart : (after {} (portions parts)).Done (parts.map (·.1)) := done_new.after parts
  have whole : (Scanner.run {} (String.join (parts.map (·.1)))).Done
      [String.join (parts.map (·.1))] := done_new.run _
  refine ⟨?_, apart.state, apart.lexeme, apart.kind⟩
  rw [apart.eq_of_join whole (by simp), List.flatMap_map]

example : (after {} (portions [("in", 1), ("t=", 0)])).tokens =
    #[⟨.identifier, "in"⟩, ⟨.identifier, "t"⟩, ⟨.assign, "="⟩] := by cbv

end Scanner
end ScriptScan
