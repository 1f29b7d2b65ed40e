import ScriptScan.Proofs.JsonRecords
import ScriptScan.Proofs.Layout
import ScriptScan.Proofs.Runs

/-! Reading printed tokens back. The JSON format gives back any tokens. The plain one has no
escapes: it relies on there being no line feed in a lexeme, and on no kind having a tab in its
name. -/
namespace ScriptScan

namespace Kind

theorem name_injective {k l : Kind} (same : k.name = l.name) : k = l := by
  cases k <;> cases l <;> first | rfl | exact absurd same (by decide)

/-- Names of kinds are written in letters alone. -/
theorem isLetter_of_mem_name (k : Kind) : ∀ c ∈ k.name.toList, isLetter c = true := by
  rw [← List.all_eq_true]
  cases k <;> decide

theorem not_mem_name (other : isLetter c = false) (k : Kind) : c ∉ k.name.toList := by
  intro member
  simp [k.isLetter_of_mem_name c member] at other

theorem Spells.unbroken {k : Kind} (spelled : k.Spells text) : '\n' ∉ text.toList := by
  intro broken
  exact absurd (spelled.isTokenChar '\n' broken) (by decide)

end Kind

namespace Token

/-- A token as far as it is printed. -/
def entry (t : Token) : String × String := (t.kind.name, t.text)

theorem entry_injective (t u : Token) (same : t.entry = u.entry) : t = u := by
  obtain ⟨name, text⟩ := Prod.mk.inj same
  cases t
  cases u
  cases Kind.name_injective name
  cases text
  rfl

/-- Reads a line: what stands before its first tab, and what stands behind it. -/
def ofLine? (line : List Char) : Option (String × String) :=
  match line.dropWhile (· ≠ '\t') with
  | [] => none
  | _ :: text => some (String.ofList (line.takeWhile (· ≠ '\t')), String.ofList text)

/-- Reads an output of lines. Each has a line feed at its end, so that there is nothing
behind the last line feed. -/
def ofLines? (out : String) : Option (List (String × String)) :=
  let parts := out.toList.splitOn '\n'
  if parts.getLast? = some [] then parts.dropLast.mapM ofLine? else none

def listOfJson? : Json → Option (List Token)
  | .list items => items.mapM ofJson?
  | _ => none

/-- Reads an output of JSON. -/
def ofJsonText? (out : String) : Option (List Token) := (Json.read? out).bind listOfJson?

theorem toList_line (t : Token) : t.line.toList = t.kind.name.toList ++ '\t' :: t.text.toList := by
  rw [line, String.toList_append, String.toList_append, List.append_assoc]
  rfl

theorem ofLine?_line (t : Token) : ofLine? t.line.toList = some t.entry := by
  have name : ∀ c ∈ t.kind.name.toList, decide (c ≠ '\t') = true := by
    intro c member
    refine decide_eq_true ?_
    rintro rfl
    exact t.kind.not_mem_name (by decide) member
  rw [ofLine?, toList_line, List.dropWhile_append_of_pos name, List.takeWhile_append_of_pos name]
  simp [entry]

theorem line_unbroken {t : Token} (unbroken : '\n' ∉ t.text.toList) : '\n' ∉ t.line.toList := by
  have name : '\n' ∉ t.kind.name.toList := t.kind.not_mem_name (by decide)
  simp [toList_line, name, unbroken]

end Token

namespace Command
open Token

theorem toList_tokenText (tokens : Array Token) :
    (tokenText false tokens).toList = tokens.toList.flatMap fun t => t.line.toList ++ ['\n'] := by
  have added (ts : List Token) (out : String) :
      (ts.foldl (fun out t => out ++ t.line ++ "\n") out).toList =
        out.toList ++ ts.flatMap fun t => t.line.toList ++ ['\n'] := by
    induction ts generalizing out with
    | nil => simp
    | cons t ts ih => simp [ih]
  simpa [tokenText] using added tokens.toList ""

/-- There is one part for each line, and an empty one behind the last. -/
theorem splitOn_lines {ts : List Token} (unbroken : ∀ t ∈ ts, '\n' ∉ t.text.toList) :
    (ts.flatMap fun t => t.line.toList ++ ['\n']).splitOn '\n' =
      ts.map (fun t => t.line.toList) ++ [[]] := by
  induction ts with
  | nil => rfl
  | cons t ts ih =>
    obtain ⟨first, others⟩ := List.forall_mem_cons.mp unbroken
    rw [List.flatMap_cons, List.append_assoc, List.singleton_append, List.splitOn_append_cons_self,
      List.splitOn_eq_singleton (line_unbroken first), ih others]
    rfl

theorem ofLines?_tokenText {tokens : Array Token}
    (unbroken : ∀ t ∈ tokens.toList, '\n' ∉ t.text.toList) :
    ofLines? (tokenText false tokens) = some (tokens.toList.map entry) := by
  have lines : (ofLine? ∘ fun t : Token => t.line.toList) = fun t => pure t.entry :=
    funext ofLine?_line
  rw [ofLines?, toList_tokenText, splitOn_lines unbroken]
  simp only [List.getLast?_concat, if_true, List.dropLast_concat, List.mapM_map, lines,
    List.mapM_pure]
  rfl

/-- With a line feed in a token, its lines are those of other tokens. -/
example : tokenText false #[⟨.identifier, "a\nInt\tint"⟩] =
    tokenText false #[⟨.identifier, "a"⟩, ⟨.intKeyword, "int"⟩] := by decide

theorem ofJsonText?_tokenText (tokens : Array Token) :
    ofJsonText? (tokenText true tokens) = some tokens.toList := by
  have plain : (Json.list (tokens.toList.map toJson)).Plain := by
    apply Json.Plain.list
    simp [plain_toJson]
  have items : (ofJson? ∘ toJson) = fun t => pure t := funext Token.ofJson?_toJson
  rw [ofJsonText?, tokenText, if_pos rfl, plain.read?_indented, Option.bind_some,
    listOfJson?, List.mapM_map, items, List.mapM_pure, List.map_id']
  rfl

theorem tokenize_unbroken (text : String) :
    ∀ t ∈ (tokenize text).toList, '\n' ∉ t.text.toList :=
  fun t member => (tokenize_wellFormed text t member).unbroken

theorem tokenText_inj {tokens tokens' : Array Token}
    (unbroken : ∀ t ∈ tokens.toList, '\n' ∉ t.text.toList)
    (unbroken' : ∀ t ∈ tokens'.toList, '\n' ∉ t.text.toList) (json : Bool) :
    tokenText json tokens = tokenText json tokens' ↔ tokens = tokens' := by
  refine ⟨fun same => Array.toList_inj.mp ?_, congrArg _⟩
  cases json with
  | true =>
    have read := congrArg ofJsonText? same
    rw [ofJsonText?_tokenText, ofJsonText?_tokenText] at read
    exact Option.some.inj read
  | false =>
    have read := congrArg ofLines? same
    rw [ofLines?_tokenText unbroken, ofLines?_tokenText unbroken'] at read
    have entries : tokens.toList.map entry = tokens'.toList.map entry := Option.some.inj read
    exact (List.map_inj_right entry_injective).mp entries

/-- Whatever text a run has loaded, its standard output is that of the tokens of the text. Of
any text, the lines give back the kind and the text of each token and the JSON gives back the
tokens, so that in either format outputs are the same only if the tokens are. -/
theorem tokenText_readsBack (text text' : String) (json : Bool) :
    (∀ ⦃i input o c⦄, i.Configured input o c → source? i c.file input = some text →
      (run i).output = tokenText o.json (tokenize text)) ∧
    ofLines? (tokenText false (tokenize text)) =
      some ((tokenize text).toList.map fun t => (t.kind.name, t.text)) ∧
    ofJsonText? (tokenText true (tokenize text)) = some (tokenize text).toList ∧
    (tokenText json (tokenize text) = tokenText json (tokenize text') ↔
      tokenize text = tokenize text') := by
  refine ⟨?_, ofLines?_tokenText (tokenize_unbroken text), ofJsonText?_tokenText _,
    tokenText_inj (tokenize_unbroken text) (tokenize_unbroken text') json⟩
  intro i input o c configured loaded
  rw [(run_presents configured).output, loaded]
  rfl

/-- A run on standard input. -/
theorem tokenText_readsBack_standard :
    let ts : List Token :=
      [⟨.intKeyword, "int"⟩, ⟨.identifier, "a"⟩, ⟨.greaterEqual, ">="⟩, ⟨.integer, "1"⟩]
    let text := layout "\t" (spaced ts)
    let absent : FileAccess :=
      ⟨false, false, .error ⟨.notFound, ""⟩, .error ⟨.notFound, ""⟩, .error ⟨.notFound, ""⟩, none⟩
    let i : Invocation :=
      ⟨"", ["-"], [], ⟨text.toUTF8, none⟩, fun _ => absent, ⟨"0.00", fun _ => "0.00"⟩⟩
    let c := RuntimeConfig.default []
    (i.Configured "-" {} c ∧ source? i c.file "-" = some text) ∧
      (run i).output = "Int\tint\nIdentifier\ta\nGE\t>=\nIntLiteral\t1\n" ∧
      ofLines? (run i).output =
        some [("Int", "int"), ("Identifier", "a"), ("GE", ">="), ("IntLiteral", "1")] := by
  intro ts text absent i c
  have configured : i.Configured "-" {} c := ⟨⟨_, rfl, rfl⟩, by decide, rfl⟩
  have loaded : source? i c.file "-" = some text :=
    source?_of_holds_toUTF8 (.standard rfl) (by decide) (by decide)
  have tokens : tokenize text = ts.toArray := by
    have printable : Printable "\t" (spaced ts) := printable_spaced (by decide) (by decide)
    rw [tokenize_layout printable, map_fst_spaced]
  obtain ⟨printed, lines, _⟩ := tokenText_readsBack text text false
  rw [printed configured loaded]
  refine ⟨⟨configured, loaded⟩, ?_, lines.trans ?_⟩
  · rw [tokens]
    decide
  · rw [tokens]
    rfl

end Command
end ScriptScan
