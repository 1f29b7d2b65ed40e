import ScriptScan.Toml.Quoted
import ScriptScan.Toml.Scalar
import ScriptScan.Toml.Tree

/-! Reading TOML 1.0 documents. Keys and nested values are limited in depth. -/
namespace ScriptScan.Toml

/-- The most parts a key may have, and the most levels of lists and tables a value. -/
def depthLimit : Nat := 79

def skipBlanks (cs : List Char) : List Char := cs.dropWhile fun c => c = ' ' || c = '\t'

/-- What follows a line end. -/
def afterNewline? : List Char → Option (List Char)
  | '\n' :: cs => some cs
  | '\r' :: '\n' :: cs => some cs
  | _ => none

def skipComment : List Char → List Char
  | '#' :: cs => cs.dropWhile isPlain
  | cs => cs

/-- What follows the rest of a line on which only a comment may come. -/
def afterLine? (cs : List Char) : Option (List Char) :=
  match skipComment (skipBlanks cs) with
  | [] => some []
  | cs => afterNewline? cs

/-- Skips blanks, line ends and comments inside a list. -/
def skipFill (inComment : Bool) : List Char → Option (List Char)
  | [] => if inComment then none else some []
  | '\n' :: cs => skipFill false cs
  | '\r' :: '\n' :: cs => skipFill false cs
  | c :: cs =>
    if inComment then if isPlain c then skipFill true cs else none
    else if c = ' ' ∨ c = '\t' then skipFill false cs
    else if c = '#' then skipFill true cs
    else some (c :: cs)

def isBareKeyChar (c : Char) : Bool := c.isAlphanum || c = '_' || c = '-'

def readKeyPart? (cs : List Char) : Option (String × List Char) :=
  match cs.head? with
  | some '"' | some '\'' => readShort? cs
  | _ =>
    match cs.span isBareKeyChar with
    | ([], _) => none
    | (name, rest) => some (String.ofList name, rest)

/-- Reads the parts of a key, at most `limit` of them. -/
def readKey? : Nat → List Char → Option (List String × List Char)
  | 0, _ => none
  | limit + 1, cs => do
    let (part, rest) ← readKeyPart? (skipBlanks cs)
    match skipBlanks rest with
    | '.' :: rest =>
      let (parts, rest) ← readKey? limit rest
      some (part :: parts, rest)
    | rest => some ([part], rest)

mutual

/-- Reads a value that may hold `depth` more levels. Every step towards a value, an
item or a pair spends one of `fuel`. -/
def readValue : Nat → Nat → List Char → Option (Toml × List Char)
  | 0, _, _ => none
  | fuel + 1, depth, cs =>
    match cs with
    | '"' :: _ | '\'' :: _ => (readQuoted? cs).map fun (s, rest) => (text s, rest)
    | '[' :: rest => if depth = 0 then none else readItems fuel (depth - 1) [] rest
    | '\x7b' :: rest =>
      if depth = 0 then none
      else match skipBlanks rest with
        | '\x7d' :: rest => some (table [], rest)
        | rest => readPairs fuel (depth - 1) [] rest
    | _ =>
      let (run, rest) := scalarRun cs
      (scalar? run).map fun t => (t, rest)

/-- Reads the items of a list up to its end; `seen` holds those before, the last one
first. A comma may follow the last item. -/
def readItems : Nat → Nat → List Toml → List Char → Option (Toml × List Char)
  | 0, _, _, _ => none
  | fuel + 1, depth, seen, cs =>
    match skipFill false cs with
    | none => none
    | some (']' :: rest) => some (list seen.reverse, rest)
    | some cs =>
      match readValue fuel depth cs with
      | none => none
      | some (x, rest) =>
        match skipFill false rest with
        | some (',' :: rest) => readItems fuel depth (x :: seen) rest
        | some (']' :: rest) => some (list (x :: seen).reverse, rest)
        | _ => none

/-- Reads the pairs of a table on one line up to its end. No comma may follow the
last pair. -/
def readPairs : Nat → Nat → Entries → List Char → Option (Toml × List Char)
  | 0, _, _, _ => none
  | fuel + 1, depth, entries, cs =>
    match readKey? depthLimit cs with
    | some (key, '=' :: rest) =>
      match readValue fuel depth (skipBlanks rest) with
      | none => none
      | some (x, rest) =>
        match entries.insert key x with
        | none => none
        | some entries =>
          match skipBlanks rest with
          | ',' :: rest => readPairs fuel depth entries rest
          | '\x7d' :: rest => some (entries.toValue, rest)
          | _ => none
    | _ => none

end

/-- Reads one line, or more where a value spans them. -/
def readLine (t : Tree) (cs : List Char) : Option (Tree × List Char) :=
  match cs with
  | '[' :: '[' :: rest => do
    let (path, rest) ← readKey? depthLimit rest
    let ']' :: ']' :: rest := rest | none
    some (← t.openElement path, ← afterLine? rest)
  | '[' :: rest => do
    let (path, rest) ← readKey? depthLimit rest
    let ']' :: rest := rest | none
    some (← t.openTable path, ← afterLine? rest)
  | '#' :: _ | '\n' :: _ | '\r' :: _ => (afterLine? cs).map fun rest => (t, rest)
  | _ => do
    let (key, rest) ← readKey? depthLimit cs
    let '=' :: rest := rest | none
    let (v, rest) ← readValue (2 * rest.length + 2) depthLimit (skipBlanks rest)
    let t ← t.insert key v
    some (t, ← afterLine? rest)

/-- Reads lines to the end of the document. Every line has at least one character. -/
def readLines : Nat → Tree → List Char → Option Tree
  | 0, _, _ => none
  | fuel + 1, t, cs =>
    match skipBlanks cs with
    | [] => some t
    | cs =>
      match readLine t cs with
      | some (t, rest) => readLines fuel t rest
      | none => none

def dropByteOrderMark : List Char → List Char
  | '\ufeff' :: cs => cs
  | cs => cs

/-- The table of a whole document. -/
def read? (document : String) : Option Toml :=
  (readLines (document.length + 1) {} (dropByteOrderMark document.toList)).map (·.root.toValue)

end ScriptScan.Toml
