import ScriptScan.Text.Digits

/-! Quoted texts of TOML: with or without escapes, on one line or on several. The
readers take what follows the opening quotes, and put the characters before `seen`,
the last one first. -/
namespace ScriptScan.Toml

/-- A character that may stand for itself: no control but the tab. -/
def isPlain (c : Char) : Bool := c = '\t' || (0x20 ≤ c.toNat && c.toNat ≠ 0x7F)

def shortEscape? (c : Char) : Option Char :=
  if c = '"' ∨ c = '\\' then some c
  else if c = 'b' then some '\x08'
  else if c = 't' then some '\t'
  else if c = 'n' then some '\n'
  else if c = 'f' then some '\x0c'
  else if c = 'r' then some '\r'
  else none

/-- The character with the number that hexadecimal digits spell. -/
def codePoint? (digits : List Char) : Option Char :=
  let n := Text.numberOf 16 digits
  if digits.all (Text.isDigitOf 16) ∧ n.isValidChar then some (Char.ofNat n) else none

/-- On one line, with escapes. -/
def readBasic (seen : List Char) : List Char → Option (List Char × List Char)
  | [] => none
  | '"' :: cs => some (seen, cs)
  | '\\' :: 'u' :: a :: b :: c :: d :: cs =>
    match codePoint? [a, b, c, d] with
    | some x => readBasic (x :: seen) cs
    | none => none
  | '\\' :: 'U' :: a :: b :: c :: d :: e :: f :: g :: h :: cs =>
    match codePoint? [a, b, c, d, e, f, g, h] with
    | some x => readBasic (x :: seen) cs
    | none => none
  | '\\' :: e :: cs =>
    match shortEscape? e with
    | some x => readBasic (x :: seen) cs
    | none => none
  | c :: cs => if c ≠ '\\' ∧ isPlain c then readBasic (c :: seen) cs else none

/-- On one line, each character for itself. -/
def readLiteral (seen : List Char) : List Char → Option (List Char × List Char)
  | [] => none
  | '\'' :: cs => some (seen, cs)
  | c :: cs => if isPlain c then readLiteral (c :: seen) cs else none

/-- What to do with blanks and line ends: keep them, look for the line end that a
backslash announced, or leave them out after it. -/
inductive Fold
  | keep | awaiting | skipping
deriving DecidableEq

def Fold.next : Fold → Fold
  | keep => keep
  | _ => skipping

/-- A line end inside the text; one that is left out adds nothing. -/
def Fold.line (f : Fold) (seen : List Char) : List Char :=
  if f = keep then '\n' :: seen else seen

def Fold.close (f : Fold) (seen rest : List Char) : Option (List Char × List Char) :=
  if f = awaiting then none else some (seen, rest)

def Fold.escape (f : Fold) (c : Option Char) : Option Char := if f = awaiting then none else c

/-- On several lines, with escapes. Up to two quotes may stand before the three that
close the text. Nothing but blanks may stand between a backslash and the line end that
it takes away. -/
def readLongBasic (fold : Fold) (seen : List Char) : List Char → Option (List Char × List Char)
  | [] => none
  | '\n' :: cs => readLongBasic fold.next (fold.line seen) cs
  | '\r' :: '\n' :: cs => readLongBasic fold.next (fold.line seen) cs
  | '"' :: '"' :: '"' :: '"' :: '"' :: cs => fold.close ('"' :: '"' :: seen) cs
  | '"' :: '"' :: '"' :: '"' :: cs => fold.close ('"' :: seen) cs
  | '"' :: '"' :: '"' :: cs => fold.close seen cs
  | '\\' :: '\n' :: cs => if fold = .awaiting then none else readLongBasic .skipping seen cs
  | '\\' :: '\r' :: '\n' :: cs =>
    if fold = .awaiting then none else readLongBasic .skipping seen cs
  | '\\' :: 'u' :: a :: b :: c :: d :: cs =>
    match fold.escape (codePoint? [a, b, c, d]) with
    | some x => readLongBasic .keep (x :: seen) cs
    | none => none
  | '\\' :: 'U' :: a :: b :: c :: d :: e :: f :: g :: h :: cs =>
    match fold.escape (codePoint? [a, b, c, d, e, f, g, h]) with
    | some x => readLongBasic .keep (x :: seen) cs
    | none => none
  | '\\' :: e :: cs =>
    if e = ' ' ∨ e = '\t' then
      if fold = .awaiting then none else readLongBasic .awaiting seen cs
    else match fold.escape (shortEscape? e) with
      | some x => readLongBasic .keep (x :: seen) cs
      | none => none
  | c :: cs =>
    if c = ' ' ∨ c = '\t' then readLongBasic fold (if fold = .keep then c :: seen else seen) cs
    else if fold ≠ .awaiting ∧ c ≠ '\\' ∧ isPlain c then readLongBasic .keep (c :: seen) cs
    else none

/-- On several lines, each character for itself. -/
def readLongLiteral (seen : List Char) : List Char → Option (List Char × List Char)
  | [] => none
  | '\n' :: cs => readLongLiteral ('\n' :: seen) cs
  | '\r' :: '\n' :: cs => readLongLiteral ('\n' :: seen) cs
  | '\'' :: '\'' :: '\'' :: '\'' :: '\'' :: cs => some ('\'' :: '\'' :: seen, cs)
  | '\'' :: '\'' :: '\'' :: '\'' :: cs => some ('\'' :: seen, cs)
  | '\'' :: '\'' :: '\'' :: cs => some (seen, cs)
  | c :: cs => if isPlain c then readLongLiteral (c :: seen) cs else none

/-- A line end right after the opening quotes of a long text is not part of it. -/
def dropFirstLineEnd : List Char → List Char
  | '\n' :: cs => cs
  | '\r' :: '\n' :: cs => cs
  | cs => cs

def textOf (read : Option (List Char × List Char)) : Option (String × List Char) :=
  read.map fun (seen, rest) => (String.ofList seen.reverse, rest)

/-- A quoted text on one line, as keys are written too. -/
def readShort? : List Char → Option (String × List Char)
  | '"' :: cs => textOf (readBasic [] cs)
  | '\'' :: cs => textOf (readLiteral [] cs)
  | _ => none

/-- A quoted text of any kind. -/
def readQuoted? : List Char → Option (String × List Char)
  | '"' :: '"' :: '"' :: cs => textOf (readLongBasic .keep [] (dropFirstLineEnd cs))
  | '\'' :: '\'' :: '\'' :: cs => textOf (readLongLiteral [] (dropFirstLineEnd cs))
  | cs => readShort? cs

end ScriptScan.Toml
