/-! Text measured in UTF-8 bytes: slices between two byte offsets, the longest
start of a text that fits a byte budget, and the valid start of a byte sequence.
An offset inside a character is no place to cut. -/
namespace ScriptScan.Text

/-- The text from byte `first` up to byte `last`, when both are places between
characters and in order. -/
def slice? (text : String) (first last : Nat) : Option String := do
  let start ← text.pos? ⟨first⟩
  let stop ← text.pos? ⟨last⟩
  if start ≤ stop then some (text.extract start stop) else none

/-- The longest run of leading characters with at most `budget` bytes. -/
def takeFitting (budget : Nat) : List Char → List Char
  | [] => []
  | c :: cs => if c.utf8Size ≤ budget then c :: takeFitting (budget - c.utf8Size) cs else []

/-- Cuts a text to at most `budget` bytes, at a character boundary. -/
def clip (budget : Nat) (text : String) : String :=
  if text.utf8ByteSize ≤ budget then text else String.ofList (takeFitting budget text.toList)

/-- Follows whole characters from offset `i`; `fuel` bounds the number of them. -/
def validFrom (bytes : ByteArray) : Nat → Nat → Nat
  | 0, i => i
  | fuel + 1, i =>
    match bytes.utf8DecodeChar? i with
    | some c => validFrom bytes fuel (i + c.utf8Size)
    | none => i

/-- The length of the longest start of `bytes` that is text in UTF-8. Every
character has at least one byte, so `bytes.size` steps reach the end. -/
def validLength (bytes : ByteArray) : Nat := validFrom bytes bytes.size 0

end ScriptScan.Text
