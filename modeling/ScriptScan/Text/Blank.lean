/-! White space in the sense of the Unicode property `White_Space`. -/
namespace ScriptScan.Text

/-- The ranges of code points with the property, ascending. -/
def whiteSpaceRanges : List (Nat × Nat) :=
  [(0x09, 0x0D), (0x20, 0x20), (0x85, 0x85), (0xA0, 0xA0), (0x1680, 0x1680), (0x2000, 0x200A),
   (0x2028, 0x2029), (0x202F, 0x202F), (0x205F, 0x205F), (0x3000, 0x3000)]

def isWhiteSpace (c : Char) : Bool :=
  whiteSpaceRanges.any fun (low, high) => low ≤ c.toNat && c.toNat ≤ high

/-- Nothing but white space, or nothing at all. -/
def isBlank (text : String) : Bool := text.all isWhiteSpace

end ScriptScan.Text
