import ScriptScan.Token.Basic

/-! The alphabet of the language. Only ASCII letters and digits take part in names
and numbers; four blanks separate tokens; a few signs are operators. Keywords are
words with a kind of their own. -/
namespace ScriptScan

def isLetter (c : Char) : Bool := ('a' ≤ c && c ≤ 'z') || ('A' ≤ c && c ≤ 'Z')

def isDigit (c : Char) : Bool := '0' ≤ c && c ≤ '9'

def isWordChar (c : Char) : Bool := isLetter c || isDigit c

def isBlank (c : Char) : Bool := c = ' ' || c = '\t' || c = '\n' || c = '\r'

namespace Keyword

def table : List (String × Kind) := [("int", .intKeyword)]

/-- The kind of a text that is exactly a keyword. -/
def kind? (text : String) : Option Kind := (table.find? (·.1 = text)).map (·.2)

/-- Whether `text` followed by `c` is still the start of some keyword. -/
def continues (text : String) (c : Char) : Bool :=
  table.any fun (word, _) => (text.toList ++ [c]).isPrefixOf word.toList

def starts (c : Char) : Bool := table.any fun (word, _) => word.toList.head? = some c

end Keyword
end ScriptScan
