import ScriptScan.Json.Read
import ScriptScan.Json.Write
import ScriptScan.Token.Basic

/-! Tokens in JSON: an object with kind and text. -/
namespace ScriptScan

def Kind.toJson (k : Kind) : Json := .text k.name

def Kind.ofJson? (j : Json) : Option Kind := j.choice?.bind ofName?

namespace Token

def toJson (t : Token) : Json := .object [("kind", t.kind.toJson), ("text", .text t.text)]

def ofJson? (j : Json) : Option Token := do
  let [some kind, some text] ← j.record? ["kind", "text"] | none
  some ⟨← Kind.ofJson? kind, ← text.text?⟩

end Token
end ScriptScan
