import ScriptScan.Text.Digits
import ScriptScan.Text.Hidden

/-! Characters and texts in quotes, as messages show them. -/
namespace ScriptScan.Text

/-- What stands for a character between quotes: itself, or an escape where it would
break the line or could not be seen. -/
def escaped (quote c : Char) : String :=
  if c = '\x00' then "\\0"
  else if c = '\t' then "\\t"
  else if c = '\r' then "\\r"
  else if c = '\n' then "\\n"
  else if c = '\\' ∨ c = quote then String.ofList ['\\', c]
  else if isHidden c then "\\u\x7b" ++ hex c.toNat ++ "\x7d"
  else String.singleton c

/-- A character in single quotes. A double quote needs no escape there. -/
def quoted (c : Char) : String := "'" ++ escaped '\'' c ++ "'"

/-- A text in double quotes. A single quote needs no escape there. -/
def quotedText (s : String) : String :=
  s.foldl (fun out c => out ++ escaped '"' c) "\"" ++ "\""

end ScriptScan.Text
