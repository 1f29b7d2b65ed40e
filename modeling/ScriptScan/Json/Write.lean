import ScriptScan.Json.Basic
import ScriptScan.Text.Digits

/-! Writing JSON: on one line without blanks, or spread over lines. Quotes,
backslashes and control characters are escaped; all else stands for itself. -/
namespace ScriptScan.Json

def putChar (out : String) (c : Char) : String :=
  if c = '"' then out ++ "\\\""
  else if c = '\\' then out ++ "\\\\"
  else if c = '\x08' then out ++ "\\b"
  else if c = '\x0c' then out ++ "\\f"
  else if c = '\n' then out ++ "\\n"
  else if c = '\r' then out ++ "\\r"
  else if c = '\t' then out ++ "\\t"
  else if c.toNat < 0x20 then out ++ "\\u" ++ Text.hexPadded 4 c.toNat
  else out.push c

def putText (out text : String) : String := (text.foldl putChar (out.push '"')).push '"'

mutual

/-- Adds a value on one line. A foreign value has no text and is written as null. -/
def put (out : String) : Json → String
  | null => out ++ "null"
  | bool b => out ++ (if b then "true" else "false")
  | nat n => out ++ toString n
  | text s => putText out s
  | list [] => out ++ "[]"
  | list (x :: xs) => (putItems (put (out.push '[') x) xs).push ']'
  | object [] => out ++ "\x7b\x7d"
  | object ((k, x) :: es) =>
    (putEntries (put ((putText (out.push '\x7b') k).push ':') x) es).push '\x7d'
  | foreign => out ++ "null"

def putItems (out : String) : List Json → String
  | [] => out
  | x :: xs => putItems (put (out.push ',') x) xs

def putEntries (out : String) : List (String × Json) → String
  | [] => out
  | (k, x) :: es => putEntries (put ((putText (out.push ',') k).push ':') x) es

end

def compact (j : Json) : String := put "" j

def newLine (out : String) (indent : Nat) : String := (out.push '\n').pushn ' ' indent

mutual

/-- Adds a value spread over lines, each item and entry on its own and two blanks
deeper than what holds it. -/
def spread (indent : Nat) (out : String) : Json → String
  | list (x :: xs) =>
    (newLine (spreadItems (indent + 2)
      (spread (indent + 2) (newLine (out.push '[') (indent + 2)) x) xs) indent).push ']'
  | object ((k, x) :: es) =>
    (newLine (spreadEntries (indent + 2)
      (spread (indent + 2)
        (putText (newLine (out.push '\x7b') (indent + 2)) k ++ ": ") x) es) indent).push '\x7d'
  | j => put out j

def spreadItems (indent : Nat) (out : String) : List Json → String
  | [] => out
  | x :: xs => spreadItems indent (spread indent (newLine (out.push ',') indent) x) xs

def spreadEntries (indent : Nat) (out : String) : List (String × Json) → String
  | [] => out
  | (k, x) :: es =>
    spreadEntries indent (spread indent (putText (newLine (out.push ',') indent) k ++ ": ") x) es

end

def indented (j : Json) : String := spread 0 "" j

end ScriptScan.Json
