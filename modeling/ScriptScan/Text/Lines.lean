/-! Lines of a text. A line feed ends a line; a text that does not end in one has
a last line without it. -/
namespace ScriptScan.Text

def lineFeeds (text : String) : Nat :=
  text.foldl (fun n c => if c = '\n' then n + 1 else n) 0

def endsInLineFeed (text : String) : Bool :=
  text.foldl (fun _ c => c = '\n') false

/-- The number of lines: one for each line feed, and one more for a rest after
the last of them. -/
def lineCount (text : String) : Nat :=
  if text.isEmpty || endsInLineFeed text then lineFeeds text else lineFeeds text + 1

end ScriptScan.Text
