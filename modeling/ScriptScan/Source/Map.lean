import ScriptScan.Source.Span

/-! The line table of a source text, and messages printed under the line they
speak of. The table holds the byte offset at which each line starts. -/
namespace ScriptScan

structure SourceMap where
  text : String
  lineStarts : Array Nat

namespace SourceMap

/-- A line starts at the beginning and after every line feed. -/
def ofText (text : String) : SourceMap where
  text := text
  lineStarts := (text.foldl (fun (offset, starts) c =>
    let next := offset + c.utf8Size
    (next, if c = '\n' then starts.push next else starts)) (0, #[0])).2

def lineCount (m : SourceMap) : Nat := m.lineStarts.size

def dropCarriageReturns (line : String) : String :=
  String.ofList (line.toList.reverse.dropWhile (· == '\r')).reverse

/-- Line `n`, counted from one, without its line feed and without the carriage
returns before it. -/
def line? (m : SourceMap) (n : Nat) : Option String := do
  guard (n ≠ 0)
  let first ← m.lineStarts[n - 1]?
  let last := match m.lineStarts[n]? with
    | some next => next - 1
    | none => m.text.utf8ByteSize
  dropCarriageReturns <$> Text.slice? m.text first last

/-- Blanks as wide as the start of `line`; tabs stay tabs, so that what follows
stands under the right column. -/
def lead (line : String) (width : Nat) : String :=
  String.ofList ((line.toList.take width).map fun c => if c = '\t' then '\t' else ' ')

def carets (s : Span) : Nat :=
  if s.first.line = s.last.line then max 1 (s.last.column - s.first.column) else 1

/-- A message with its place and, where the place has a line, that line with
carets under the stretch. -/
def annotate (m : SourceMap) (s : Span) (message : String) : String :=
  let head := s!"error: {message}\n  --> {s.first.line}:{s.first.column}\n"
  match m.line? s.first.line with
  | none => head
  | some line =>
    let number := toString s.first.line
    let gutter := "".pushn ' ' number.length
    head ++ s!"{gutter} |\n{number} | {line}\n" ++
      s!"{gutter} | {lead line (s.first.column - 1)}" ++ "".pushn '^' (carets s) ++ "\n"

end SourceMap
end ScriptScan
