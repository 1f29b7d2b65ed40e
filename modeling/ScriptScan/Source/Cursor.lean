/-! A reader over the characters of a source text that can be sent back to a
marked place. Both places stay within the text by their types. -/
namespace ScriptScan

structure Cursor where
  chars : Array Char
  position : Nat
  marked : Nat
  position_le : position ≤ chars.size := by omega
  marked_le : marked ≤ chars.size := by omega

namespace Cursor

def ofText (text : String) : Cursor where
  chars := text.toList.toArray
  position := 0
  marked := 0

def length (c : Cursor) : Nat := c.chars.size

def isEmpty (c : Cursor) : Bool := c.chars.isEmpty

def peek? (c : Cursor) : Option Char := c.chars[c.position]?

def ready (c : Cursor) : Bool := c.position < c.chars.size

/-- The next character and the cursor behind it; at the end nothing moves. -/
def read (c : Cursor) : Option Char × Cursor :=
  if h : c.position < c.chars.size then
    (some c.chars[c.position], { c with position := c.position + 1, position_le := h })
  else (none, c)

/-- Moves on by `n` characters, or by all that are left, and says by how many. -/
def skip (c : Cursor) (n : Nat) : Nat × Cursor :=
  let moved := min n (c.chars.size - c.position)
  (moved, { c with
    position := c.position + moved
    position_le := by have := c.position_le; omega })

def mark (c : Cursor) : Cursor := { c with marked := c.position, marked_le := c.position_le }

/-- Back to the marked place, which is the start until a mark is set. -/
def reset (c : Cursor) : Cursor := { c with position := c.marked, position_le := c.marked_le }

end Cursor
end ScriptScan
