import ScriptScan.File.Access

/-! A tree of directories and files under one base directory, and the way paths are
followed in it. What lies outside the base is not known, except that it is there. -/
namespace ScriptScan

/-- Names from the base downwards. -/
abbrev Place := List String

structure FileTree where
  /-- How the base itself is written. -/
  base : String
  directories : List Place
  files : List (Place × ByteArray)

namespace FileTree

/-- Where a path leads. -/
inductive Target
  | outside
  | directory (place : Place)
  | file (place : Place) (content : ByteArray)

/-- Whether a directory stands at a place: the base, one that is named, and every one
on the way to something. -/
def hasDirectory (t : FileTree) (place : Place) : Bool :=
  place.isEmpty || t.directories.any (place.isPrefixOf ·) ||
    t.files.any fun (p, _) => place.isPrefixOf p && p ≠ place

def enter (t : FileTree) (place : Place) (name : String) : Except SystemFault Target :=
  let inner := place ++ [name]
  match t.files.find? (·.1 = inner) with
  | some (_, content) => .ok (.file inner content)
  | none => if t.hasDirectory inner then .ok (.directory inner) else .error .missing

/-- One step along a path. An empty name and a single dot stay in a directory, two dots
leave it. -/
def step (t : FileTree) (here : Target) (name : String) : Except SystemFault Target :=
  match here with
  | .file .. => .error .notDirectory
  | .outside => if ["", ".", ".."].contains name then .ok .outside else .error .missing
  | .directory place =>
    if name = "" ∨ name = "." then .ok here
    else if name = ".." then
      .ok (if place.isEmpty then .outside else .directory place.dropLast)
    else if 255 < name.utf8ByteSize then .error .nameTooLong
    else t.enter place name

/-- Follows a path from the base, or from the root if it starts with a slash. -/
def follow (t : FileTree) (path : String) : Except SystemFault Target :=
  if path.isEmpty then .error .missing
  else if path.toList.contains '\x00' then .error .nulInName
  else if 4096 ≤ path.utf8ByteSize then .error .nameTooLong
  else
    let start := if path.startsWith "/" then .outside else .directory []
    ((path.toList.splitOn '/').map String.ofList).foldlM t.step start

/-- The canonical text of a place. -/
def canonical (t : FileTree) (place : Place) : String :=
  "/".intercalate (t.base :: place)

/-- The answers for a path in the tree. -/
def access (t : FileTree) (path : String) : FileAccess :=
  match t.follow path with
  | .error f =>
    { found := false, isFile := false, canonical := .error f, size := .error f
      content := .error f, modified := none }
  | .ok (.file place content) =>
    { found := true, isFile := true, canonical := .ok (t.canonical place)
      size := .ok content.size, content := .ok content, modified := some ⟨0, 0⟩ }
  | .ok (.directory place) =>
    { found := true, isFile := false, canonical := .ok (t.canonical place), size := .ok 4096
      content := .error .isDirectory, modified := some ⟨0, 0⟩ }
  | .ok .outside =>
    { found := true, isFile := false, canonical := .error .missing, size := .ok 4096
      content := .error .isDirectory, modified := none }

end FileTree
end ScriptScan
