import ScriptScan.Toml.Basic

/-! Tables of a TOML document while it is read. A table may be defined once: by a
header, by the parts of dotted keys, or as a value. Which of these made a table says
what may still be added to it. -/
namespace ScriptScan.Toml

inductive Node
  | value (v : Toml)
  /-- A table that headers or keys made. An `implied` one was only passed through, and
  a `dotted` one was made by a dotted key. -/
  | table (implied dotted : Bool) (entries : List (String × Node))
  /-- The tables of a list, the last one first. -/
  | tables (elements : List (List (String × Node)))
deriving Inhabited

abbrev Entries := List (String × Node)

namespace Entries

def find (entries : Entries) (key : String) : Option Node :=
  (entries.find? (·.1 = key)).map (·.2)

/-- Puts `node` in the place of what `key` has. -/
def replace (entries : Entries) (key : String) (node : Node) : Entries :=
  entries.map fun (k, n) => if k = key then (k, node) else (k, n)

def add (entries : Entries) (key : String) (node : Node) : Entries := entries ++ [(key, node)]

/-- Changes the table that `path` leads to, and makes the tables on the way that do
not exist. The change is told whether a dotted key made its table. A dotted path may
not enter a table that a header defined; no path enters a value. -/
def along (asDotted : Bool) (change : Bool → Entries → Option Entries) :
    List String → Bool → Entries → Option Entries
  | [], dotted, entries => change dotted entries
  | key :: path, _, entries =>
    match entries.find key with
    | none => (along asDotted change path asDotted []).map fun made =>
        entries.add key (.table true asDotted made)
    | some (.value _) => none
    | some (.tables []) => none
    | some (.tables (last :: earlier)) =>
      (along asDotted change path false last).map fun last =>
        entries.replace key (.tables (last :: earlier))
    | some (.table implied dotted inner) =>
      if asDotted && !implied then none
      else (along asDotted change path dotted inner).map fun inner =>
        entries.replace key (.table implied dotted inner)

/-- Adds a value under a key that is new in its table. A plain key may not be added
to a table that a dotted key made, nor a dotted key end in a table made otherwise. -/
def insertHere (plain : Bool) (key : String) (v : Toml) (dotted : Bool) (entries : Entries) :
    Option Entries :=
  if dotted = plain then none
  else match entries.find key with
    | some _ => none
    | none => some (entries.add key (.value v))

/-- Adds a value under a key of one or more parts. -/
def insert (entries : Entries) (key : List String) (v : Toml) : Option Entries :=
  match key.getLast? with
  | none => none
  | some name =>
    let path := key.dropLast
    along true (insertHere path.isEmpty name v) path false entries

/-- Defines a table by its header. -/
def defineHere (key : String) (_ : Bool) (entries : Entries) : Option Entries :=
  match entries.find key with
  | none => some (entries.add key (.table false false []))
  | some (.table true false inner) => some (entries.replace key (.table false false inner))
  | some _ => none

/-- Adds another table to a list of tables. -/
def extendHere (key : String) (_ : Bool) (entries : Entries) : Option Entries :=
  match entries.find key with
  | none => some (entries.add key (.tables [[]]))
  | some (.tables elements) => some (entries.replace key (.tables ([] :: elements)))
  | some _ => none

end Entries

mutual

def Node.toValue : Node → Toml
  | .value v => v
  | .table _ _ entries => .table (entriesToValues entries)
  | .tables elements => .list (elementsToValues [] elements)

def entriesToValues : List (String × Node) → List (String × Toml)
  | [] => []
  | (k, n) :: rest => (k, n.toValue) :: entriesToValues rest

/-- The tables of a list in the order of the document; `after` holds the later ones. -/
def elementsToValues (after : List Toml) : List (List (String × Node)) → List Toml
  | [] => after
  | entries :: earlier => elementsToValues (.table (entriesToValues entries) :: after) earlier

end

def Entries.toValue (entries : Entries) : Toml := .table (entriesToValues entries)

/-- A document as far as it is read: its tables, and the header that keys belong to. -/
structure Tree where
  root : Entries := []
  header : List String := []

namespace Tree

/-- Changes the table that holds the last part of `path`. -/
def atLast (t : Tree) (path : List String) (change : String → Bool → Entries → Option Entries) :
    Option Tree :=
  match path.getLast? with
  | none => none
  | some name => (Entries.along false (change name) path.dropLast false t.root).map fun root =>
      { root, header := path }

def openTable (t : Tree) (path : List String) : Option Tree := t.atLast path Entries.defineHere

def openElement (t : Tree) (path : List String) : Option Tree := t.atLast path Entries.extendHere

/-- Adds a value to the table of the last header. -/
def insert (t : Tree) (key : List String) (v : Toml) : Option Tree :=
  (Entries.along false (fun _ entries => entries.insert key v) t.header false t.root).map
    fun root => { t with root := root }

end Tree
end ScriptScan.Toml
