import SampleLibrary.Config.Tree

/-!
# Tables of a TOML document

A document builds its tables step by step. Tables can be opened by a header, by dotted names, or
because a header names something below them; what may be added later depends on how a table was
opened, and no name is given a value twice.
-/

namespace SampleLibrary.Toml

open Config (Tree)

/-- How a table has been opened. -/
inductive Origin where
  /-- By a header of its own. -/
  | header
  /-- By a header for something below it. -/
  | passing
  /-- By dotted names. -/
  | dotted
  deriving Repr, DecidableEq

/-- What stands under a name while a document is read. -/
inductive Entry where
  | value (v : Tree)
  | table (origin : Origin) (entries : List (String × Entry))
  /-- A list of tables, latest first. -/
  | tables (all : List (List (String × Entry)))

/-- A table while a document is read. -/
structure Table where
  origin : Origin
  entries : List (String × Entry)

namespace Table

def empty : Table := ⟨.header, []⟩

def get? (t : Table) (name : String) : Option Entry := t.entries.lookup name

def erase (t : Table) (name : String) : Table :=
  { t with entries := t.entries.filter (·.1 != name) }

def put (t : Table) (name : String) (e : Entry) : Table :=
  { t.erase name with entries := (t.erase name).entries ++ [(name, e)] }

/-- Changes the table at the end of a path, opening the tables on the way. Dotted names do not lead
into tables that have a header of their own. -/
def descend (opening : Origin) (change : Table → Option Table) : List String → Table → Option Table
  | [], t => change t
  | name :: names, t =>
    match (t.get? name).getD (.table opening []) with
    | .value _ => none
    | .tables [] => none
    | .tables (latest :: others) => do
      let inner ← descend opening change names ⟨.header, latest⟩
      return t.put name (.tables (inner.entries :: others))
    | .table origin entries =>
      if opening == .dotted && origin == .header then none
      else do
        let inner ← descend opening change names ⟨origin, entries⟩
        return t.put name (.table inner.origin inner.entries)

def assignHere (name : String) (v : Tree) (t : Table) : Option Table :=
  if (t.get? name).isSome then none else some (t.put name (.value v))

/-- Gives a value to new dotted names. A table that a header has opened in passing does not take it. -/
def assign (t : Table) (names : List String) (v : Tree) : Option Table :=
  match names.reverse with
  | [] => none
  | [name] => t.assignHere name v
  | name :: above => descend .dotted (fun inner =>
      if inner.origin == .dotted then inner.assignHere name v else none) above.reverse t

mutual

def entryTree : Entry → Tree
  | .value v => v
  | .table _ entries => .table (entryTrees entries)
  | .tables all => .list (tableTrees all).reverse

def entryTrees : List (String × Entry) → List (String × Tree)
  | [] => []
  | (name, e) :: rest => (name, entryTree e) :: entryTrees rest

def tableTrees : List (List (String × Entry)) → List Tree
  | [] => []
  | entries :: rest => .table (entryTrees entries) :: tableTrees rest

end

def toTree (t : Table) : Tree := .table (entryTrees t.entries)

end Table

end SampleLibrary.Toml
