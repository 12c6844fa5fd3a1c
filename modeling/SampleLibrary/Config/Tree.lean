import SampleLibrary.Decimal.Binary

/-!
# Trees of settings

Settings come as trees of named values, whatever they are written in. A tree can be laid over another
one: tables are joined, and everything else is replaced.
-/

namespace SampleLibrary.Config

/-- A value, a list or a table of settings. -/
inductive Tree where
  | text (s : String)
  | integer (n : Int)
  | real (x : Binary64)
  | boolean (b : Bool)
  | date (s : String)
  | list (items : List Tree)
  | table (entries : List (String × Tree))

namespace Tree

def put (entries : List (String × Tree)) (name : String) (value : Tree) : List (String × Tree) :=
  if entries.any (·.1 == name) then
    entries.map fun (n, v) => if n == name then (n, value) else (n, v)
  else entries ++ [(name, value)]

mutual

def overlay (below : Tree) : Tree → Tree
  | .table entries =>
    match below with
    | .table old => .table (overlayEntries old entries)
    | _ => .table entries
  | value => value

/-- The entries of a table with those of another one laid over them. -/
def overlayEntries (below : List (String × Tree)) : List (String × Tree) → List (String × Tree)
  | [] => below
  | (name, value) :: rest =>
    let laid := match below.lookup name with
      | some old => overlay old value
      | none => value
    overlayEntries (put below name laid) rest

end

/-- The tree in which a value lies at the end of a path of names. -/
def nest (value : Tree) : List String → Tree
  | [] => value
  | name :: names => .table [(name, nest value names)]

end Tree

end SampleLibrary.Config
