import SampleLibrary.Toml.Values

/-!
# TOML documents

A document is a sequence of lines: headers, which say to which table the following lines belong, and
names with their values. `readDocument?` returns the tree of a document.
-/

namespace SampleLibrary.Toml

open Config (Tree)

/-- Reads what may stand at the end of a line: blanks, a comment, and the end itself. -/
def afterLine? (cs : List Char) : Option (List Char) :=
  let rest := skipSpaces cs
  let rest := if rest.head? == some '#' then rest.dropWhile isPlain else rest
  if rest.isEmpty then some [] else afterNewline? rest

/-- A document under way: the tables read so far, and the one to which the next lines belong. -/
structure Draft where
  root : Table := .empty
  /-- The names of the current table; none for the root. -/
  path : List String := []
  /-- Is the current table an item of a list of tables? -/
  isItem : Bool := false
  current : Table := .empty

namespace Draft

def close (name : String) (isItem : Bool) (table : Table) (parent : Table) : Option Table :=
  match isItem, parent.get? name with
  | true, none => some (parent.put name (.tables [table.entries]))
  | true, some (.tables all) => some (parent.put name (.tables (table.entries :: all)))
  | false, none => some (parent.put name (.table .header table.entries))
  | _, _ => none

def finish (d : Draft) : Option Table :=
  match d.path.reverse with
  | [] => some d.current
  | name :: above => d.root.descend .passing (close name d.isItem d.current) above.reverse

/-- Starts a table with a header of its own. What was opened in passing belongs to it; a table that is
there already cannot be opened again. -/
def openTable (path : List String) (d : Draft) : Option Draft := do
  let root ← d.finish
  match path.reverse with
  | [] => none
  | name :: above =>
    let parent ← lookup above.reverse root
    match parent.get? name with
    | none => return ⟨root, path, false, .empty⟩
    | some (.table .passing entries) =>
      let root ← root.descend .passing (fun t => some (t.erase name)) above.reverse
      return ⟨root, path, false, ⟨.header, entries⟩⟩
    | some _ => none
where
  /-- The table at the end of a path, as far as it is there. -/
  lookup : List String → Table → Option Table
  | [], t => some t
  | name :: names, t =>
    match (t.get? name).getD (.table .passing []) with
    | .value _ => none
    | .tables [] => none
    | .tables (latest :: _) => lookup names ⟨.header, latest⟩
    | .table origin entries => lookup names ⟨origin, entries⟩

def openItem (path : List String) (d : Draft) : Option Draft := do
  let root ← d.finish
  match path.reverse with
  | [] => none
  | name :: above =>
    match (← openTable.lookup above.reverse root).get? name with
    | none => return ⟨root, path, true, .empty⟩
    | some (.tables _) => return ⟨root, path, true, .empty⟩
    | some _ => none

def assign (names : List String) (v : Tree) (d : Draft) : Option Draft :=
  (d.current.assign names v).map fun current => { d with current }

end Draft

def readHeader (d : Draft) : List Char → Option (Draft × List Char)
  | '[' :: rest => do
    let (path, rest) ← readKey rest
    let (_, rest) ← readChar ']' rest
    let (_, rest) ← readChar ']' rest
    return (← d.openItem path, ← afterLine? rest)
  | cs => do
    let (path, rest) ← readKey cs
    let (_, rest) ← readChar ']' rest
    return (← d.openTable path, ← afterLine? rest)

def readAssignment (d : Draft) (cs : List Char) : Option (Draft × List Char) := do
  let (names, rest) ← readKey cs
  let (_, rest) ← readChar '=' rest
  let (value, rest) ← readValue (skipSpaces rest)
  return (← d.assign names value, ← afterLine? rest)

def readLines : (fuel : Nat) → Draft → List Char → Option Draft
  | 0, _, _ => none
  | fuel + 1, d, cs =>
    match skipSpaces cs with
    | [] => some d
    | '[' :: rest => do
      let (d, rest) ← readHeader d rest
      readLines fuel d rest
    | c :: rest =>
      if c == '#' || c == '\n' || c == '\r' then do
        readLines fuel d (← afterLine? (c :: rest))
      else do
        let (d, rest) ← readAssignment d (c :: rest)
        readLines fuel d rest

/-- The text without a mark for the order of bytes in front. -/
def dropMark (cs : List Char) : List Char :=
  match cs with
  | '\uFEFF' :: rest => rest
  | _ => cs

def readDocument? (text : String) : Option Tree := do
  let cs := dropMark text.toList
  let d ← readLines (cs.length + 1) {} cs
  return (← d.finish).toTree

end SampleLibrary.Toml
