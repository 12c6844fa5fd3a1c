import SampleLibrary.Toml.Numbers
import SampleLibrary.Toml.Tables

/-!
# Values of TOML

Besides strings, numbers and dates there are lists, which may go over several lines, and tables within
a line.
-/

namespace SampleLibrary.Toml

open Config (Tree)

def skipSpaces (cs : List Char) : List Char := cs.dropWhile isSpace

/-- The text without blanks, ends of lines and comments in front. -/
def skipFilling : (inComment : Bool) → List Char → List Char
  | _, [] => []
  | _, '\n' :: rest => skipFilling false rest
  | _, '\r' :: '\n' :: rest => skipFilling false rest
  | true, c :: rest => if isPlain c then skipFilling true rest else c :: rest
  | false, c :: rest =>
    if isSpace c then skipFilling false rest
    else if c == '#' then skipFilling true rest
    else c :: rest

def isBare (c : Char) : Bool := Text.isAsciiAlphanumeric c || c == '_' || c == '-'

def readName (cs : List Char) : Option (String × List Char) :=
  if cs.head? == some '"' || cs.head? == some '\'' then readShort cs
  else
    let name := cs.takeWhile isBare
    if name.isEmpty then none else some (String.ofList name, cs.dropWhile isBare)

/-- Names and lists nest less deep than this. -/
def depthLimit : Nat := 80

def readNames : (fuel : Nat) → Reader (List String)
  | 0, _ => none
  | fuel + 1, cs => do
    let (name, rest) ← readName (skipSpaces cs)
    match skipSpaces rest with
    | '.' :: rest => (readNames fuel rest).map fun (names, rest) => (name :: names, rest)
    | rest => return ([name], rest)

def readKey : Reader (List String) := readNames (depthLimit - 1)

def readItems (read : Reader Tree) : (fuel : Nat) → Reader (List Tree)
  | 0, _ => none
  | fuel + 1, cs =>
    match skipFilling false cs with
    | ']' :: rest => some ([], rest)
    | cs => do
      let (item, rest) ← read cs
      match skipFilling false rest with
      | ',' :: rest => (readItems read fuel rest).map fun (items, rest) => (item :: items, rest)
      | ']' :: rest => return ([item], rest)
      | _ => none

/-- Reads the entries of a table within a line up to its brace, adding to `table`. -/
def readEntries (read : Reader Tree) (table : Table) : (fuel : Nat) → Reader Table
  | 0, _ => none
  | fuel + 1, cs => do
    let (names, rest) ← readKey cs
    let (_, rest) ← readChar '=' rest
    let (value, rest) ← read (skipSpaces rest)
    let table ← table.assign names value
    match skipSpaces rest with
    | ',' :: rest => readEntries read table fuel rest
    | '}' :: rest => return (table, rest)
    | _ => none

def readInline (read : Reader Tree) : Reader Tree := fun cs =>
  match skipSpaces cs with
  | '}' :: rest => some (.table [], rest)
  | cs => (readEntries read .empty (cs.length + 1) cs).map fun (table, rest) => (table.toTree, rest)

/-- Reads a value with lists and tables up to `depth` levels deep. -/
def readValueTo : (depth : Nat) → Reader Tree
  | depth, '[' :: rest =>
    match depth with
    | 0 => none
    | depth + 1 =>
      (readItems (readValueTo depth) (rest.length + 1) rest).map fun (items, rest) =>
        (.list items, rest)
  | depth, '{' :: rest =>
    match depth with
    | 0 => none
    | depth + 1 => readInline (readValueTo depth) rest
  | _, 't' :: 'r' :: 'u' :: 'e' :: rest => some (.boolean true, rest)
  | _, 'f' :: 'a' :: 'l' :: 's' :: 'e' :: rest => some (.boolean false, rest)
  | _, cs =>
    if cs.head? == some '"' || cs.head? == some '\'' then
      (readString cs).map fun (text, rest) => (.text text, rest)
    else readNumberOrDate cs

def readValue : Reader Tree := readValueTo (depthLimit - 1)

end SampleLibrary.Toml
