import SampleLibrary.Config.Tree
import SampleLibrary.Decimal.Reading
import SampleLibrary.Text.Split
import SampleLibrary.Toml.Strings

/-!
# Settings from the environment

A variable whose name starts with `SAMPLEDRAWER_` is a setting; double underscores lead from tables to
what is in them. The text of a variable is read as a value if it looks like one: truth values, numbers,
quoted texts, lists and tables. What does not read as a value to its end is a text as it stands.
-/

namespace SampleLibrary

/-- Variables with their texts. -/
abbrev Environment := List (String × String)

namespace Config

open Toml (Reader)

def isSeparator (c : Char) : Bool := [',', '{', '}', '[', ']'].contains c

def isGap (c : Char) : Bool := [' ', '\t', '\n', '\x0c', '\r'].contains c

def skipGap (cs : List Char) : List Char := cs.dropWhile isGap

/-- A word as a value: a float with a point, a whole number, or a text. -/
def wordTree (word : List Char) : Tree :=
  let float := if word.contains '.' then Decimal.readFloat? word else none
  match float, Decimal.readNat64? word, Decimal.readInt64? word with
  | some x, _, _ => .real x
  | none, some n, _ => .integer n
  | none, none, some n => .integer n.toInt
  | none, none, none => .text (String.ofList word)

/-- What stands between double quotes, with escapes as they are, and what follows. -/
def readRaw : Reader (List Char)
  | [] => none
  | '"' :: rest => some ([], rest)
  | '\\' :: c :: rest => (readRaw rest).map fun (raw, rest) => ('\\' :: c :: raw, rest)
  | c :: rest => (readRaw rest).map fun (raw, rest) => (c :: raw, rest)

/-- Reads a text between double quotes, after the first of them. -/
def readQuoted : Reader String := fun cs => do
  let (raw, rest) ← readRaw cs
  let (text, _) ← Toml.readBasic (raw ++ ['"'])
  return (String.ofList text, rest)

/-- Reads items up to a closing character; they are separated by commas, also after the last one. -/
def readItems {α : Type} (read : Reader α) (closing : Char) : (fuel : Nat) → Reader (List α)
  | 0, _ => none
  | fuel + 1, cs =>
    if cs.head? == some closing then some ([], cs.drop 1)
    else do
      let (item, rest) ← read cs
      match rest with
      | ',' :: rest => (readItems read closing fuel rest).map fun (items, rest) => (item :: items, rest)
      | c :: rest => if c == closing then some ([item], rest) else none
      | [] => none

def readName : Reader String
  | '"' :: rest => readQuoted rest
  | cs =>
    let isBare (c : Char) : Bool := Text.isAsciiAlphanumeric c || c == '_' || c == '-'
    let name := cs.takeWhile isBare
    if name.isEmpty then none else some (String.ofList name, cs.dropWhile isBare)

def readEntry (read : Reader Tree) : Reader (String × Tree) := fun cs => do
  let (name, rest) ← readName (skipGap cs)
  match skipGap rest with
  | '=' :: rest =>
    let (value, rest) ← read (skipGap rest)
    return ((name, value), skipGap rest)
  | _ => none

/-- Reads a value with lists and tables up to `depth` levels deep. -/
def readValueTo : (depth : Nat) → Reader Tree
  | depth, cs =>
    let after (read : Option (Tree × List Char)) : Option (Tree × List Char) :=
      read.map fun (value, rest) => (value, skipGap rest)
    match skipGap cs, depth with
    | 't' :: 'r' :: 'u' :: 'e' :: rest, _ => some (.boolean true, skipGap rest)
    | 'f' :: 'a' :: 'l' :: 's' :: 'e' :: rest, _ => some (.boolean false, skipGap rest)
    | '{' :: _, 0 => none
    | '[' :: _, 0 => none
    | '{' :: rest, depth + 1 =>
      after ((readItems (readEntry (readValueTo depth)) '}' (rest.length + 1) rest).map
        fun (entries, rest) =>
          (.table (entries.foldl (fun table (name, value) => Tree.put table name value) []), rest))
    | '[' :: rest, depth + 1 =>
      after ((readItems (readValueTo depth) ']' (rest.length + 1) rest).map
        fun (items, rest) => (.list items, rest))
    | '"' :: rest, _ => after ((readQuoted rest).map fun (text, rest) => (.text text, rest))
    | '\'' :: c :: '\'' :: rest, _ => some (.text (String.ofList [c]), skipGap rest)
    | '\'' :: _, _ => none
    | cs, _ =>
      let word := cs.takeWhile (!isSeparator ·)
      some (wordTree (Text.trim word), skipGap (cs.dropWhile (!isSeparator ·)))

def readVariable (text : String) : Tree :=
  match readValueTo text.length text.toList with
  | some (value, []) => value
  | _ => .text text

/-- What the names of variables with settings start with. -/
def variableStart : String := "SAMPLEDRAWER_"

/-- A double underscore turned into a dot, from the left. -/
def dotted : List Char → List Char
  | '_' :: '_' :: rest => '.' :: dotted rest
  | c :: rest => c :: dotted rest
  | [] => []

/-- The path of names to which a variable leads, if it is a setting. The variable that tells where the
settings are is none itself. -/
def variablePath? (name : String) : Option (List String) := do
  let cs := (Text.trim name.toList).map Text.asciiLower
  let rest ← Text.afterFront? (variableStart.toList.map Text.asciiLower) cs
  let key := Text.trim (dotted rest)
  let names := Text.splitAtAll (· == '.') key
  if key == "config".toList || names.any (·.isEmpty) then none
  else some (names.map String.ofList)

def ofEnvironment (env : Environment) : Tree :=
  env.foldl (fun tree (name, text) =>
    match variablePath? name with
    | some names => tree.overlay (Tree.nest (readVariable text) names)
    | none => tree) (.table [])

end Config

end SampleLibrary
