import SampleLibrary.Metadata.Basic

/-!
# Records as JSON

The members of an object stand in the order of the fields; what is not set is left out. Floats are
written with the fewest digits that read back, with an exponent when they are very large or very
small.
-/

namespace SampleLibrary.Json

open Decimal

def escapedChar (c : Char) : List Char :=
  if c == '"' then ['\\', '"']
  else if c == '\\' then ['\\', '\\']
  else if c == '\n' then ['\\', 'n']
  else if c == '\r' then ['\\', 'r']
  else if c == '\t' then ['\\', 't']
  else if c == '\x08' then ['\\', 'b']
  else if c == '\x0c' then ['\\', 'f']
  else if c.toNat < 32 then
    let ds := Text.hexDigits c.toNat
    '\\' :: 'u' :: (List.replicate (4 - ds.length) '0' ++ ds)
  else [c]

def string (s : String) : String := String.ofList ('"' :: s.toList.flatMap escapedChar ++ ['"'])

/-- Digits and exponent as a JSON number: positional if the leading digit stands for a power of ten
from `10 ^ -5` to `10 ^ 15`, always with a place after the point, and scientific otherwise. -/
def decimal (d : Numeral) : List Char :=
  let ds := natDigits d.digits
  let lead := d.exponent + (ds.length : Int) - 1
  if d.digits == 0 then "0.0".toList
  else if -5 ≤ lead && lead ≤ 15 then
    if d.exponent ≥ 0 then d.plain ++ ".0".toList else d.plain
  else
    let mantissa := match ds with
      | [] => []
      | [x] => [x]
      | x :: rest => x :: '.' :: rest
    mantissa ++ ['e', if lead < 0 then '-' else '+'] ++ natDigits lead.natAbs

/-- A float as JSON, with the even digits if there is a choice; what is not finite is `null`. -/
def float : Binary64 → String
  | .nan => "null"
  | .signed negative rank =>
    if rank.val < infiniteRank then
      let digits := decimal ((Binary.ofRank rank.val).shortest .even)
      String.ofList (if negative then '-' :: digits else digits)
    else "null"

/-- A JSON document; numbers, strings and `null` as they are written. -/
inductive Tree where
  | atom (text : String)
  | array (items : List Tree)
  | object (members : List (String × Tree))

namespace Tree

mutual

def compact : Tree → String
  | atom text => text
  | array items => "[" ++ Text.join "," (compactItems items) ++ "]"
  | object members => "\x7b" ++ Text.join "," (compactMembers members) ++ "\x7d"

def compactItems : List Tree → List String
  | [] => []
  | item :: items => compact item :: compactItems items

def compactMembers : List (String × Tree) → List String
  | [] => []
  | (key, value) :: members => (string key ++ ":" ++ compact value) :: compactMembers members

end

/-- Parts on lines of their own between two brackets, `depth` steps in; nothing if there are none. -/
def block (opening closing : String) (depth : Nat) (parts : List String) : String :=
  let indent (n : Nat) : String := "\n" ++ String.ofList (List.replicate (2 * n) ' ')
  if parts.isEmpty then opening ++ closing
  else opening ++ indent (depth + 1) ++ Text.join ("," ++ indent (depth + 1)) parts
    ++ indent depth ++ closing

mutual

/-- The document with every item and member on a line of its own, `depth` steps in. -/
def pretty (depth : Nat) : Tree → String
  | atom text => text
  | array items => block "[" "]" depth (prettyItems (depth + 1) items)
  | object members => block "\x7b" "\x7d" depth (prettyMembers (depth + 1) members)

def prettyItems (depth : Nat) : List Tree → List String
  | [] => []
  | item :: items => pretty depth item :: prettyItems depth items

def prettyMembers (depth : Nat) : List (String × Tree) → List String
  | [] => []
  | (key, value) :: members =>
    (string key ++ ": " ++ pretty depth value) :: prettyMembers depth members

end

def ofText (s : String) : Tree := atom (string s)

end Tree

def value : Value → Tree
  | .text s => .ofText s
  | .integer n => .atom (toString n.toInt)
  | .float x => .atom (float x)

/-- The members for those of the given fields that a record has. -/
def members (m : Metadata) (fields : List Field) : List (String × Tree) :=
  fields.filterMap fun f => (m.get? f).map fun v => (f.toName, value v)

end SampleLibrary.Json

namespace SampleLibrary

def Metadata.toTree (m : Metadata) : Json.Tree :=
  .object (Json.members m Field.all
    ++ (if m.custom.isEmpty then []
      else [("custom", .object (m.custom.toList.map fun (k, v) => (k, .ofText v)))])
    ++ [("tags", .array (m.tags.toList.map .ofText))])

def Metadata.toJson (m : Metadata) : String := m.toTree.compact

def FileInfo.toJson (info : FileInfo) : String :=
  Json.Tree.compact (.object (("path", .ofText info.path) :: Json.members (Metadata.ofFileInfo info)
    [.sampleRate, .channels, .duration, .format, .formatSubtype, .peakLevel, .md5]))

end SampleLibrary
