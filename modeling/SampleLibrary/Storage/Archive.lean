import SampleLibrary.Query.Words
import SampleLibrary.Storage.Tables

/-!
# Tables as a text

Tables are written row by row, each row in a line of its own. A row is a list of words, the first of
which tells the table; as a word of the whole text it is quoted once more, so that a line end in a cell
does no harm. Reading takes up the rows again one after the other.
-/

namespace SampleLibrary.Archive

open Decimal

def ofWords (words : List String) : String := Text.join " " (words.map Query.quote)

def words? (text : String) : Option (List String) := (Query.split text).toOption

/-- A cell as a word: its kind and what it holds. A float is written as its sign and its rank. -/
def ofCell : Cell → String
  | .empty => "-"
  | .integer n => "i" ++ toString n.toInt
  | .real .nan => "-"
  | .real (.signed negative rank) => (if negative then "n" else "p") ++ toString rank.val
  | .text s => "t" ++ s

def cell? (word : String) : Option Cell :=
  match word.toList with
  | ['-'] => some .empty
  | 'i' :: cs => (readInt64? cs).map .integer
  | 'n' :: cs => (readNat64? cs).map fun rank => .real (.ofRank true rank)
  | 'p' :: cs => (readNat64? cs).map fun rank => .real (.ofRank false rank)
  | 't' :: cs => some (.text (String.ofList cs))
  | _ => none

/-- The rows that tell the version of the tables. Without the table for it there is none. -/
def versionRows : VersionEntry → List (List String)
  | .noTable => []
  | .noRow => [["version"]]
  | .version n => [["version", toString n]]

def numberingRow (n : Numbering) : List String :=
  "numbering" :: [n.workplaces, n.items, n.tags, n.keys].map toString

def itemRow (i : Item) : List String :=
  "item" :: toString i.id :: ofCell i.workplace :: Field.all.map fun f => ofCell (i.cell f)

def customRow (c : CustomRow) : List String :=
  "custom" :: toString c.item :: toString c.key :: c.value.toList

def rows (t : Tables) : List (List String) :=
  versionRows t.version ++ [numberingRow t.numbering]
    ++ t.workplaces.map (fun name => ["workplace", name])
    ++ t.items.map itemRow
    ++ t.tags.map (fun r => ["tag", toString r.id, r.name, toString r.count])
    ++ t.links.map (fun l => ["link", toString l.item, toString l.tag])
    ++ t.keys.map (fun k => ["key", toString k.id, k.name])
    ++ t.customs.map customRow
    ++ t.documents.map fun d => ["document", toString d.item, d.content]

def write (t : Tables) : String :=
  String.join ((rows t).map fun row => Query.quote (ofWords row) ++ "\n")

def item? (id : Int) (workplace : String) (cells : List String) : Option Item := do
  let workplace ← cell? workplace
  let cells ← cells.mapM cell?
  return ⟨id, workplace, fun f => ((Field.all.zip cells).lookup f).getD .empty⟩

def addRow (t : Tables) : List String → Option Tables
  | ["version"] => some { t with version := .noRow }
  | ["version", n] => do return { t with version := .version (← n.toInt?) }
  | "numbering" :: numbers => do
    match ← numbers.mapM String.toInt? with
    | [workplaces, items, tags, keys] =>
      return { t with numbering := ⟨workplaces, items, tags, keys⟩ }
    | _ => none
  | ["workplace", name] => some { t with workplaces := t.workplaces ++ [name] }
  | "item" :: id :: workplace :: cells => do
    return { t with items := t.items ++ [← item? (← id.toInt?) workplace cells] }
  | ["tag", id, name, count] => do
    return { t with tags := t.tags ++ [⟨← id.toInt?, name, ← count.toInt?⟩] }
  | ["link", item, tag] => do
    return { t with links := t.links ++ [⟨← item.toInt?, ← tag.toInt?⟩] }
  | ["key", id, name] => do return { t with keys := t.keys ++ [⟨← id.toInt?, name⟩] }
  | ["custom", item, key] => do
    return { t with customs := t.customs ++ [⟨← item.toInt?, ← key.toInt?, none⟩] }
  | ["custom", item, key, value] => do
    return { t with customs := t.customs ++ [⟨← item.toInt?, ← key.toInt?, some value⟩] }
  | ["document", item, content] => do
    return { t with documents := t.documents ++ [⟨← item.toInt?, content⟩] }
  | _ => none

def read? (text : String) : Option Tables := do
  (← (← words? text).mapM words?).foldlM addRow { version := .noTable }

end SampleLibrary.Archive
