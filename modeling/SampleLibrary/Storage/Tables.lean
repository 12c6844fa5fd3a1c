import SampleLibrary.FullText
import SampleLibrary.Storage.Cell
import SampleLibrary.Tag

/-!
# The tables of a library

The database has a table of items and tables of tags, custom keys and documents that refer to items
by number. Numbers are given out in ascending order and never again, not even after a row is gone.

Storing a record adds rows to all tables (`Tables.addItem`), reading it back joins them again
(`Tables.record`), and deleting an item takes along whatever refers to it (`Tables.deleteItems`).
-/

namespace SampleLibrary

/-- A row of the items. Items without workplace are in the library. -/
structure Item where
  id : Int
  workplace : Cell
  cell : Field → Cell

/-- A tag, with the number of library items that carry it. -/
structure TagRow where
  id : Int
  name : String
  count : Int
  deriving Repr, DecidableEq

/-- An item carries a tag. -/
structure Link where
  item : Int
  tag : Int
  deriving Repr, DecidableEq

/-- A custom key. -/
structure KeyRow where
  id : Int
  name : String
  deriving Repr, DecidableEq

/-- The value of an item under a custom key. -/
structure CustomRow where
  item : Int
  key : Int
  value : Option String
  deriving Repr, DecidableEq

/-- The document of an item. -/
structure DocumentRow where
  item : Int
  content : String
  deriving Repr, DecidableEq

/-- The entry with the version of the tables: the table for it may be gone or empty. -/
inductive VersionEntry where
  | noTable
  | noRow
  | version (n : Int)
  deriving Repr, DecidableEq

/-- The highest numbers given out so far. -/
structure Numbering where
  workplaces : Int := 0
  items : Int := 0
  tags : Int := 0
  keys : Int := 0
  deriving Repr, DecidableEq

/-- All tables. Rows stand in the order in which they were added. -/
structure Tables where
  version : VersionEntry
  workplaces : List String := []
  items : List Item := []
  tags : List TagRow := []
  links : List Link := []
  keys : List KeyRow := []
  customs : List CustomRow := []
  documents : List DocumentRow := []
  numbering : Numbering := {}

def Item.inLibrary (i : Item) : Bool := i.workplace == .empty

def Item.text? (i : Item) (f : Field) : Option String := (i.cell f).asText?

namespace Tables

/-- The version of tables that this library writes and reads. -/
def currentVersion : Int := 1

/-- The tables of a new library: there is the tag for the whole library and nothing else. -/
def fresh : Tables where
  version := .version currentVersion
  tags := [⟨1, Tag.root, 0⟩]
  numbering := { tags := 1 }

def libraryItems (t : Tables) : List Item := t.items.filter Item.inLibrary

def libraryItem? (t : Tables) (md5 : String) : Option Item :=
  t.libraryItems.find? fun i => i.cell .md5 == .text md5

def tag? (t : Tables) (name : String) : Option TagRow := t.tags.find? fun r => r.name == name

def tagsOf (t : Tables) (item : Int) : List String :=
  (t.links.filter fun l => l.item == item).flatMap fun l =>
    (t.tags.filter fun r => r.id == l.tag).map (·.name)

/-- The custom values of an item by key, with the empty text for a missing value. -/
def customsOf (t : Tables) (item : Int) : List (String × String) :=
  (t.customs.filter fun c => c.item == item).flatMap fun c =>
    (t.keys.filter fun k => k.id == c.key).map fun k => (k.name, c.value.getD "")

/-- The record of an item, read back from all tables. Of its tags only the leaves are kept. -/
def record (t : Tables) (i : Item) : Metadata :=
  let fixed := Field.all.foldl (fun m f => m.set f (i.cell f).toValue) Metadata.empty
  let tagged := fixed.setTags (Tag.leaves (.ofList (t.tagsOf i.id))).toList
  (t.customsOf i.id).foldl (fun m (key, value) => m.setCustom key value) tagged

/-- The highest number that an item can have. -/
def maxNumber : Int := Int64.maxValue.toInt

def nextItem (t : Tables) : Int := (t.items.map (·.id)).foldl max t.numbering.items + 1

/-- One item more with this tag: the tag is added or its counter goes up. A number is used up either
way. -/
def countTag (t : Tables) (name : String) : Int × Tables :=
  let next := t.numbering.tags + 1
  let t := { t with numbering := { t.numbering with tags := next } }
  match t.tag? name with
  | some row =>
    (row.id, { t with tags := t.tags.map fun r =>
      if r.name == name then { r with count := r.count + 1 } else r })
  | none => (next, { t with tags := t.tags ++ [⟨next, name, 1⟩] })

/-- The item carries a tag more. -/
def addTag (item : Int) (t : Tables) (name : String) : Tables :=
  let (tag, t) := t.countTag name
  { t with links := t.links ++ [⟨item, tag⟩] }

/-- The number of a custom key, which is added if it is new. A number is used up either way. -/
def keyNumber (t : Tables) (name : String) : Int × Tables :=
  let next := t.numbering.keys + 1
  let t := { t with numbering := { t.numbering with keys := next } }
  match t.keys.find? fun k => k.name == name with
  | some row => (row.id, t)
  | none => (next, { t with keys := t.keys ++ [⟨next, name⟩] })

def addCustom (item : Int) (t : Tables) (entry : String × String) : Tables :=
  let (key, t) := t.keyNumber entry.1
  { t with customs := t.customs ++ [⟨item, key, some entry.2⟩] }

def rowOf (id : Int) (m : Metadata) : Item where
  id := id
  workplace := .empty
  cell := fun f => (Cell.ofValue (m.get? f)).toColumn f

/-- The tables with an item for a record that carries these tags, and the number of the item. -/
def addItem (t : Tables) (m : Metadata) (tags : TagSet) : Int × Tables :=
  let id := t.nextItem
  let t := { t with
    items := t.items ++ [rowOf id m]
    numbering := { t.numbering with items := id } }
  let t := (t.countTag Tag.root).2
  let t := tags.toList.foldl (addTag id) t
  let t := m.custom.toList.foldl (addCustom id) t
  (id, { t with documents := t.documents ++ [⟨id, FullText.document m tags⟩] })

/-- Does an item carry every tag once only, and is there one value for each of its keys? Rows that somebody
else has left behind may speak of an item before it is there. -/
def refersOnce (t : Tables) (item : Int) : Bool :=
  (t.links.filter fun l => l.item == item).Nodup
    && ((t.customs.filter fun c => c.item == item).map (·.key)).Nodup

/-- The tables without some items and without whatever refers to them. -/
def deleteItems (t : Tables) (ids : List Int) : Tables :=
  let gone (id : Int) : Bool := ids.contains id && t.items.any fun i => i.id == id
  { t with
    items := t.items.filter fun i => !gone i.id
    links := t.links.filter fun l => !gone l.item
    customs := t.customs.filter fun c => !gone c.item
    documents := t.documents.filter fun d => !gone d.item }

def sortedTags (t : Tables) : List TagRow := t.tags.mergeSort fun a b => a.name ≤ b.name

def hasItem (t : Tables) (id : Int) : Bool := t.items.any fun i => i.id == id

def hasTag (t : Tables) (id : Int) : Bool := t.tags.any fun r => r.id == id

def hasKey (t : Tables) (id : Int) : Bool := t.keys.any fun k => k.id == id

/-- The number of library items that really carry a tag; all of them for the tag of the library. -/
def actualCount (t : Tables) (r : TagRow) : Nat :=
  if r.name == Tag.root then t.libraryItems.length
  else ((t.links.filter fun l => l.tag == r.id).flatMap fun l =>
    t.libraryItems.filter fun i => i.id == l.item).length

/-- The tables with all counters right, and with the tag for the whole library. -/
def recount (t : Tables) : Tables :=
  let next := t.numbering.tags + 1
  let t := { t with numbering := { t.numbering with tags := next } }
  let t := if (t.tag? Tag.root).isSome then t
    else { t with tags := t.tags ++ [⟨next, Tag.root, 0⟩] }
  { t with tags := t.tags.map fun r => { r with count := t.actualCount r } }

end Tables

end SampleLibrary
