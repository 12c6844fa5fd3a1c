import SampleLibrary.Storage.Tables

/-!
# Edits from outside

Somebody else may change the tables of a library. Such edits keep what the tables demand of single
rows, but nobody sees to it that rows refer to rows that are there.
-/

namespace SampleLibrary

/-- An edit of the tables. -/
inductive Edit where
  | link (item tag : Cell)
  | custom (item key value : Cell)
  | tagCount (count name : Cell)
  | addTag (name count : Cell)
  | deleteTag (name : Cell)
  | deleteItem (id : Cell)
  | emptyCustoms (item : Cell)
  | setVersion (version : Cell)
  | clearVersion
  | dropVersion
  | addWorkplace (name : Cell)
  | setItem (column : String) (value id : Cell)
  deriving Repr, DecidableEq

/-- The tables do not allow the edit. -/
structure EditRefused where
  deriving Repr, DecidableEq

namespace Tables

def number (c : Cell) : Except EditRefused Int :=
  match c.toIntegerColumn with
  | .integer n => .ok n.toInt
  | _ => .error {}

def text (c : Cell) : Except EditRefused String :=
  match c.toTextColumn with
  | .text s => .ok s
  | _ => .error {}

def require (holds : Bool) : Except EditRefused Unit := if holds then .ok () else .error {}

def setCell (i : Item) (column : String) (value : Cell) : Except EditRefused Item :=
  if column == "id" then (number value).map fun id => { i with id }
  else if column == "workplace_id" then .ok { i with workplace := value.toIntegerColumn }
  else match Field.ofName? column with
    | some f =>
      let stored := value.toColumn f
      if f == .md5 && stored == .empty then .error {}
      else .ok { i with cell := fun g => if g == f then stored else i.cell g }
    | none => .error {}

/-- No two items have one number, and no two library items one checksum. -/
def unambiguous (items : List Item) : Bool :=
  (items.map (·.id)).Nodup
    && ((items.filter Item.inLibrary).map fun i => i.cell .md5).Nodup

/-- The number of rows that an edit touches, and the tables after it. -/
def edit (t : Tables) : Edit → Except EditRefused (Nat × Tables)
  | .link item tag => do
    let l : Link := ⟨← number item, ← number tag⟩
    require (!t.links.contains l)
    return (1, { t with links := t.links ++ [l] })
  | .custom item key value => do
    let c : CustomRow := ⟨← number item, ← number key, value.toTextColumn.asText?⟩
    require (!t.customs.any fun d => d.item == c.item && d.key == c.key)
    return (1, { t with customs := t.customs ++ [c] })
  | .tagCount count name =>
    let touched (r : TagRow) : Bool := Cell.text r.name == name.toTextColumn
    if t.tags.any touched then
      (number count).map fun n => (t.tags.countP touched, { t with
        tags := t.tags.map fun r => if touched r then { r with count := n } else r })
    else .ok (0, t)
  | .addTag name count => do
    let next := t.numbering.tags + 1
    let row : TagRow := ⟨next, ← text name, ← number count⟩
    require ((t.tag? row.name).isNone)
    return (1, { t with tags := t.tags ++ [row], numbering := { t.numbering with tags := next } })
  | .deleteTag name =>
    let gone (r : TagRow) : Bool := Cell.text r.name == name.toTextColumn
    .ok (t.tags.countP gone, { t with tags := t.tags.filter (!gone ·) })
  | .deleteItem id =>
    let gone (n : Int) : Bool := (Cell.integer (.ofInt n)) == id.toIntegerColumn
    .ok (t.items.countP (gone ·.id), { t with
      items := t.items.filter (!gone ·.id)
      documents := t.documents.filter fun d => !(gone d.item && t.hasItem d.item) })
  | .emptyCustoms item =>
    let touched (c : CustomRow) : Bool := (Cell.integer (.ofInt c.item)) == item.toIntegerColumn
    .ok (t.customs.countP touched, { t with
      customs := t.customs.map fun c => if touched c then { c with value := none } else c })
  | .setVersion version =>
    match t.version with
    | .noTable => .error {}
    | .noRow => .ok (0, t)
    | .version _ => (number version).map fun n => (1, { t with version := .version n })
  | .clearVersion =>
    match t.version with
    | .noTable => .error {}
    | .noRow => .ok (0, t)
    | .version _ => .ok (1, { t with version := .noRow })
  | .dropVersion =>
    match t.version with
    | .noTable => .error {}
    | _ => .ok (0, { t with version := .noTable })
  | .addWorkplace name => do
    let name ← text name
    require (!t.workplaces.contains name)
    return (1, { t with workplaces := t.workplaces ++ [name] })
  | .setItem column value id => do
    let touched (i : Item) : Bool := (Cell.integer (.ofInt i.id)) == id.toIntegerColumn
    let items ← t.items.mapM fun i => if touched i then setCell i column value else pure i
    require (unambiguous items)
    return (t.items.countP touched, { t with items })

end Tables

end SampleLibrary
