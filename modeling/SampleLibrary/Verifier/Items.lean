import SampleLibrary.Verifier.Run

/-!
# Checking items

The first stage: every item of the library has its file, and the counter for the whole library is
right. Items without a file can be removed.
-/

namespace SampleLibrary.Verifier

def itemPath (lib : Library) (i : Item) : String :=
  Blob.path lib.base ((i.text? .md5).getD "") (i.text? .format)

/-- Checks one item, the `number`-th of `total`, and adds it to those that are to be removed if that is
wanted. -/
def checkItem (lib : Library) (observer : Observer) (total : Nat) (state : List Int × Run)
    (entry : Item × Nat) : List Int × Run :=
  let (removed, r) := state
  let (i, number) := entry
  let r := r.advance (100 * number / max total 1)
  let path := itemPath lib i
  if r.files.exists? path then (removed, r)
  else match r.ask observer (.missingFile i.id ((i.text? .name).getD "") path) with
    | (true, r) => (removed ++ [i.id], r)
    | (false, r) => (removed, r)

/-- Checks items one after the other, and returns those that are to be removed. -/
def checkEachItem (lib : Library) (observer : Observer) (items : List Item) (r : Run) :
    List Int × Run :=
  (items.zipIdx 1).foldl (checkItem lib observer items.length) ([], r)

/-- Remarks on a counter for the whole library that is not the number of its items. -/
def checkCounter (counter : Option Int) (items : Nat) (r : Run) : Run :=
  match counter with
  | some said => if said == (items : Int) then r else r.remark (.wrongItemCounter said items)
  | none => r

def removeItems (lib : Library) (ids : List Int) : Step := fun r =>
  if ids.isEmpty then .ok r
  else (r.edit lib (·.deleteItems ids)).map fun r => r.note fun report =>
    { report with itemsRemoved := report.itemsRemoved + ids.length }

/-- The first stage. -/
def checkItems (lib : Library) (observer : Observer) : Step := fun r => do
  let r := r.nextStage "Checking items"
  let counter := (r.tables.tag? Tag.root).map (·.count)
  let r := if counter.isNone then r.remark .missingRootTag else r
  let items := r.tables.libraryItems.mergeSort fun a b => a.id ≤ b.id
  let (removed, r) := checkEachItem lib observer items r
  let r := r.note fun report => { report with itemsChecked := items.length }
  let r := checkCounter counter items.length r
  let r ← removeItems lib removed r
  return r.advance 100

end SampleLibrary.Verifier
