import SampleLibrary.Verifier.Run

/-!
# Checking item tags

The third stage: what refers to items, tags and custom keys refers to ones that are there, and the
counters of tags are right. Counters are put right without asking if the run has removed items.
-/

namespace SampleLibrary

namespace Tables

def linksWithoutTag (t : Tables) : List Link := t.links.filter fun l => !t.hasTag l.tag

def linksWithoutItem (t : Tables) : List Link := t.links.filter fun l => !t.hasItem l.item

/-- Does a custom value belong to an item and a key that are there? -/
def isAnchored (t : Tables) (c : CustomRow) : Bool := t.hasItem c.item && t.hasKey c.key

def strayCustoms (t : Tables) : List CustomRow := t.customs.filter fun c => !t.isAnchored c

def dropLinksWithoutTag (t : Tables) : Tables :=
  { t with links := t.links.filter fun l => t.hasTag l.tag }

def dropLinksWithoutItem (t : Tables) : Tables :=
  { t with links := t.links.filter fun l => t.hasItem l.item }

/-- The tables without custom values that lack an item or a key. -/
def dropStrayCustoms (t : Tables) : Tables :=
  { t with customs := t.customs.filter fun c => t.isAnchored c }

/-- The tags with wrong counters, by name, with what they should say. -/
def wrongCounts (t : Tables) : List (String × Int × Nat) :=
  (t.sortedTags.map fun r => (r.name, r.count, t.actualCount r)).filter fun (_, said, really) =>
    said != (really : Int)

end Tables

namespace Verifier

/-- Numbers in order and without repetitions. -/
def distinctSorted (ns : List Int) : List Int := (ns.mergeSort (· ≤ ·)).eraseReps

/-- Offers to remove `count` rows, if there are any, that have something wrong with them. -/
def offerRemoval (lib : Library) (observer : Observer) (count : Nat) (p : Problem)
    (change : Tables → Tables) : Step := fun r =>
  if count == 0 then .ok r
  else r.offer observer p fun r => (r.edit lib change).map fun r => r.note fun report =>
    { report with linksRemoved := report.linksRemoved + count }

def recount (lib : Library) : Step := fun r =>
  (r.edit lib Tables.recount).map fun r => r.note fun report =>
    { report with tagCountsFixed := true }

/-- Puts the counters right if the run has removed items, and otherwise if that is wanted. -/
def checkCounts (lib : Library) (observer : Observer) : Step := fun r =>
  if 0 < r.report.itemsRemoved then recount lib r
  else if r.tables.wrongCounts.isEmpty then .ok r
  else r.offer observer (.wrongCounts r.tables.wrongCounts) (recount lib)

/-- The third stage. -/
def checkLinks (lib : Library) (observer : Observer) : Step := fun r => do
  let r := r.nextStage "Checking item tags"
  let broken := r.tables.linksWithoutTag
  let r := r.advance 25
  let r ← offerRemoval lib observer broken.length
    (.linksWithoutTag (distinctSorted (broken.map (·.tag)))) Tables.dropLinksWithoutTag r
  let broken := r.tables.linksWithoutItem
  let r := r.advance 50
  let r ← offerRemoval lib observer broken.length
    (.linksWithoutItem (distinctSorted (broken.map (·.item)))) Tables.dropLinksWithoutItem r
  let stray := r.tables.strayCustoms.length
  let r := r.advance 75
  let r ← offerRemoval lib observer stray (.strayCustomValues stray) Tables.dropStrayCustoms r
  let r ← checkCounts lib observer r
  return r.advance 100

end Verifier

end SampleLibrary
