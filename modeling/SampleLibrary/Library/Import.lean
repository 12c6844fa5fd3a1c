import SampleLibrary.Library.Basic

/-!
# Importing samples

A record with a checksum and a path becomes an item, unless the library has an item with that
checksum. Its file can be copied into the library. An import that fails leaves the tables as they
were.
-/

namespace SampleLibrary.Library

/-- The checksum and the path of a record that can be imported. -/
def requireSource (m : Metadata) : Except LibraryError (String × String) := do
  let md5 ← requireMd5 m "md5 is required for import"
  match m.path with
  | some path =>
    if path.isEmpty then .error (.invalidItem "path is required for import") else .ok (md5, path)
  | none => .error (.invalidItem "path is required for import")

/-- The record as it is stored: it tells where the sample came from, and if the file is copied the
path is gone. -/
def stored (m : Metadata) (path : String) (copy : Bool) : Metadata :=
  { m with source := some ("file:" ++ path), path := if copy then none else m.path }

/-- Copies a file into the library. If that fails, nothing is left at its place. -/
def storeBlob (fs : Files) (source target : String) : Except FileError Unit × Files :=
  match fs.makeDirsAt ((Path.parent? target).getD []).reverse with
  | (.error e, fs) => (.error e, fs)
  | (.ok (), fs) =>
    match fs.copy source target with
    | .ok fs => (.ok (), fs)
    | .error e => (.error e, discard fs target)

/-- The tables with an item more, or the reason why there is none. -/
def addRecord (lib : Library) (fs : Files) (m : Metadata) (copy : Bool) :
    Except LibraryError (Int × Tables) := do
  let (md5, path) ← requireSource m
  let t ← lib.tables fs
  match t.libraryItem? md5 with
  | some existing => .error (.conflict md5 ((existing.text? .name).getD ""))
  | none =>
    let (id, t) := t.addItem (stored m path copy) (Tag.expand m.tags.toList)
    if lib.isWritable fs && id ≤ Tables.maxNumber && t.refersOnce id then .ok (id, t)
    else .error .database

def importOne (lib : Library) (m : Metadata) (copy : Bool) (fs : Files) :
    Except LibraryError Int × Files :=
  match lib.addRecord fs m copy with
  | .error e => (.error e, fs)
  | .ok (id, t) =>
    if copy then
      match storeBlob fs (m.path.getD "") (Blob.path lib.base (m.md5.getD "") m.format) with
      | (.error e, fs) => (.error (.io e), fs)
      | (.ok (), fs) => (.ok id, lib.commit fs t)
    else (.ok id, lib.commit fs t)

/-- The name under which an outcome is counted. -/
def outcomeLabel : Except LibraryError Int → String
  | .ok _ => "imported"
  | .error e => if e.isConflict then "conflict" else "failed"

def importFile (lib : Library) (m : Metadata) (copy : Bool) (w : World) :
    Except LibraryError Int × World :=
  let (outcome, files) := lib.importOne m copy w.files
  (outcome, { w with files, metrics := w.metrics.addImport (outcomeLabel outcome) })

/-- A record whose checksum is in the library already. -/
structure Conflict where
  path : String
  md5 : String
  existingName : String
  deriving Repr, DecidableEq

/-- A record that cannot be imported for another reason. -/
structure Failure where
  path : String
  reason : String
  deriving Repr, DecidableEq

/-- What became of some records. -/
structure ImportReport where
  imported : List (String × Int) := []
  conflicts : List Conflict := []
  failed : List Failure := []
  deriving Repr, DecidableEq

def ImportReport.skipped (r : ImportReport) : Nat := r.conflicts.length + r.failed.length

/-- The report with the outcome for one more record; some errors end the whole import. -/
def ImportReport.add (r : ImportReport) (path : String) :
    Except LibraryError Int → Except LibraryError ImportReport
  | .ok id => .ok { r with imported := r.imported ++ [(path, id)] }
  | .error (.conflict md5 existingName) =>
    .ok { r with conflicts := r.conflicts ++ [⟨path, md5, existingName⟩] }
  | .error e =>
    if e.isFatal || e == .closed then .error e
    else .ok { r with failed := r.failed ++ [⟨path, e.message⟩] }

def importFrom (lib : Library) (copy : Bool) (r : ImportReport) :
    List Metadata → World → Except LibraryError ImportReport × World
  | [], w => (.ok r, w)
  | m :: ms, w =>
    let (outcome, w) := lib.importFile m copy w
    match r.add (m.path.getD "") outcome with
    | .ok r => importFrom lib copy r ms w
    | .error e => (.error e, w)

/-- Imports records one after the other, and goes on past those that cannot be imported. -/
def importFiles (lib : Library) (ms : List Metadata) (copy : Bool) (w : World) :
    Except LibraryError ImportReport × World :=
  lib.importFrom copy {} ms w

end SampleLibrary.Library
