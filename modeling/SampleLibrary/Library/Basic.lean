import SampleLibrary.Library.Blob
import SampleLibrary.Library.Cleanup
import SampleLibrary.Metrics

/-!
# Libraries

A library is a directory with a database, with the files of samples laid out by their checksums, and
with a directory for aliases for as long as it is open. A library that has been closed does nothing.
-/

namespace SampleLibrary

/-- What a program works on: files, its counters, its number among processes, and how many
libraries it has opened so far. -/
structure World where
  files : Files
  metrics : Metrics := {}
  process : Nat
  opened : Nat := 0

/-- Why something cannot be done with a library. -/
inductive LibraryError where
  | openFailed
  | invalidDatabase
  | versionMismatch (found : Int)
  | conflict (md5 existingName : String)
  | invalidItem (reason : String)
  | closed
  | database
  | io (e : FileError)
  deriving Repr, DecidableEq

namespace LibraryError

def message : LibraryError → String
  | openFailed => "Cannot open database"
  | invalidDatabase => "Invalid database"
  | versionMismatch found =>
    "Invalid database version: " ++ toString found ++ " (" ++ toString Tables.currentVersion
      ++ " expected)"
  | conflict md5 existingName =>
    "Item " ++ md5 ++ " is already in the library as " ++ Text.quoted existingName
  | invalidItem reason => "Invalid item: " ++ reason
  | closed => "Library is closed"
  | database => "Database error"
  | io e => "I/O error: " ++ e.message

/-- Can nothing be done with the library after the error? -/
def isFatal : LibraryError → Bool
  | openFailed | invalidDatabase | versionMismatch _ => true
  | _ => false

/-- Is the item in the library already? -/
def isConflict : LibraryError → Bool
  | conflict .. => true
  | _ => false

end LibraryError

/-- An open or closed library. -/
structure Library where
  base : String
  /-- Where the file of the database is. -/
  place : Location
  /-- The file of the database. -/
  database : Nat
  tmpDir : String
  cleanup : Cleanup := {}
  isClosed : Bool := false

namespace Library

def databaseName : String := "database.db"

def tmpStart : String := "tmp."

def databasePath (base : String) : String := Path.below base databaseName

/-- The name of the directory for the aliases of the `opened`-th library of a process. -/
def tmpName (process opened : Nat) : String :=
  tmpStart ++ toString process ++ "." ++ toString opened

def checkVersion (c : Content) : Except LibraryError Unit :=
  match c with
  | .bytes _ => .error .invalidDatabase
  | .database t =>
    match t.version with
    | .noTable | .noRow => .error .invalidDatabase
    | .version n => if n == Tables.currentVersion then .ok () else .error (.versionMismatch n)

/-- The files that an attempt to make a database may leave behind. -/
def leftovers (base : String) : List String :=
  [databasePath base, Path.below base (databaseName ++ "-journal")]

/-- The files without a file, if it is there. -/
def discard (fs : Files) (path : String) : Files := (fs.remove path).toOption.getD fs

/-- Makes the database of a new library. If that fails, nothing is left at its place. -/
def create (base : String) (fs : Files) : Except LibraryError Unit × Files :=
  match fs.makeDirs base with
  | (.error _, fs) => (.error .openFailed, fs)
  | (.ok (), fs) =>
    match fs.put (databasePath base) (.database .fresh) none with
    | .ok fs => (.ok (), fs)
    | .error _ => (.error .openFailed, (leftovers base).foldl discard fs)

/-- Finds the database of a library, making it if there is none. -/
def findDatabase (base : String) (fs : Files) : Except LibraryError (Location × Nat) × Files :=
  let (made, fs) :=
    if fs.exists? (databasePath base) then (.ok (), fs) else create base fs
  match made with
  | .error e => (.error e, fs)
  | .ok () =>
    match fs.fileAt (databasePath base) with
    | .error _ => (.error .openFailed, fs)
    | .ok (location, id) =>
      match checkVersion (fs.dataOf id).content with
      | .ok () => (.ok (location, id), fs)
      | .error e => (.error e, fs)

/-- Opens the library in a directory, which is made if it is not there. -/
def openAt (base : String) (w : World) : Except LibraryError Library × World :=
  match findDatabase base w.files with
  | (.error e, files) => (.error e, { w with files })
  | (.ok (place, database), files) =>
    let tmpDir := Path.below base (tmpName w.process w.opened)
    let opened := w.opened + 1
    match files.makeDirs tmpDir with
    | (.ok (), files) => (.ok { base, place, database, tmpDir }, { w with files, opened })
    | (.error _, files) => (.error .openFailed, { w with files, opened })

/-- Closes the library and removes its directory for aliases. -/
def close (lib : Library) (w : World) : Library × World :=
  if lib.isClosed then (lib, w)
  else
    ({ lib with cleanup := lib.cleanup.shutdown, isClosed := true },
      { w with files := (w.files.removeTree lib.tmpDir).toOption.getD w.files })

def tables (lib : Library) (fs : Files) : Except LibraryError Tables :=
  if lib.isClosed then .error .closed
  else match (fs.dataOf lib.database).content with
    | .database t => .ok t
    | .bytes _ => .error .database

/-- Can the tables be changed? Their file has to be in its place. -/
def isWritable (lib : Library) (fs : Files) : Bool :=
  fs.at? lib.place == some (.file lib.database)

def commit (lib : Library) (fs : Files) (t : Tables) : Files :=
  fs.setData lib.database (.database t) none

/-- The tables that somebody else finds in the directory of a library, and their file. -/
def outsideTables (lib : Library) (fs : Files) : Option (Nat × Tables) :=
  match fs.fileAt (databasePath lib.base) with
  | .ok (_, id) =>
    match (fs.dataOf id).content with
    | .database t => some (id, t)
    | .bytes _ => none
  | .error _ => none

def itemCount (lib : Library) (fs : Files) : Except LibraryError Nat :=
  (lib.tables fs).map fun t => t.libraryItems.length

def tags (lib : Library) (fs : Files) : Except LibraryError (List (String × Int)) :=
  (lib.tables fs).map fun t => t.sortedTags.map fun r => (r.name, r.count)

/-- The checksum of a record, which must not be empty. -/
def requireMd5 (m : Metadata) (reason : String) : Except LibraryError String :=
  match m.md5 with
  | some md5 => if md5.isEmpty then .error (.invalidItem reason) else .ok md5
  | none => .error (.invalidItem reason)

def blobPath (lib : Library) (m : Metadata) : Except LibraryError String :=
  (requireMd5 m "md5 is required").map fun md5 => Blob.path lib.base md5 m.format

end Library

end SampleLibrary
