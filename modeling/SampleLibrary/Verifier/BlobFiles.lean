import SampleLibrary.Decimal.Reading
import SampleLibrary.Digest.Md5
import SampleLibrary.Verifier.Run

/-!
# Checking files

The second stage: what lies in the directory of the library belongs there. Files that are named like
the files of items must belong to an item, have its checksum and the extension for its format.
Directories for aliases must belong to this process. Everything else is left alone.
-/

namespace SampleLibrary.Verifier

/-- Is this a name of `length` lower-case hexadecimal digits? -/
def isHexName (length : Nat) (name : String) : Bool :=
  name.toList.length == length && name.toList.all Text.isLowerHex

def splitAtDot? (cs : List Char) : Option (List Char × List Char) :=
  match cs.dropWhile (· != '.') with
  | [] => none
  | _ :: rest => some (cs.takeWhile (· != '.'), rest)

/-- The number of processes is below this. -/
def processLimit : Nat := UInt32.size

/-- The process to which a directory for aliases belongs, by its name. -/
def tmpProcess? (name : String) : Option Nat := do
  let rest ← Text.afterFront? Library.tmpStart.toList name.toList
  match splitAtDot? rest with
  | none => Decimal.readNat? processLimit rest
  | some (process, opened) =>
    if opened.isEmpty || !opened.all Text.isDecimal then none
    else Decimal.readNat? processLimit process

/-- The checksum and the extension in the name of a file of an item. -/
def blobName? (name : String) : Option (String × String) := do
  let (md5, extension) ← splitAtDot? name.toList
  if md5.length == 32 && md5.all Text.isLowerHex && !extension.isEmpty
      && extension.all Text.isWord then
    some (String.ofList md5, String.ofList extension)
  else none

/-- What is wrong with the content of a file that has to have a checksum, if anything is. -/
def contentProblem? (files : Files) (item : Int) (path md5 : String) : Option Problem :=
  match files.read path with
  | .ok data => if Md5.checksum data == md5 then none else some (.wrongChecksum item path)
  | .error _ => some (.unreadable item path)

/-- Removes a file and with it the item whose file it is. -/
def removeInvalid (lib : Library) (item : Int) (path : String) : Step := fun r =>
  match r.removeFile path with
  | (true, r) => (r.edit lib (·.deleteItems [item])).map fun r => r.note fun report =>
      { report with itemsRemoved := report.itemsRemoved + 1 }
  | (false, r) => .ok r

/-- Removes a file and leaves the tables alone. -/
def removeUnknown (path : String) : Step := fun r => .ok (r.removeFile path).2

/-- Checks a file that is named like the file of an item. -/
def checkBlob (lib : Library) (observer : Observer) (path md5 extension : String) : Step := fun r =>
  match r.tables.libraryItem? md5 with
  | none => r.offer observer (.unknownFile path) (removeUnknown path)
  | some i =>
    match contentProblem? r.files i.id path md5 with
    | some p => r.offer observer p (removeInvalid lib i.id path)
    | none =>
      if Blob.extension (i.text? .format) == "." ++ extension then .ok r
      else r.offer observer (.wrongExtension path ((i.text? .format).getD "")) (removeUnknown path)

def checkBlobEntry (lib : Library) (observer : Observer) (first second : String)
    (entry : String × Node) : Step := fun r =>
  match entry.2, blobName? entry.1 with
  | .file _, some (md5, extension) =>
    if Blob.part md5 0 1 == first && Blob.part md5 1 3 == second then
      let directory := Path.below (Path.below lib.base first) second
      checkBlob lib observer (Path.below directory entry.1) md5 extension r
    else .ok r
  | _, _ => .ok r

/-- The entries of a directory, or the end of the run. -/
def entriesOf (path : String) (r : Run) : Except Stop (List (String × Node)) :=
  match r.files.list path with
  | .ok entries => .ok entries
  | .error e => .error ⟨.io e, r⟩

def hexValue (name : String) : Nat :=
  name.toList.foldl (fun n c => 16 * n +
    (if Text.isDecimal c then c.toNat - '0'.toNat else c.toNat - 'a'.toNat + 10)) 0

def blobDirectories : Nat := 16 * 16 * 16

/-- Checks what lies in a directory for the first digit of checksums. -/
def checkSecondEntry (lib : Library) (observer : Observer) (first : String)
    (entry : String × Node) : Step := fun r =>
  if entry.2 == .directory && isHexName 2 entry.1 then do
    let r := r.advance (100 * hexValue (first ++ entry.1) / blobDirectories)
    let entries ← entriesOf (Path.below (Path.below lib.base first) entry.1) r
    entries.foldlM (fun r e => checkBlobEntry lib observer first entry.1 e r) r
  else .ok r

def checkTopEntry (lib : Library) (observer : Observer) (process : Nat)
    (entry : String × Node) : Step := fun r =>
  let path := Path.below lib.base entry.1
  if entry.2 != .directory then .ok r
  else if isHexName 1 entry.1 then do
    let entries ← entriesOf path r
    entries.foldlM (fun r e => checkSecondEntry lib observer entry.1 e r) r
  else match tmpProcess? entry.1 with
    | some owner =>
      if owner == process then .ok r
      else r.offer observer (.staleTmpDir path) fun r => .ok (r.removeDirectory path)
    | none => .ok r

/-- The second stage. -/
def checkFiles (lib : Library) (observer : Observer) (process : Nat) : Step := fun r => do
  let r := r.nextStage "Checking files"
  let entries ← entriesOf lib.base r
  let r ← entries.foldlM (fun r e => checkTopEntry lib observer process e r) r
  return r.advance 100

end SampleLibrary.Verifier
