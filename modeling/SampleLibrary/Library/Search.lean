import SampleLibrary.Library.Basic
import SampleLibrary.Storage.Search

/-!
# Searching a library
-/

namespace SampleLibrary.Library

open Query

def find (lib : Library) (s : Statement) (fs : Files) : Except LibraryError (List Metadata) := do
  let t ← lib.tables fs
  match t.search s with
  | .ok found => .ok found
  | .error _ => .error .database

/-- The records that a query finds; the search is counted. -/
def search (lib : Library) (conditions : List Condition) (options : Options) (w : World) :
    Except LibraryError (List Metadata) × World :=
  (lib.find (statement conditions options) w.files,
    { w with metrics := w.metrics.addSearch "items" })

def md5Statement (md5 : String) : Statement where
  columns := itemColumns
  withDocuments := false
  clauses := [.fixed ⟨.md5, .eq, .text md5⟩, .inLibrary]
  orderBy := none
  limit := none

/-- The records of library items with a checksum; the search is counted. -/
def withMd5 (lib : Library) (md5 : String) (w : World) :
    Except LibraryError (List Metadata) × World :=
  (lib.find (md5Statement md5) w.files, { w with metrics := w.metrics.addSearch "raw" })

/-- The suggestions for a completion from at most `limit` items; the search is counted. -/
def completions (lib : Library) (c : Completion) (limit : Nat) (w : World) :
    Except LibraryError (List String) × World :=
  let found : Except LibraryError (List String) := do
    let t ← lib.tables w.files
    match t.documentRows c { limit := some limit } with
    | .ok rows => .ok (c.collect rows)
    | .error _ => .error .database
  (found, { w with metrics := w.metrics.addSearch "completions" })

end SampleLibrary.Library
