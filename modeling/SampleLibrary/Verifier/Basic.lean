import SampleLibrary.Verifier.BlobFiles
import SampleLibrary.Verifier.Items
import SampleLibrary.Verifier.Links

/-!
# Verifying a library

A verification goes through all stages. If one of them fails, the tables stay as they were, while
files that have been removed stay removed.
-/

namespace SampleLibrary.Verifier

def allStages (lib : Library) (observer : Observer) (process : Nat) : Step := fun r => do
  let r ← checkItems lib observer r
  let r ← checkFiles lib observer process r
  checkLinks lib observer r

/-- The outcome of a verification, with everything that was said, in order. -/
structure Verification where
  outcome : Except LibraryError Report
  events : List Event

def verify (lib : Library) (observer : Observer) (w : World) : Verification × World :=
  match lib.tables w.files with
  | .error e => (⟨.error e, []⟩, w)
  | .ok tables =>
    let start : Run := { tables, files := w.files, metrics := w.metrics }
    match allStages lib observer w.process start with
    | .ok r =>
      let files := if r.edited then lib.commit r.files r.tables else r.files
      (⟨.ok r.report, r.history.reverse⟩, { w with files, metrics := r.metrics })
    | .error ⟨e, r⟩ =>
      (⟨.error e, r.history.reverse⟩, { w with files := r.files, metrics := r.metrics })

end SampleLibrary.Verifier
