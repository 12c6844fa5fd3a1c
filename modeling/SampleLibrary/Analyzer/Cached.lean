import SampleLibrary.Analyzer.Basic
import SampleLibrary.Cache

/-!
# Remembering what an analyzer said

A file that has neither moved nor changed is not analyzed again. Another analyzer is asked only about
versions of files that are not in the cache.
-/

namespace SampleLibrary

/-- A version of a file: where it is, its size and when it was changed. -/
structure FileVersion where
  location : Location
  size : Nat
  modified : Int
  deriving Repr, DecidableEq, Hashable

def FileVersion.ofPath (fs : Files) (path : String) : Except AnalyzerError FileVersion :=
  match fs.stat path true with
  | .ok (location, .file id) =>
    let data := fs.dataOf id
    .ok ⟨location, data.content.toBytes.size, data.modified⟩
  | .ok (_, _) => .error (.notAFile path)
  | .error _ => .error (.readFailed path)

namespace Analyzer

variable {σ : Type}

/-- Answers from the cache, or asks the other analyzer and puts its answer into the cache. -/
def lookUp (inner : Analyzer σ) (fs : Files) (path : String)
    (kept : Cache FileVersion FileInfo × σ) :
    Except AnalyzerError FileInfo × (Cache FileVersion FileInfo × σ) :=
  match FileVersion.ofPath fs path with
  | .error e => (.error e, kept)
  | .ok version =>
    match kept.1.get? version with
    | (some info, cache) => (.ok { info with path }, (cache, kept.2))
    | (none, cache) =>
      match inner.analyze fs path kept.2 with
      | (.ok info, state) => (.ok info, (cache.put version info, state))
      | (.error e, state) => (.error e, (cache, state))

def cached (inner : Analyzer σ) : Analyzer (Cache FileVersion FileInfo × σ) :=
  ⟨inner.name, lookUp inner⟩

end Analyzer

end SampleLibrary
