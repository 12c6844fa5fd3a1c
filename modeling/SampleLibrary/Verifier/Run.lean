import SampleLibrary.Library.Basic
import SampleLibrary.Verifier.Problem

/-!
# A run of the verifier

A run reports how far it has come and asks about problems. Whoever answers knows everything that was
said before. The tables are changed on a copy, which takes the place of the old ones at the end; files
are changed at once.

Main definitions: `Run.ask`, which follows an answer that holds for all later problems of a kind
without asking again, and `Step`, which stops with the run as it is when something fails.
-/

namespace SampleLibrary.Verifier

/-- Something that was said in the course of a run. -/
inductive Event where
  | progress (p : Progress)
  /-- Somebody was asked about a problem. -/
  | asked (p : Problem) (a : Answer)
  /-- An earlier answer held for a problem as well. -/
  | recalled (p : Problem) (a : Answer)
  deriving Repr, DecidableEq

/-- Whoever answers, with all that was said so far, latest first. -/
abbrev Observer := List Event → Problem → Answer

/-- A run under way. -/
structure Run where
  /-- What was said so far, latest first. -/
  history : List Event := []
  progress : Progress := ⟨0, "", 0, none⟩
  saved : Kind → Option Answer := fun _ => none
  report : Report := {}
  tables : Tables
  /-- Have the tables been changed? -/
  edited : Bool := false
  files : Files
  metrics : Metrics

/-- A run that has failed. -/
structure Stop where
  error : LibraryError
  run : Run

abbrev Step := Run → Except Stop Run

namespace Run

/-- Tells how far the run has come. -/
def tell (r : Run) (p : Progress) : Run := { r with history := .progress p :: r.history }

def nextStage (name : String) (r : Run) : Run :=
  let p : Progress := ⟨r.progress.stage + 1, name, 0, none⟩
  { r with progress := p }.tell p

/-- Moves on to `percent` of the stage, unless the run has come that far. -/
def advance (percent : Nat) (r : Run) : Run :=
  let percent := min percent 100
  if r.progress.percent < percent then
    let p := { r.progress with percent }
    { r with progress := p }.tell p
  else r

/-- Counts something that is wrong and tells about it. -/
def complain (label message : String) (r : Run) : Run :=
  { r with
    metrics := r.metrics.addIssue label
    report := { r.report with issues := r.report.issues + 1 } }.tell
      { r.progress with error := some message }

def remark (m : Remark) (r : Run) : Run := r.complain m.toName m.message

/-- Tells about a problem and finds out whether to repair it. -/
def ask (observer : Observer) (p : Problem) (r : Run) : Bool × Run :=
  let r := r.complain p.kind.toName p.message
  match r.saved p.kind with
  | some a => (a.isYes, { r with history := .recalled p a :: r.history })
  | none =>
    let a := observer r.history p
    let saved := if a.isSaved then fun k => if k = p.kind then some a else r.saved k else r.saved
    (a.isYes, { r with history := .asked p a :: r.history, saved })

/-- Asks about a problem and repairs it if that is wanted. -/
def offer (observer : Observer) (p : Problem) (repair : Step) : Step := fun r =>
  match r.ask observer p with
  | (true, r) => repair r
  | (false, r) => .ok r

def fail (error : LibraryError) : Step := fun r => .error ⟨error, r⟩

/-- Changes the tables, which can fail if they cannot be written. -/
def edit (lib : Library) (change : Tables → Tables) : Step := fun r =>
  if lib.isWritable r.files then .ok { r with tables := change r.tables, edited := true }
  else fail .database r

def note (change : Report → Report) (r : Run) : Run := { r with report := change r.report }

/-- Removes a file. A file that cannot be removed stays. -/
def removeFile (path : String) (r : Run) : Bool × Run :=
  match r.files.remove path with
  | .ok files =>
    (true, { r with files }.note fun report =>
      { report with filesRemoved := report.filesRemoved + 1 })
  | .error _ => (false, r)

/-- Removes a directory with everything in it. One that cannot be removed stays. -/
def removeDirectory (path : String) (r : Run) : Run :=
  match r.files.removeTree path with
  | .ok files => { r with files }.note fun report =>
      { report with dirsRemoved := report.dirsRemoved + 1 }
  | .error _ => r

end Run

end SampleLibrary.Verifier
