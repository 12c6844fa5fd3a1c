import SampleLibrary.Files.Basic

/-!
# Removing aliases later

The removal of a file is put off by scheduling a task for its path. Scheduling the same path again
replaces the task: the old one may still be fired, but then does nothing. Tasks are told apart by
generations, and after a shutdown no task does anything.
-/

namespace SampleLibrary

/-- A task that removes a file when it is fired. -/
structure Cleanup.Task where
  path : String
  generation : Nat
  deriving Repr, DecidableEq

/-- The tasks that are pending, by path, and all that were ever started. -/
structure Cleanup where
  generation : Nat := 0
  pending : Std.ExtTreeMap (List String) Nat := ∅
  started : List Cleanup.Task := []
  stopped : Bool := false

namespace Cleanup

/-- Schedules the removal of a file, in place of an earlier task for it. -/
def schedule (c : Cleanup) (path : String) : Cleanup :=
  if c.stopped then c
  else
    let generation := c.generation + 1
    { c with
      generation := generation
      pending := c.pending.insert (Path.identity path) generation
      started := c.started ++ [⟨path, generation⟩] }

def pendingCount (c : Cleanup) : Nat := c.pending.size

def isCurrent (c : Cleanup) (t : Task) : Bool :=
  c.pending[Path.identity t.path]? == some t.generation

/-- The files without an alias, and without its directory if that is empty then. -/
def removeAlias (fs : Files) (path : String) : Files :=
  let parent := Path.ofComponents ((Path.parent? path).getD [])
  let tidy (fs : Files) : Files := (fs.removeDir parent).toOption.getD fs
  match fs.remove path with
  | .ok fs => tidy fs
  | .error .notFound => tidy fs
  | .error _ => fs

/-- Fires a task. Only the latest one for its path does anything, and only once. -/
def fire (c : Cleanup) (t : Task) (fs : Files) : Cleanup × Files :=
  if c.isCurrent t then
    ({ c with pending := c.pending.erase (Path.identity t.path) }, removeAlias fs t.path)
  else (c, fs)

/-- Gives up everything that is pending, for good. -/
def shutdown (c : Cleanup) : Cleanup :=
  if c.stopped then c else { c with pending := ∅, stopped := true }

end Cleanup

end SampleLibrary
