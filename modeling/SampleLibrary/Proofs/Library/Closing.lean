import SampleLibrary.Library.Alias
import SampleLibrary.Proofs.Library.Batches

/-!
# Libraries after they are closed

Everything that can be asked of a library is one of the requests (`Request`), and a run of a program is
requests, timers that fire and what others do to the world, from the opening of the library on (`run`).
Once a request to close is among them, the library is shut down: requests and timers change nothing any
more but counters (`closed_for_good`).

Not every request notices it. Some are answered from their arguments alone, before the library looks
whether it is closed: where the file of an item belongs, and what is wrong with a record that could not be
imported anyway. `Request.answer` tells what a closed library answers, and `Request.Notices` which requests
are told that it is closed.
-/

namespace SampleLibrary.Library

/-! ## Requests -/

/-- What a program can ask of a library. -/
inductive Request where
  | importFile (m : Metadata) (copy : Bool)
  | importFiles (ms : List Metadata) (copy : Bool)
  | search (conditions : List Query.Condition) (options : Query.Options)
  /-- A search by a statement of the program's own, which is told by what it finds in tables. -/
  | searchBy (found : Tables → Except LibraryError (List Metadata))
  | complete (c : Query.Completion) (limit : Nat)
  | tags
  | count
  | blobPath (m : Metadata)
  | prettyPath (m : Metadata)
  | verify (observer : Verifier.Observer)
  | close

/-- What a request is answered if it can be granted. -/
inductive Reply where
  | imported (id : Int)
  | report (r : ImportReport)
  | items (ms : List Metadata)
  | suggestions (texts : List String)
  | tags (names : List (String × Int))
  | count (n : Nat)
  | path (path : String)
  | verified (r : Verifier.Report)
  | done

/-- The answer of a library, with the library and the world after the request. -/
def Request.perform (lib : Library) (w : World) : Request → Except LibraryError Reply × Library × World
  | importFile m copy =>
    let (outcome, w) := lib.importFile m copy w
    (outcome.map .imported, lib, w)
  | importFiles ms copy =>
    let (outcome, w) := lib.importFiles ms copy w
    (outcome.map .report, lib, w)
  | search conditions options =>
    let (found, w) := lib.search conditions options w
    (found.map .items, lib, w)
  | searchBy found =>
    (((lib.tables w.files).bind found).map .items, lib,
      { w with metrics := w.metrics.addSearch "raw" })
  | complete c limit =>
    let (found, w) := lib.completions c limit w
    (found.map .suggestions, lib, w)
  | tags => ((lib.tags w.files).map .tags, lib, w)
  | count => ((lib.itemCount w.files).map .count, lib, w)
  | blobPath m => ((lib.blobPath m).map .path, lib, w)
  | prettyPath m =>
    let (path, lib, w) := lib.prettyPath m w
    (path.map .path, lib, w)
  | verify observer =>
    let (verification, w) := Verifier.verify lib observer w
    (verification.outcome.map .verified, lib, w)
  | close => (.ok .done, lib.close w)

/-- The search for a checksum is such a search. -/
example (lib : Library) (md5 : String) (w : World) :
    (Request.searchBy fun t => match t.search (md5Statement md5) with
      | .ok found => .ok found
      | .error _ => .error .database).perform lib w
      = ((lib.withMd5 md5 w).1.map .items, lib, (lib.withMd5 md5 w).2) := rfl

/-- Something that a library does: it answers a request, or one of its timers fires. -/
inductive Deed where
  | request (r : Request)
  | fire (t : Cleanup.Task)

def Deed.perform (s : Library × World) : Deed → Library × World
  | request r => (r.perform s.1 s.2).2
  | fire t =>
    let (cleanup, files) := s.1.cleanup.fire t s.2.files
    ({ s.1 with cleanup }, { s.2 with files })

/-- The library and the world after these deeds, if nobody else does anything. -/
def act (deeds : List Deed) (s : Library × World) : Library × World := deeds.foldl Deed.perform s

/-- One moment of a run. Between its deeds a library finds the world as others have left it. -/
inductive Moment where
  | own (d : Deed)
  | others (w : World)

def Moment.pass (s : Library × World) : Moment → Library × World
  | own d => d.perform s
  | others w => (s.1, w)

/-- The library and the world after these moments. -/
def run (moments : List Moment) (s : Library × World) : Library × World :=
  moments.foldl Moment.pass s

/-! ## Answers after closing -/

/-- Why a closed library does not import a record: what is wrong with the record comes first. -/
def refusal (m : Metadata) : LibraryError :=
  if (source? m).isSome then .closed else .invalidItem (lacking m)

/-- The entry in a report for a record that cannot be imported. -/
def failure (m : Metadata) : Failure := ⟨m.path.getD "", "Invalid item: " ++ lacking m⟩

namespace Request

/-- What a library answers after it was closed. -/
def answer (lib : Library) : Request → Except LibraryError Reply
  | importFile m _ => .error (refusal m)
  | importFiles ms _ =>
    if ms.any fun m => (source? m).isSome then .error .closed
    else .ok (.report { failed := ms.map failure })
  | blobPath m => (lib.blobPath m).map .path
  | close => .ok .done
  | _ => .error .closed

/-- The request finds out that the library is closed. -/
def Notices : Request → Prop
  | importFile m _ => (source? m).isSome = true
  | importFiles ms _ => ∃ m ∈ ms, (source? m).isSome = true
  | blobPath _ => False
  | close => False
  | _ => True

theorem answer_eq_closed_iff (lib : Library) (r : Request) :
    r.answer lib = .error .closed ↔ r.Notices := by
  cases r with
  | importFile m copy =>
      dsimp only [answer, Notices, refusal]
      split <;> simp_all
  | importFiles ms copy =>
      dsimp only [answer, Notices]
      rw [← List.any_eq_true]
      split <;> simp_all
  | blobPath m =>
      have other : lib.blobPath m ≠ .error .closed := by
        unfold Library.blobPath requireMd5
        split
        · split <;> simp [Except.map]
        · simp [Except.map]
      dsimp only [answer, Notices]
      cases blob : lib.blobPath m with
      | ok path => simp [Except.map]
      | error e =>
          rw [blob] at other
          simpa [Except.map] using other
  | close => simp [answer, Notices]
  | search | searchBy | complete | tags | count | prettyPath | verify => simp [answer, Notices]

end Request

/-! ## A library that is shut down -/

/-- The library is closed, its timers are stopped, and no alias is to be removed any more. -/
structure ShutDown (lib : Library) : Prop where
  isClosed : lib.isClosed = true
  stopped : lib.cleanup.stopped = true
  idle : lib.cleanup.pending = ∅

section Closed

variable {lib : Library} (isClosed : lib.isClosed = true)
include isClosed

theorem tables_of_isClosed (fs : Files) : lib.tables fs = .error .closed := by
  rw [tables, if_pos isClosed]

theorem importOne_of_isClosed (m : Metadata) (copy : Bool) (fs : Files) :
    lib.importOne m copy fs = (.error (refusal m), fs) := by
  have refused : lib.addRecord fs m copy = .error (refusal m) := by
    unfold addRecord refusal
    cases complete : source? m with
    | none =>
        rw [requireSource_of_lacking complete]
        rfl
    | some md5 =>
        obtain ⟨-, path, source⟩ := requireSource_of_source? complete
        rw [source, tables_of_isClosed isClosed]
        rfl
  rw [importOne, refused]

theorem importFile_of_isClosed (m : Metadata) (copy : Bool) (w : World) :
    ∃ metrics, lib.importFile m copy w = (.error (refusal m), { w with metrics }) := by
  rw [importFile, importOne_of_isClosed isClosed]
  exact ⟨_, rfl⟩

/-- Records that lack something go into the report, and the first complete one ends the import. -/
theorem importFrom_of_isClosed (copy : Bool) (r : ImportReport) (ms : List Metadata) (w : World) :
    ∃ metrics, lib.importFrom copy r ms w =
      (if ms.any fun m => (source? m).isSome then .error .closed
        else .ok (r.append ⟨[], [], ms.map failure⟩), { w with metrics }) := by
  induction ms generalizing r w with
  | nil => exact ⟨w.metrics, by simp [importFrom, ImportReport.append]⟩
  | cons m ms inductionHypothesis =>
      obtain ⟨metrics, outcome⟩ := importFile_of_isClosed isClosed m copy w
      rw [importFrom, outcome]
      dsimp only
      cases complete : source? m with
      | some md5 =>
          refine ⟨metrics, ?_⟩
          simp [refusal, complete, ImportReport.add, LibraryError.isFatal]
      | none =>
          have refused : refusal m = .invalidItem (lacking m) := by simp [refusal, complete]
          obtain ⟨metrics', rest⟩ :=
            inductionHypothesis (r.append ⟨[], [], [failure m]⟩) { w with metrics }
          refine ⟨metrics', ?_⟩
          rw [refused, ImportReport.add_failed]
          dsimp only
          rw [← failure, rest, ImportReport.append_assoc]
          simp [complete, ImportReport.append]

end Closed

namespace ShutDown

variable {lib : Library} (shutDown : lib.ShutDown)
include shutDown

/-- A request changes nothing but counters. -/
theorem request (r : Request) (w : World) :
    ∃ metrics, r.perform lib w = (r.answer lib, lib, { w with metrics }) := by
  have isClosed := shutDown.isClosed
  have tables := tables_of_isClosed isClosed w.files
  cases r with
  | importFile m copy =>
      obtain ⟨metrics, outcome⟩ := importFile_of_isClosed isClosed m copy w
      exact ⟨metrics, by rw [Request.perform, outcome]; rfl⟩
  | importFiles ms copy =>
      obtain ⟨metrics, outcome⟩ := importFrom_of_isClosed isClosed copy {} ms w
      refine ⟨metrics, ?_⟩
      rw [Request.perform, importFiles, outcome]
      dsimp only [Request.answer]
      split <;> simp [Except.map, ImportReport.append]
  | search conditions options =>
      exact ⟨_, by simp only [Request.perform, search, find, tables]; rfl⟩
  | searchBy found => exact ⟨_, by rw [Request.perform, tables]; rfl⟩
  | complete c limit => exact ⟨_, by simp only [Request.perform, completions, tables]; rfl⟩
  | tags => exact ⟨_, by rw [Request.perform, Library.tags, tables]; rfl⟩
  | count => exact ⟨_, by rw [Request.perform, itemCount, tables]; rfl⟩
  | blobPath m => exact ⟨_, rfl⟩
  | prettyPath m => exact ⟨_, by rw [Request.perform, prettyPath, if_pos isClosed]; rfl⟩
  | verify observer => exact ⟨_, by rw [Request.perform, Verifier.verify, tables]; rfl⟩
  | close => exact ⟨_, by rw [Request.perform, close, if_pos isClosed]; rfl⟩

/-- A timer that fires has come too late. -/
theorem fire (t : Cleanup.Task) (fs : Files) : lib.cleanup.fire t fs = (lib.cleanup, fs) := by
  have late : lib.cleanup.isCurrent t = false := by simp [Cleanup.isCurrent, shutDown.idle]
  simp [Cleanup.fire, late]

theorem deed (d : Deed) (w : World) : ∃ metrics, d.perform (lib, w) = (lib, { w with metrics }) := by
  cases d with
  | request r =>
      obtain ⟨metrics, performed⟩ := shutDown.request r w
      exact ⟨metrics, by rw [Deed.perform, performed]⟩
  | fire t => exact ⟨w.metrics, by simp [Deed.perform, shutDown.fire]⟩

theorem act (deeds : List Deed) (w : World) :
    ∃ metrics, act deeds (lib, w) = (lib, { w with metrics }) := by
  induction deeds generalizing w with
  | nil => exact ⟨w.metrics, rfl⟩
  | cons d deeds inductionHypothesis =>
      obtain ⟨metrics, performed⟩ := shutDown.deed d w
      obtain ⟨metrics', rest⟩ := inductionHypothesis { w with metrics }
      refine ⟨metrics', ?_⟩
      rw [Library.act, List.foldl_cons, performed]
      exact rest

/-- Whatever others do, the library stays as it is. -/
theorem run (moments : List Moment) (w : World) : (run moments (lib, w)).1 = lib := by
  induction moments generalizing w with
  | nil => rfl
  | cons moment moments inductionHypothesis =>
      rw [Library.run, List.foldl_cons]
      cases moment with
      | own d =>
          obtain ⟨metrics, performed⟩ := shutDown.deed d w
          rw [Moment.pass, performed]
          exact inductionHypothesis _
      | others w' => exact inductionHypothesis w'

end ShutDown

/-! ## Up to closing -/

/-- No alias is to be removed once timers are stopped, and they are stopped in a closed library. -/
structure InOrder (lib : Library) : Prop where
  stopped : lib.cleanup.stopped = true → lib.cleanup.pending = ∅
  closed : lib.isClosed = true → lib.cleanup.stopped = true

namespace InOrder

variable {lib : Library} {w : World}

theorem of_openAt {base : String} {w' : World} (opened : openAt base w = (.ok lib, w')) :
    lib.InOrder := by
  obtain ⟨place, id, files, files', -, -, rfl, -⟩ := openAt_eq_ok (congrArg Prod.fst opened)
  refine ⟨fun stopped => ?_, fun closed => ?_⟩
  · cases stopped
  · cases closed

theorem shutDown (inOrder : lib.InOrder) (isClosed : lib.isClosed = true) : lib.ShutDown :=
  ⟨isClosed, inOrder.closed isClosed, inOrder.stopped (inOrder.closed isClosed)⟩

theorem schedule (inOrder : lib.InOrder) (path : String) :
    InOrder { lib with cleanup := lib.cleanup.schedule path } := by
  unfold Cleanup.schedule
  split
  · exact inOrder
  · next running => exact ⟨fun stopped => absurd stopped running, inOrder.closed⟩

theorem fire (inOrder : lib.InOrder) (t : Cleanup.Task) (fs : Files) :
    InOrder { lib with cleanup := (lib.cleanup.fire t fs).1 } := by
  unfold Cleanup.fire
  split
  · next current =>
      refine ⟨fun stopped => ?_, inOrder.closed⟩
      rw [Cleanup.isCurrent, inOrder.stopped stopped] at current
      simp at current
  · exact inOrder

theorem close (inOrder : lib.InOrder) (w : World) : (lib.close w).1.ShutDown := by
  unfold Library.close
  split
  · next isClosed => exact inOrder.shutDown isClosed
  · dsimp only [Cleanup.shutdown]
    split
    · next stopped => exact ⟨rfl, stopped, inOrder.stopped stopped⟩
    · exact ⟨rfl, rfl, rfl⟩

theorem prettyPath (inOrder : lib.InOrder) (m : Metadata) (w : World) :
    (lib.prettyPath m w).2.1.InOrder := by
  unfold Library.prettyPath
  split
  · exact inOrder
  · split
    · exact inOrder
    · dsimp only
      split
      · exact inOrder.schedule _
      · split <;> exact inOrder.schedule _

theorem request (inOrder : lib.InOrder) (r : Request) (w : World) :
    (r.perform lib w).2.1.InOrder := by
  cases r with
  | prettyPath m => exact inOrder.prettyPath m w
  | close =>
      have shutDown := inOrder.close w
      exact ⟨fun _ => shutDown.idle, fun _ => shutDown.stopped⟩
  | importFile | importFiles | search | searchBy | complete | tags | count | blobPath | verify =>
      exact inOrder

theorem pass (inOrder : lib.InOrder) (moment : Moment) (w : World) :
    (moment.pass (lib, w)).1.InOrder := by
  cases moment with
  | others w' => exact inOrder
  | own d =>
      cases d with
      | request r => exact inOrder.request r w
      | fire t => exact inOrder.fire t w.files

theorem run (inOrder : lib.InOrder) (moments : List Moment) (w : World) :
    (run moments (lib, w)).1.InOrder := by
  induction moments generalizing lib w with
  | nil => exact inOrder
  | cons moment moments inductionHypothesis => exact inductionHypothesis (inOrder.pass moment w) _

end InOrder

/-- A run with a request to close in it ends with a library that is shut down. -/
theorem shutDown_of_close {base : String} {lib : Library} {w w' : World}
    (opened : openAt base w = (.ok lib, w')) {moments : List Moment}
    (closed : .own (.request .close) ∈ moments) : (run moments (lib, w')).1.ShutDown := by
  obtain ⟨before, after, rfl⟩ := List.append_of_mem closed
  have inOrder := (InOrder.of_openAt opened).run before w'
  have shutDown := inOrder.close (run before (lib, w')).2
  rw [run, List.foldl_append, List.foldl_cons]
  have stays := shutDown.run after ((run before (lib, w')).1.close (run before (lib, w')).2).2
  exact stays ▸ shutDown

/-! ## After closing -/

/-- **A closed library is inert.** After a run in which it was closed, a library does nothing any more
that leaves a trace other than in counters, whatever it is asked and whichever of its timers fires: the
database, files and aliases stay as they are, and no removal is scheduled or done. Whatever it has been
asked since, it answers each request as `Request.answer` tells, and exactly those that look at the library
are told that it is closed. -/
theorem closed_for_good {base : String} {lib : Library} {w w' : World}
    (opened : openAt base w = (.ok lib, w')) {moments : List Moment}
    (closed : .own (.request .close) ∈ moments) (deeds : List Deed) :
    let s := run moments (lib, w')
    let s' := act deeds s
    s'.1 = s.1 ∧ s'.2 = { s.2 with metrics := s'.2.metrics } ∧
      ∀ r : Request, (r.perform s'.1 s'.2).1 = r.answer s.1 ∧
        (r.answer s.1 = .error .closed ↔ r.Notices) := by
  intro s s'
  have shutDown : s.1.ShutDown := shutDown_of_close opened closed
  obtain ⟨metrics, acted⟩ := shutDown.act deeds s.2
  have same : s' = (s.1, { s.2 with metrics }) := acted
  refine ⟨by rw [same], by rw [same], fun r => ⟨?_, r.answer_eq_closed_iff s.1⟩⟩
  obtain ⟨metrics', performed⟩ := shutDown.request r { s.2 with metrics }
  rw [same, performed]

/-- The snare is imported and has an alias when the library is closed. -/
def snareRun : List Moment := [
  .own (.request (.importFile snare true)), .own (.request (.prettyPath snare)), .own (.request .close)]

/-- Then the timer for the alias fires, and the clap is to be imported. -/
def lateDeeds : List Deed := [
  .fire ⟨"lib/tmp.1.0/0123456789abcdef0123456789abcdef/0123456789abcdef0123456789abcdef", 1⟩,
  .request (.importFile clap false)]

theorem bareWorld_opens : ∃ lib w', openAt "lib" bareWorld = (.ok lib, w') := ⟨_, _, rfl⟩

/-- Both come too late. -/
theorem snare_closed_for_good :
    ∃ lib w', openAt "lib" bareWorld = (.ok lib, w') ∧ .own (.request .close) ∈ snareRun ∧
      let s := run snareRun (lib, w')
      let s' := act lateDeeds s
      s'.1 = s.1 ∧ s'.2 = { s.2 with metrics := s'.2.metrics } ∧
        ∀ r : Request, (r.perform s'.1 s'.2).1 = r.answer s.1 ∧
          (r.answer s.1 = .error .closed ↔ r.Notices) := by
  obtain ⟨lib, w', opened⟩ := bareWorld_opens
  have closed : .own (.request .close) ∈ snareRun := by simp [snareRun]
  exact ⟨lib, w', opened, closed, closed_for_good opened closed lateDeeds⟩

/-- Not every request is told that the library is closed: where the file of the snare belongs is answered
all the same. -/
theorem blobPath_answered_when_closed :
    ¬∀ (base : String) (w : World) (lib : Library) (w' : World), openAt base w = (.ok lib, w') →
      ∀ moments : List Moment, .own (.request .close) ∈ moments →
        ∀ (deeds : List Deed) (r : Request), r ≠ .close →
          let s := act deeds (run moments (lib, w'))
          (r.perform s.1 s.2).1 = .error .closed := by
  intro claim
  obtain ⟨lib, w', opened⟩ := bareWorld_opens
  have other : Request.blobPath snare ≠ .close := by
    intro same
    cases same
  have told := claim "lib" bareWorld lib w' opened [.own (.request .close)] (by simp) []
    (.blobPath snare) other
  cases told

end SampleLibrary.Library
