import Mathlib.Data.Set.Card
import SampleLibrary.Library.Cleanup
import SampleLibrary.Proofs.Files.Removing

/-!
# Which tasks remove a file

Scheduling, firing and shutting down may come in any order, and a task may be fired that was replaced or
fired before. What a scheduler then does can be told from the order of these moves alone: a task removes
a file if it was started last for its path, has not been fired and there was no shutdown (`Due`), and
else does nothing (`Course.only_due_removes`).
-/

namespace SampleLibrary

/-! ## Files that are lost -/

namespace Files

variable {fs fs' : Files} {path : String} {location : Location} {node : Node}

/-- The working directory is there, and all directories above it. -/
structure Anchored (fs : Files) : Prop where
  working : ∀ l, l <+: fs.working → fs.at? l = some .directory
  root : fs.nodes[([] : Location)]? = none

/-- A file or a link was there before and is not there after. -/
structure LosesFile (fs fs' : Files) (location : Location) (node : Node) : Prop where
  before : fs.nodes[location]? = some node
  isFile : node ≠ .directory
  after : fs'.nodes[location]? = none

/-- Every directory above a location is there, and its own. -/
def Standing (fs : Files) (location : Location) : Prop :=
  ∀ l, l <+: location → fs.at? l = some .directory

theorem standing_root (fs : Files) : fs.Standing [] := by
  intro l above
  rw [List.prefix_nil.mp above]
  rfl

theorem Standing.dropLast (standing : fs.Standing location) : fs.Standing location.dropLast :=
  fun l above => standing l (above.trans (List.dropLast_prefix location))

theorem Standing.append {name : String} (standing : fs.Standing location)
    (there : fs.nodes[location ++ [name]]? = some .directory) : fs.Standing (location ++ [name]) := by
  intro l above
  obtain rfl | inside := List.prefix_concat_iff.mp above
  · simpa [at?] using there
  · exact standing l inside

/-- A walk from a directory that is there comes to directories that are there. -/
theorem Standing.walk {followLast : Bool} {directory : Location} {names : List String} {walk : Walk}
    (standing : fs.Standing directory) (walked : fs.walk followLast directory names = .ok walk) :
    (∀ location, walk = .ended (.found location .directory) → fs.Standing location) ∧
      ∀ location target rest, walk = .atLink location target rest → fs.Standing location := by
  fun_induction Files.walk fs followLast directory names with
  | case1 directory =>
      cases walked
      constructor
      · rintro location ⟨⟩
        exact standing
      · rintro location target rest ⟨⟩
  | case2 directory name rest here inductionHypothesis => exact inductionHypothesis standing walked
  | case3 directory name rest here above inductionHypothesis =>
      exact inductionHypothesis standing.dropLast walked
  | case4 => cases walked
  | case5 =>
      cases walked
      constructor <;> rintro _ ⟨⟩
      rintro _ ⟨⟩
  | case6 => cases walked
  | case7 directory name rest here above long location entry inductionHypothesis =>
      exact inductionHypothesis (standing.append entry) walked
  | case8 =>
      cases walked
      constructor <;> rintro _ ⟨⟩
      rintro _ ⟨⟩
  | case9 => cases walked
  | case10 =>
      cases walked
      constructor <;> rintro _ ⟨⟩
      rintro _ ⟨⟩
  | case11 directory name rest here above long location target entry last =>
      cases walked
      constructor
      · rintro location ⟨⟩
      · rintro location target rest ⟨⟩
        exact standing

theorem Standing.follow {followLast : Bool} {links : Nat} {directory : Location}
    {names : List String} (standing : fs.Standing directory)
    (followed : fs.follow followLast links directory names = .ok (.found location .directory)) :
    fs.Standing location := by
  rw [← arrives_iff] at followed
  induction followed with
  | ended walked => exact (standing.walk walked).1 _ rfl
  | link walked onward inductionHypothesis =>
      apply inductionHypothesis
      split
      · exact standing_root fs
      · exact (standing.walk walked).2 _ _ _ rfl

/-- Where a path leads to a directory, there is one. -/
theorem Anchored.at?_of_stat {followLast : Bool} (anchored : fs.Anchored)
    (found : fs.stat path followLast = .ok (location, .directory)) :
    fs.at? location = some .directory := by
  have resolved := stat_eq_ok_iff.mp found
  rw [resolve_of_usable (usable_of_resolve resolved)] at resolved
  refine Standing.follow ?_ resolved location (List.prefix_refl location)
  split
  · exact standing_root fs
  · exact anchored.working

theorem Anchored.eraseNode (anchored : fs.Anchored) (there : fs.nodes[location]? = some node)
    (isFile : node ≠ .directory) : (fs.eraseNode location).Anchored where
  working l above := by
    have stands := anchored.working l above
    unfold at? at stands ⊢
    split
    · rfl
    · rename_i below
      rw [if_neg below] at stands
      rw [(cleared_eraseNode fs location).kept l, stands]
      rintro rfl
      exact isFile (Option.some.inj (there.symm.trans stands))
  root := (cleared_eraseNode fs location).within.nodes_none anchored.root

/-- No file is lost with an empty directory. -/
theorem Anchored.not_losesFile_removeDir (anchored : fs.Anchored)
    (removed : fs.removeDir path = .ok fs') : ¬fs.LosesFile fs' location node := by
  intro lost
  unfold removeDir at removed
  split at removed
  · cases removed
  · rename_i directory found
    split at removed
    · cases removed
      by_cases same : location = directory
      · subst same
        have stands := anchored.at?_of_stat found
        have below : location.isEmpty = false := by
          cases location with
          | nil => exact absurd (lost.before.symm.trans anchored.root) (by simp)
          | cons => rfl
        rw [at?, below, lost.before] at stands
        exact lost.isFile (Option.some.inj stands)
      · have kept := (cleared_eraseNode fs directory).kept location same
        rw [lost.after, lost.before] at kept
        cases kept
    · cases removed
  · cases removed

end Files

namespace Cleanup

open Files

/-- The file that is lost with an alias is the one that the path of the alias leads to. -/
theorem stat_of_losesFile {fs : Files} {path : String} {location : Location} {node : Node}
    (anchored : fs.Anchored) (lost : fs.LosesFile (removeAlias fs path) location node) :
    fs.stat path false = .ok (location, node) := by
  have untouched : ¬fs.LosesFile fs location node := by
    intro lost
    have never := lost.before.symm.trans lost.after
    cases never
  unfold removeAlias at lost
  dsimp only at lost
  split at lost
  · rename_i fs' removed
    obtain ⟨spot, node', found, isFile, cleared⟩ := cleared_remove removed
    by_cases same : location = spot
    · subst same
      have there := nodes_of_stat found isFile
      rw [lost.before] at there
      rw [found, Option.some.inj there]
    · exfalso
      have kept : fs'.nodes[location]? = some node := (cleared.kept location same).trans lost.before
      have anchored' : fs'.Anchored := by
        unfold remove at removed
        rw [found] at removed
        cases node' with
        | directory => exact absurd rfl isFile
        | file | link =>
            cases removed
            exact anchored.eraseNode (nodes_of_stat found isFile) isFile
      cases tidied : fs'.removeDir (Path.ofComponents ((Path.parent? path).getD [])) with
      | error e =>
          simp only [tidied, Except.toOption, Option.getD_none] at lost
          rw [lost.after] at kept
          cases kept
      | ok fs'' =>
          simp only [tidied, Except.toOption, Option.getD_some] at lost
          exact anchored'.not_losesFile_removeDir tidied ⟨kept, lost.isFile, lost.after⟩
  · exfalso
    cases tidied : fs.removeDir (Path.ofComponents ((Path.parent? path).getD [])) with
    | error e =>
        simp only [tidied, Except.toOption, Option.getD_none] at lost
        exact untouched lost
    | ok fs'' =>
        simp only [tidied, Except.toOption, Option.getD_some] at lost
        exact anchored.not_losesFile_removeDir tidied lost
  · exact absurd lost untouched

/-! ## Moves -/

/-- What can happen to a scheduler. Tasks are numbered in the order in which they were started. -/
inductive Move where
  | schedule (path : String)
  | fire (task : Nat)
  | shutdown
  deriving DecidableEq

/-- A move, and the files before and after it. -/
structure Event where
  move : Move
  before : Files
  after : Files

/-- What a move does to a scheduler and to the files. Any task that was ever started may be fired, any
number of times. -/
inductive Step (c : Cleanup) : Event → Cleanup → Prop where
  | schedule (path : String) (fs : Files) : Step c ⟨.schedule path, fs, fs⟩ (c.schedule path)
  | fire {n : Nat} {t : Task} (started : c.started[n]? = some t) (fs : Files) :
      Step c ⟨.fire n, fs, (c.fire t fs).2⟩ (c.fire t fs).1
  | shutdown (fs : Files) : Step c ⟨.shutdown, fs, fs⟩ c.shutdown

/-- What may have happened to a scheduler, and how it is then. The files may have changed in any way from
one move to the next. -/
inductive Course : List Event → Cleanup → Prop where
  | start : Course [] {}
  | step {events : List Event} {c c' : Cleanup} {e : Event} (earlier : Course events c)
      (step : Step c e c') : Course (events ++ [e]) c'

/-- The paths of the tasks that were started: those scheduled before a shutdown. -/
def scheduled : List Move → List String
  | [] => []
  | .schedule path :: rest => path :: scheduled rest
  | .fire _ :: rest => scheduled rest
  | .shutdown :: _ => []

/-- A task is the one that was started last for its path. -/
structure IsLatest (moves : List Move) (n : Nat) (path : String) : Prop where
  started : (scheduled moves)[n]? = some path
  latest : ∀ m path', n < m → (scheduled moves)[m]? = some path' →
    Path.identity path' ≠ Path.identity path

/-- A task is the latest one for its path and still waits to be fired. -/
structure Due (moves : List Move) (n : Nat) (path : String) : Prop where
  isLatest : IsLatest moves n path
  waiting : .fire n ∉ moves
  running : .shutdown ∉ moves

section Moves

variable {moves : List Move} {n : Nat} {path : String}

theorem scheduled_append (running : .shutdown ∉ moves) (more : List Move) :
    scheduled (moves ++ more) = scheduled moves ++ scheduled more := by
  induction moves with
  | nil => rfl
  | cons m rest inductionHypothesis =>
      rw [List.mem_cons, not_or] at running
      cases m with
      | schedule path => exact congrArg (path :: ·) (inductionHypothesis running.2)
      | fire n => exact inductionHypothesis running.2
      | shutdown => exact absurd rfl running.1

theorem scheduled_append_of_shutdown (stopped : .shutdown ∈ moves) (more : List Move) :
    scheduled (moves ++ more) = scheduled moves := by
  induction moves with
  | nil => simp at stopped
  | cons m rest inductionHypothesis =>
      cases m with
      | schedule path => exact congrArg (path :: ·) (inductionHypothesis (by simpa using stopped))
      | fire n => exact inductionHypothesis (by simpa using stopped)
      | shutdown => rfl

theorem scheduled_fire (moves : List Move) (n : Nat) :
    scheduled (moves ++ [.fire n]) = scheduled moves := by
  by_cases stopped : .shutdown ∈ moves
  · exact scheduled_append_of_shutdown stopped _
  · simp [scheduled_append stopped, scheduled]

theorem scheduled_shutdown (moves : List Move) :
    scheduled (moves ++ [.shutdown]) = scheduled moves := by
  by_cases stopped : .shutdown ∈ moves
  · exact scheduled_append_of_shutdown stopped _
  · simp [scheduled_append stopped, scheduled]

/-- A path that is scheduled takes the place of what was due for it. -/
theorem due_schedule_iff {path' : String} (running : .shutdown ∉ moves)
    (fired : ∀ n, .fire n ∈ moves → n < (scheduled moves).length) :
    Due (moves ++ [.schedule path']) n path ↔
      (n = (scheduled moves).length ∧ path = path') ∨
        (Due moves n path ∧ Path.identity path' ≠ Path.identity path) := by
  have all : scheduled (moves ++ [.schedule path']) = scheduled moves ++ [path'] :=
    scheduled_append running _
  constructor
  · intro due
    have started := due.isLatest.started
    rw [all] at started
    by_cases old : n < (scheduled moves).length
    · right
      rw [List.getElem?_append_left old] at started
      constructor
      · refine ⟨⟨started, ?_⟩, ?_, running⟩
        · intro m other later isStarted
          apply due.isLatest.latest m other later
          rw [all, List.getElem?_append_left (List.getElem?_eq_some_iff.mp isStarted).1]
          exact isStarted
        · intro isFired
          exact due.waiting (List.mem_append_left _ isFired)
      · apply due.isLatest.latest (scheduled moves).length path' old
        simp [all]
    · left
      have inside := (List.getElem?_eq_some_iff.mp started).1
      obtain rfl : n = (scheduled moves).length := by
        simp only [List.length_append, List.length_singleton] at inside
        omega
      exact ⟨rfl, by simpa using started.symm⟩
  · intro either
    obtain ⟨rfl, rfl⟩ | ⟨due, other⟩ := either
    · refine ⟨⟨by simp [all], ?_⟩, ?_, by simpa using running⟩
      · intro m path' later isStarted
        have inside := (List.getElem?_eq_some_iff.mp isStarted).1
        simp only [all, List.length_append, List.length_singleton] at inside
        omega
      · intro isFired
        exact absurd (fired _ (by simpa using isFired)) (lt_irrefl _)
    · have old := (List.getElem?_eq_some_iff.mp due.isLatest.started).1
      refine ⟨⟨?_, ?_⟩, ?_, by simpa using running⟩
      · rw [all, List.getElem?_append_left old]
        exact due.isLatest.started
      · intro m path'' later isStarted
        rw [all] at isStarted
        by_cases inside : m < (scheduled moves).length
        · rw [List.getElem?_append_left inside] at isStarted
          exact due.isLatest.latest m path'' later isStarted
        · rw [List.getElem?_append_right (by omega), List.getElem?_singleton] at isStarted
          split at isStarted <;> cases isStarted
          exact other
      · simpa using due.waiting

/-- A task that was fired is not due any more; for the others it makes no difference. -/
theorem due_fire_iff {m : Nat} : Due (moves ++ [.fire m]) n path ↔ Due moves n path ∧ n ≠ m := by
  by_cases stopped : .shutdown ∈ moves
  · constructor
    · intro due
      exact absurd (List.mem_append_left _ stopped) due.running
    · rintro ⟨due, -⟩
      exact absurd stopped due.running
  · have all := scheduled_fire moves m
    constructor
    · intro due
      have waiting := due.waiting
      simp only [List.mem_append, List.mem_singleton, not_or, Move.fire.injEq] at waiting
      refine ⟨⟨⟨?_, ?_⟩, waiting.1, stopped⟩, waiting.2⟩
      · rw [← all]
        exact due.isLatest.started
      · rw [← all]
        exact due.isLatest.latest
    · rintro ⟨due, other⟩
      refine ⟨⟨?_, ?_⟩, ?_, ?_⟩
      · rw [all]
        exact due.isLatest.started
      · rw [all]
        exact due.isLatest.latest
      · simp [due.waiting, other]
      · simp [stopped]

/-- For no path is there more than one task due. -/
theorem Due.unique {n' : Nat} {path' : String} (due : Due moves n path) (due' : Due moves n' path')
    (same : Path.identity path = Path.identity path') : n = n' := by
  obtain before | rfl | after := Nat.lt_trichotomy n n'
  · exact absurd same.symm (due.isLatest.latest n' path' before due'.isLatest.started)
  · rfl
  · exact absurd same (due'.isLatest.latest n path after due.isLatest.started)

end Moves

/-! ## What a scheduler keeps -/

/-- The moves of a course. -/
def moves (events : List Event) : List Move := events.map Event.move

/-- A scheduler has kept what is needed to go on after certain moves. -/
structure Tracks (moves : List Move) (c : Cleanup) : Prop where
  started : c.started = (scheduled moves).mapIdx fun n path => ⟨path, n + 1⟩
  generation : c.generation = (scheduled moves).length
  stopped : c.stopped = true ↔ .shutdown ∈ moves
  pending : ∀ key g, c.pending[key]? = some g ↔
    ∃ n path, Due moves n path ∧ Path.identity path = key ∧ g = n + 1
  fired : ∀ n, .fire n ∈ moves → n < (scheduled moves).length

namespace Tracks

variable {moves : List Move} {c : Cleanup}

theorem start : Tracks [] {} where
  started := rfl
  generation := rfl
  stopped := by simp
  pending key g := by
    constructor
    · simp
    · rintro ⟨n, path, due, -⟩
      have started := due.isLatest.started
      simp [scheduled] at started
  fired := by simp

/-- A task that was started is known by its number, and so is its path. -/
theorem started_iff (tracks : Tracks moves c) {n : Nat} {t : Task} :
    c.started[n]? = some t ↔ ∃ path, (scheduled moves)[n]? = some path ∧ t = ⟨path, n + 1⟩ := by
  rw [tracks.started, List.getElem?_mapIdx, Option.map_eq_some_iff]
  simp only [eq_comm]

/-- The current tasks are those that are due. -/
theorem isCurrent_iff (tracks : Tracks moves c) {n : Nat} {path : String}
    (started : (scheduled moves)[n]? = some path) :
    c.isCurrent ⟨path, n + 1⟩ = true ↔ Due moves n path := by
  rw [isCurrent, beq_iff_eq, tracks.pending]
  constructor
  · rintro ⟨n', path', due, -, same⟩
    obtain rfl : n = n' := Nat.succ.inj same
    obtain rfl := Option.some.inj (started.symm.trans due.isLatest.started)
    exact due
  · intro due
    exact ⟨n, path, due, rfl, rfl⟩

/-- Nothing is to be done for a move that starts no task and makes no difference to what is due. -/
theorem unchanged {moves' : List Move} (tracks : Tracks moves c)
    (all : scheduled moves' = scheduled moves)
    (stopped : Move.shutdown ∈ moves' ↔ .shutdown ∈ moves)
    (due : ∀ n path, Due moves' n path ↔ Due moves n path)
    (fired : ∀ n, .fire n ∈ moves' → n < (scheduled moves).length) : Tracks moves' c where
  started := all ▸ tracks.started
  generation := all ▸ tracks.generation
  stopped := tracks.stopped.trans stopped.symm
  pending key g := by
    simp only [tracks.pending, due]
  fired := all ▸ fired

theorem not_due_of_shutdown (stopped : .shutdown ∈ moves) (n : Nat) (path : String) :
    ¬Due moves n path := fun due => due.running stopped

theorem schedule (tracks : Tracks moves c) (path : String) :
    Tracks (moves ++ [.schedule path]) (c.schedule path) := by
  by_cases stopped : .shutdown ∈ moves
  · have same : c.schedule path = c := if_pos (tracks.stopped.mpr stopped)
    have all := scheduled_append_of_shutdown stopped [.schedule path]
    rw [same]
    apply tracks.unchanged all
    · simp
    · intro n path'
      have before := not_due_of_shutdown stopped n path'
      have after := not_due_of_shutdown (List.mem_append_left [.schedule path] stopped) n path'
      exact iff_of_false after before
    · simpa using tracks.fired
  · have goesOn : ¬c.stopped = true := fun isStopped => stopped (tracks.stopped.mp isStopped)
    have all : scheduled (moves ++ [.schedule path]) = scheduled moves ++ [path] :=
      scheduled_append stopped _
    rw [Cleanup.schedule, if_neg goesOn]
    refine ⟨?_, ?_, ?_, ?_, ?_⟩
    · rw [all, List.mapIdx_append]
      simp [tracks.started, tracks.generation]
    · simp [all, tracks.generation]
    · simpa using tracks.stopped
    · intro key g
      dsimp only
      simp only [Std.ExtTreeMap.getElem?_insert, Std.LawfulEqCmp.compare_eq_iff_eq]
      split
      · rename_i same
        subst same
        rw [tracks.generation, Option.some.injEq]
        constructor
        · rintro rfl
          exact ⟨_, path, (due_schedule_iff stopped tracks.fired).mpr (.inl ⟨rfl, rfl⟩), rfl, rfl⟩
        · rintro ⟨n, path', due, same, rfl⟩
          obtain ⟨rfl, -⟩ | ⟨-, other⟩ := (due_schedule_iff stopped tracks.fired).mp due
          · rfl
          · exact absurd same.symm other
      · rename_i other
        rw [tracks.pending]
        constructor
        · rintro ⟨n, path', due, rfl, rfl⟩
          exact ⟨n, path', (due_schedule_iff stopped tracks.fired).mpr (.inr ⟨due, other⟩), rfl, rfl⟩
        · rintro ⟨n, path', due, rfl, rfl⟩
          obtain ⟨rfl, rfl⟩ | ⟨due, -⟩ := (due_schedule_iff stopped tracks.fired).mp due
          · exact absurd rfl other
          · exact ⟨n, path', due, rfl, rfl⟩
    · intro n isFired
      have old := tracks.fired n (by simpa using isFired)
      rw [all, List.length_append]
      omega

theorem fire (tracks : Tracks moves c) {n : Nat} {path : String}
    (started : (scheduled moves)[n]? = some path) (fs : Files) :
    Tracks (moves ++ [.fire n]) (c.fire ⟨path, n + 1⟩ fs).1 := by
  have all := scheduled_fire moves n
  have fired : ∀ m, .fire m ∈ moves ++ [.fire n] → m < (scheduled moves).length := by
    intro m isFired
    simp only [List.mem_append, List.mem_singleton, Move.fire.injEq] at isFired
    obtain before | rfl := isFired
    · exact tracks.fired m before
    · exact (List.getElem?_eq_some_iff.mp started).1
  rw [Cleanup.fire]
  split
  · rename_i current
    have isDue := (tracks.isCurrent_iff started).mp current
    refine ⟨?_, ?_, ?_, ?_, ?_⟩
    · rw [all]
      exact tracks.started
    · rw [all]
      exact tracks.generation
    · simpa using tracks.stopped
    · intro key g
      dsimp only
      simp only [Std.ExtTreeMap.getElem?_erase, Std.LawfulEqCmp.compare_eq_iff_eq]
      split
      · rename_i same
        constructor
        · rintro ⟨⟩
        · rintro ⟨n', path', due, same', -⟩
          obtain ⟨due, other⟩ := due_fire_iff.mp due
          exact absurd (due.unique isDue (same'.trans same.symm)) other
      · rename_i other
        rw [tracks.pending]
        constructor
        · rintro ⟨n', path', due, rfl, rfl⟩
          refine ⟨n', path', due_fire_iff.mpr ⟨due, ?_⟩, rfl, rfl⟩
          rintro rfl
          have same := Option.some.inj (due.isLatest.started.symm.trans started)
          exact other (congrArg Path.identity same.symm)
        · rintro ⟨n', path', due, rfl, rfl⟩
          exact ⟨n', path', (due_fire_iff.mp due).1, rfl, rfl⟩
    · rw [all]
      exact fired
  · rename_i notCurrent
    apply tracks.unchanged all
    · simp
    · intro n' path'
      rw [due_fire_iff]
      constructor
      · exact And.left
      · intro due
        refine ⟨due, ?_⟩
        rintro rfl
        have same := Option.some.inj (due.isLatest.started.symm.trans started)
        exact notCurrent ((tracks.isCurrent_iff started).mpr (same ▸ due))
    · exact fired

theorem shutdown (tracks : Tracks moves c) : Tracks (moves ++ [.shutdown]) c.shutdown := by
  have all := scheduled_shutdown moves
  have none := not_due_of_shutdown (show .shutdown ∈ moves ++ [.shutdown] by simp)
  have fired : ∀ n, .fire n ∈ moves ++ [.shutdown] → n < (scheduled moves).length := by
    simpa using tracks.fired
  rw [Cleanup.shutdown]
  split
  · rename_i isStopped
    have stopped := tracks.stopped.mp isStopped
    apply tracks.unchanged all
    · simp [stopped]
    · intro n path
      exact iff_of_false (none n path) (not_due_of_shutdown stopped n path)
    · exact fired
  · refine ⟨?_, ?_, ?_, ?_, ?_⟩
    · rw [all]
      exact tracks.started
    · rw [all]
      exact tracks.generation
    · simp
    · intro key g
      simp [none]
    · rw [all]
      exact fired

theorem step {e : Event} {c' : Cleanup} (tracks : Tracks moves c) (step : Step c e c') :
    Tracks (moves ++ [e.move]) c' := by
  cases step with
  | schedule path fs => exact tracks.schedule path
  | fire started fs =>
      obtain ⟨path, isStarted, rfl⟩ := tracks.started_iff.mp started
      exact tracks.fire isStarted fs
  | shutdown fs => exact tracks.shutdown

/-- The number of pending paths is that of the paths for which a task is due. -/
theorem pendingCount_eq (tracks : Tracks moves c) :
    c.pendingCount = {key | ∃ n path, Due moves n path ∧ Path.identity path = key}.ncard := by
  have keys : {key | ∃ n path, Due moves n path ∧ Path.identity path = key} =
      (c.pending.keys.toFinset : Set (List String)) := by
    ext key
    rw [List.coe_toFinset, Set.mem_ofPred_eq, Set.mem_ofPred_eq, Std.ExtTreeMap.mem_keys,
      Std.ExtTreeMap.mem_iff_isSome_getElem?, Option.isSome_iff_exists]
    simp only [tracks.pending]
    constructor
    · rintro ⟨n, path, due, same⟩
      exact ⟨n + 1, n, path, due, same, rfl⟩
    · rintro ⟨-, n, path, due, same, -⟩
      exact ⟨n, path, due, same⟩
  rw [keys, Set.ncard_coe_finset, List.toFinset_card_of_nodup Std.ExtTreeMap.nodup_keys,
    Std.ExtTreeMap.length_keys]
  rfl

end Tracks

/-! ## Courses -/

section Courses

variable {events : List Event} {c : Cleanup}

theorem Course.tracks (course : Course events c) : Tracks (moves events) c := by
  induction course with
  | start => exact .start
  | step earlier step inductionHypothesis =>
      rw [moves, List.map_append]
      exact inductionHypothesis.step step

/-- Every move of a course was made after the moves before it. -/
theorem Course.cut {before after : List Event} {e : Event} (course : Course events c)
    (parts : events = before ++ e :: after) : ∃ c' c'', Course before c' ∧ Step c' e c'' := by
  induction course generalizing after with
  | start => simp at parts
  | @step earlier c c' last course step inductionHypothesis =>
      cases after using List.reverseRecOn with
      | nil =>
          obtain ⟨rfl, same⟩ := List.append_inj' parts rfl
          cases same
          exact ⟨c, c', course, step⟩
      | append_singleton after final =>
          rw [← List.cons_append, ← List.append_assoc] at parts
          exact inductionHypothesis (List.append_inj' parts rfl).1

/-- The files after a move: changed only when a task is fired that is due. -/
theorem Step.after_eq {moves : List Move} {e : Event} {c' : Cleanup} (tracks : Tracks moves c)
    (step : Step c e c') :
    (∀ n path, e.move = .fire n → Due moves n path → e.after = removeAlias e.before path) ∧
      ((∀ n path, e.move = .fire n → ¬Due moves n path) → e.after = e.before) := by
  cases step with
  | schedule path fs => simp
  | shutdown fs => simp
  | @fire n t started fs =>
      obtain ⟨path, isStarted, rfl⟩ := tracks.started_iff.mp started
      unfold Cleanup.fire
      constructor
      · rintro n path' ⟨⟩ due
        obtain rfl := Option.some.inj (isStarted.symm.trans due.isLatest.started)
        rw [if_pos ((tracks.isCurrent_iff isStarted).mpr due)]
      · intro notDue
        rw [if_neg]
        intro current
        exact notDue n path rfl ((tracks.isCurrent_iff isStarted).mp current)

theorem Course.after_eq {before after : List Event} {e : Event} (course : Course events c)
    (parts : events = before ++ e :: after) :
    (∀ n path, e.move = .fire n → Due (moves before) n path →
      e.after = removeAlias e.before path) ∧
      ((∀ n path, e.move = .fire n → ¬Due (moves before) n path) → e.after = e.before) := by
  obtain ⟨c', c'', earlier, step⟩ := course.cut parts
  exact step.after_eq earlier.tracks

/-- A file is lost only when the latest task for its path is fired. -/
theorem Course.isLatest_of_losesFile {before after : List Event} {e : Event} {location : Location}
    {node : Node} (course : Course events c) (parts : events = before ++ e :: after)
    (lost : e.before.LosesFile e.after location node) :
    ∃ n path, e.move = .fire n ∧ IsLatest (moves before) n path ∧
      (e.before.Anchored → e.before.stat path false = .ok (location, node)) := by
  obtain ⟨removes, keeps⟩ := course.after_eq parts
  by_cases fires : ∃ n path, e.move = .fire n ∧ Due (moves before) n path
  · obtain ⟨n, path, move, due⟩ := fires
    rw [removes n path move due] at lost
    exact ⟨n, path, move, due.isLatest, fun anchored => stat_of_losesFile anchored lost⟩
  · rw [keeps fun n path move due => fires ⟨n, path, move, due⟩] at lost
    have never := lost.before.symm.trans lost.after
    cases never

/-- A task that is fired again does nothing. -/
theorem Course.fired_once (course : Course events c) :
    events.Pairwise fun e e' => ∀ n, e.move = .fire n → e'.move = .fire n →
      e'.after = e'.before := by
  rw [List.pairwise_iff_getElem]
  intro i j inI inJ before n first second
  have parts : events = events.take j ++ events[j] :: events.drop (j + 1) := by
    rw [List.cons_getElem_drop_succ, List.take_append_drop]
  apply (course.after_eq parts).2
  intro n' path move due
  obtain rfl := Move.fire.inj (second.symm.trans move)
  apply due.waiting
  rw [← first]
  exact List.mem_map_of_mem (List.mem_take_iff_getElem.mpr ⟨i, by omega, rfl⟩)

/-- A move changes files only by firing a task that is due: the one started last for its path, which was
not fired before, while there was no shutdown. It then removes the alias at that path, and no other file
is lost. So a task that was replaced does nothing, nor does one that was fired before, nor any after a
shutdown. The number of pending paths is that of the paths whose latest task was not fired. After a
shutdown it is zero, and scheduling does nothing. -/
theorem Course.only_due_removes (course : Course events c) :
    (∀ before e after, events = before ++ e :: after →
      (∀ n path, e.move = .fire n → Due (moves before) n path →
        e.after = removeAlias e.before path) ∧
      ((∀ n path, e.move = .fire n → ¬Due (moves before) n path) → e.after = e.before) ∧
      (∀ location node, e.before.LosesFile e.after location node →
        ∃ n path, e.move = .fire n ∧ IsLatest (moves before) n path ∧
          (e.before.Anchored → e.before.stat path false = .ok (location, node))) ∧
      (∀ n m path path', e.move = .fire n → (scheduled (moves before))[n]? = some path →
        n < m → (scheduled (moves before))[m]? = some path' →
        Path.identity path' = Path.identity path → e.after = e.before) ∧
      (.shutdown ∈ moves before → e.after = e.before)) ∧
    events.Pairwise (fun e e' => ∀ n, e.move = .fire n → e'.move = .fire n →
      e'.after = e'.before) ∧
    (.shutdown ∉ moves events → c.pendingCount =
      {key | ∃ n path, IsLatest (moves events) n path ∧ .fire n ∉ moves events ∧
        Path.identity path = key}.ncard) ∧
    (.shutdown ∈ moves events → c.pendingCount = 0 ∧ ∀ path, c.schedule path = c) := by
  have tracks := course.tracks
  refine ⟨?_, course.fired_once, ?_, ?_⟩
  · intro before e after parts
    obtain ⟨removes, keeps⟩ := course.after_eq parts
    refine ⟨removes, keeps, ?_, ?_, ?_⟩
    · intro location node lost
      exact course.isLatest_of_losesFile parts lost
    · intro n m path path' move started later replaced same
      apply keeps
      intro n' path'' move' due
      obtain rfl := Move.fire.inj (move.symm.trans move')
      obtain rfl := Option.some.inj (started.symm.trans due.isLatest.started)
      exact due.isLatest.latest m path' later replaced same
    · intro stopped
      exact keeps fun n path move due => due.running stopped
  · intro running
    rw [tracks.pendingCount_eq]
    congr 1
    ext key
    constructor
    · rintro ⟨n, path, due, same⟩
      exact ⟨n, path, due.isLatest, due.waiting, same⟩
    · rintro ⟨n, path, isLatest, waiting, same⟩
      exact ⟨n, path, ⟨isLatest, waiting, running⟩, same⟩
  · intro stopped
    constructor
    · rw [tracks.pendingCount_eq]
      have none : {key | ∃ n path, Due (moves events) n path ∧ Path.identity path = key} = ∅ := by
        ext key
        constructor
        · rintro ⟨n, path, due, -⟩
          exact absurd stopped due.running
        · rintro ⟨⟩
      rw [none, Set.ncard_empty]
    · intro path
      exact if_pos (tracks.stopped.mpr stopped)

/-- An alias in its own directory. -/
def aliasFiles : Files where
  nodes := .ofList
    ([(["tmp"], .directory), (["tmp", "kick.wav"], .file 0)] : List (Location × Node))
  data := ∅
  nextId := 1
  clock := 0
  working := []

/-- Two paths for one alias are scheduled, one after the other. -/
def scheduledTwice : Cleanup := (({} : Cleanup).schedule "tmp/kick.wav").schedule "tmp//kick.wav"

/-- Both tasks are fired, and then there is a shutdown. -/
def firedBoth : List Event :=
  let first := scheduledTwice.fire ⟨"tmp/kick.wav", 1⟩ aliasFiles
  let second := first.1.fire ⟨"tmp//kick.wav", 2⟩ aliasFiles
  [⟨.schedule "tmp/kick.wav", aliasFiles, aliasFiles⟩,
    ⟨.schedule "tmp//kick.wav", aliasFiles, aliasFiles⟩, ⟨.fire 0, aliasFiles, first.2⟩,
    ⟨.fire 1, aliasFiles, second.2⟩, ⟨.shutdown, second.2, second.2⟩]

theorem firedBoth_course : ∃ c, Course firedBoth c :=
  ⟨_, ((((Course.start.step (.schedule "tmp/kick.wav" aliasFiles)).step
    (.schedule "tmp//kick.wav" aliasFiles)).step
    (.fire (n := 0) (t := ⟨"tmp/kick.wav", 1⟩) rfl aliasFiles)).step
    (.fire (n := 1) (t := ⟨"tmp//kick.wav", 2⟩) rfl aliasFiles)).step (.shutdown _)⟩

/-- The alias is removed with the second task and not with the first one. -/
theorem scheduledTwice_removed_once :
    ∃ c, Course firedBoth c ∧ c.pendingCount = 0 ∧
      (∀ e ∈ firedBoth, e.move = .fire 0 → e.after = e.before) ∧
      ∃ e ∈ firedBoth, e.move = .fire 1 ∧
        e.before.LosesFile e.after ["tmp", "kick.wav"] (.file 0) := by
  obtain ⟨c, course⟩ := firedBoth_course
  obtain ⟨each, -, -, stopped⟩ := course.only_due_removes
  refine ⟨c, course, (stopped (by simp [moves, firedBoth])).1, ?_, ?_⟩
  · intro e isEvent move
    obtain ⟨-, -, -, replaced, -⟩ := each (firedBoth.take 2) _ (firedBoth.drop 3) rfl
    simp only [firedBoth, List.mem_cons, List.not_mem_nil, or_false] at isEvent
    obtain rfl | rfl | rfl | rfl | rfl := isEvent <;> cases move
    exact replaced 0 1 _ _ rfl rfl (by decide) rfl rfl
  · obtain ⟨removes, -⟩ := each (firedBoth.take 3) _ (firedBoth.drop 4) rfl
    have due : Due (moves (firedBoth.take 3)) 1 "tmp//kick.wav" := by
      refine ⟨⟨rfl, ?_⟩, by decide, by decide⟩
      intro m path later started
      have inside := (List.getElem?_eq_some_iff.mp started).1
      have two : (scheduled (moves (firedBoth.take 3))).length = 2 := rfl
      omega
    refine ⟨_, List.mem_of_getElem? (i := 3) rfl, rfl, rfl, by decide, ?_⟩
    rw [removes 1 _ rfl due]
    rfl

end Courses

end Cleanup

end SampleLibrary
