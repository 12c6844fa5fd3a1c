import Mathlib.Tactic.Common
import SampleLibrary.Verifier.Basic

/-!
# What steps of a verification keep up

Much of a verification is talk, which changes neither tables nor files (`Talk`). What talk keeps up, and
what every single repair keeps up, is kept up by a whole stage, whether it fails or not (`Keeps`).
-/

namespace SampleLibrary

theorem Library.tables_eq_ok_iff {lib : Library} {fs : Files} {t : Tables} :
    lib.tables fs = .ok t ↔
      lib.isClosed = false ∧ (fs.dataOf lib.database).content = .database t := by
  unfold Library.tables
  constructor
  · intro isOpen
    split at isOpen
    · cases isOpen
    · rename_i isOpened
      split at isOpen
      · rename_i found
        cases isOpen
        exact ⟨by simpa using isOpened, found⟩
      · cases isOpen
  · rintro ⟨isOpened, found⟩
    simp [isOpened, found]

namespace Verifier

/-- Whoever answers agrees to every repair, now and whenever an earlier answer holds. -/
def Agreeable (observer : Observer) (r : Run) : Prop :=
  (∀ history p, (observer history p).isYes = true) ∧
    ∀ kind a, r.saved kind = some a → a.isYes = true

/-- From one run to another something has been said, and nothing else has happened. -/
structure Talk (observer : Observer) (allowed : Event → Prop) (r r' : Run) : Prop where
  tables : r'.tables = r.tables
  edited : r'.edited = r.edited
  files : r'.files = r.files
  report : r'.report =
    { r.report with itemsChecked := r'.report.itemsChecked, issues := r'.report.issues }
  calm : r.progress.error = none → r'.progress.error = none
  agreeable : Agreeable observer r → Agreeable observer r'
  said : ∃ said, r'.history = said ++ r.history ∧ ∀ event ∈ said, allowed event

/-- What is said about a problem. -/
inductive About (p : Problem) : Event → Prop where
  | progress {q : Progress} : q.error = some p.message → About p (.progress q)
  | asked (a : Answer) : About p (.asked p a)
  | recalled (a : Answer) : About p (.recalled p a)

/-- A report that says how far the run has come, and nothing more. -/
inductive Plain : Event → Prop where
  | progress {q : Progress} : q.error = none → Plain (.progress q)

namespace Talk

variable {observer : Observer} {allowed allowed' : Event → Prop} {r r' r'' : Run}

theorem refl (r : Run) : Talk observer allowed r r :=
  ⟨rfl, rfl, rfl, rfl, id, id, [], rfl, by simp⟩

theorem trans (first : Talk observer allowed r r') (second : Talk observer allowed r' r'') :
    Talk observer allowed r r'' := by
  rcases first.said with ⟨said, history, isAllowed⟩
  rcases second.said with ⟨more, longer, moreAllowed⟩
  refine ⟨second.tables.trans first.tables, second.edited.trans first.edited,
    second.files.trans first.files, ?_, second.calm ∘ first.calm,
    second.agreeable ∘ first.agreeable, more ++ said, ?_, ?_⟩
  · rw [second.report, first.report]
  · rw [longer, history, List.append_assoc]
  · intro event membership
    rcases List.mem_append.mp membership with new | old
    · exact moreAllowed event new
    · exact isAllowed event old

theorem mono (talk : Talk observer allowed r r') (weaker : ∀ event, allowed event → allowed' event) :
    Talk observer allowed' r r' := by
  rcases talk.said with ⟨said, history, isAllowed⟩
  exact ⟨talk.tables, talk.edited, talk.files, talk.report, talk.calm, talk.agreeable, said, history,
    fun event membership => weaker event (isAllowed event membership)⟩

theorem suffix (talk : Talk observer allowed r r') : r.history <:+ r'.history := by
  rcases talk.said with ⟨said, history, -⟩
  exact ⟨said, history.symm⟩

end Talk

section Primitives

variable (observer : Observer)

theorem talk_nextStage (r : Run) (name : String) : Talk observer Plain r (r.nextStage name) :=
  ⟨rfl, rfl, rfl, rfl, fun _ => rfl, id, [.progress ⟨r.progress.stage + 1, name, 0, none⟩], rfl,
    by simpa using .progress rfl⟩

theorem talk_advance {r : Run} (percent : Nat) (calm : r.progress.error = none) :
    Talk observer Plain r (r.advance percent) := by
  unfold Run.advance
  dsimp only
  split
  · refine ⟨rfl, rfl, rfl, rfl, id, id,
      [.progress { r.progress with percent := min percent 100 }], rfl, ?_⟩
    intro event membership
    rw [List.mem_singleton.mp membership]
    exact .progress calm
  · exact Talk.refl r

theorem talk_complain (r : Run) (label message : String) :
    Talk observer (fun event => ∃ p : Progress, p.error = some message ∧ event = .progress p) r
      (r.complain label message) :=
  ⟨rfl, rfl, rfl, rfl, id, id, [.progress { r.progress with error := some message }], rfl,
    by simp⟩

theorem talk_ask (r : Run) (p : Problem) : Talk observer (About p) r (r.ask observer p).2 := by
  have complained : Talk observer (About p) r (r.complain p.kind.toName p.message) :=
    (talk_complain observer r _ _).mono fun event ⟨q, error, same⟩ => same ▸ .progress error
  apply complained.trans
  unfold Run.ask
  dsimp only
  split
  · rename_i a saved
    exact ⟨rfl, rfl, rfl, rfl, id, id, [.recalled p a], rfl, by simpa using .recalled a⟩
  · refine ⟨rfl, rfl, rfl, rfl, id, fun agreeable => ⟨agreeable.1, ?_⟩, [.asked p _], rfl,
      by simpa using .asked _⟩
    intro kind a saved
    dsimp only at saved
    split at saved
    · dsimp only at saved
      split at saved
      · cases saved
        exact agreeable.1 _ _
      · exact agreeable.2 kind a saved
    · exact agreeable.2 kind a saved

variable {observer} in
theorem ask_of_agreeable {r : Run} (agreeable : Agreeable observer r) (p : Problem) :
    (r.ask observer p).1 = true := by
  unfold Run.ask
  dsimp only
  split
  · rename_i a saved
    exact agreeable.2 _ _ saved
  · exact agreeable.1 _ _

theorem talk_note_itemsChecked (r : Run) (items : Nat) :
    Talk observer Plain r (r.note fun report => { report with itemsChecked := items }) :=
  ⟨rfl, rfl, rfl, rfl, id, id, [], rfl, by simp⟩

@[simp]
theorem advance_tables (r : Run) (percent : Nat) : (r.advance percent).tables = r.tables := by
  unfold Run.advance
  dsimp only
  split <;> rfl

@[simp]
theorem advance_files (r : Run) (percent : Nat) : (r.advance percent).files = r.files := by
  unfold Run.advance
  dsimp only
  split <;> rfl

@[simp]
theorem advance_report (r : Run) (percent : Nat) : (r.advance percent).report = r.report := by
  unfold Run.advance
  dsimp only
  split <;> rfl

@[simp]
theorem advance_edited (r : Run) (percent : Nat) : (r.advance percent).edited = r.edited := by
  unfold Run.advance
  dsimp only
  split <;> rfl

@[simp]
theorem nextStage_tables (r : Run) (name : String) : (r.nextStage name).tables = r.tables := rfl

@[simp]
theorem nextStage_files (r : Run) (name : String) : (r.nextStage name).files = r.files := rfl

@[simp]
theorem nextStage_report (r : Run) (name : String) : (r.nextStage name).report = r.report := rfl

end Primitives

/-! ## Steps -/

/-- The run that a step has come to, also if it has failed. -/
def lastRun : Except Stop Run → Run
  | .ok r => r
  | .error s => s.run

/-- What has gone well to the end has gone well up to its middle. -/
theorem ok_of_bind {first : Except Stop Run} {second : Step} {r' : Run}
    (done : first >>= second = .ok r') : ∃ r, first = .ok r ∧ second r = .ok r' := by
  cases first with
  | error stop => cases done
  | ok r => exact ⟨r, rfl, done⟩

/-- An offer that goes well has been accepted, and the repair has gone well, or it has been refused. -/
theorem offer_cases {observer : Observer} {p : Problem} {repair : Step} {r r' : Run}
    (done : r.offer observer p repair = .ok r') :
    (r.ask observer p).1 = true ∧ repair (r.ask observer p).2 = .ok r' ∨
      (r.ask observer p).1 = false ∧ r' = (r.ask observer p).2 := by
  unfold Run.offer at done
  split at done
  · rename_i r₁ yes
    exact .inl ⟨by rw [yes], by rw [yes]; exact done⟩
  · rename_i r₁ no
    exact .inr ⟨by rw [no], by rw [no]; exact (Except.ok.inj done).symm⟩

theorem edit_ok {lib : Library} {change : Tables → Tables} {counting : Report → Report} {r r' : Run}
    (done : ((r.edit lib change).map fun r => r.note counting) = .ok r') :
    r' = { r with tables := change r.tables, edited := true }.note counting := by
  unfold Run.edit at done
  split at done
  · exact (Except.ok.inj done).symm
  · cases done

/-- A step keeps up what holds of runs, also when it fails. -/
def Keeps (holds : Run → Prop) (step : Step) : Prop := ∀ r, holds r → holds (lastRun (step r))

theorem entriesOf_error {path : String} {r : Run} {s : Stop} (failed : entriesOf path r = .error s) :
    s.run = r := by
  unfold entriesOf at failed
  split at failed
  · cases failed
  · cases failed
    rfl

namespace Keeps

variable {holds : Run → Prop}

theorem of_ok {change : Run → Run} (kept : ∀ r, holds r → holds (change r)) :
    Keeps holds fun r => .ok (change r) :=
  kept

/-- What holds up to here is kept up by the next step, if there is one. -/
theorem after {first : Except Stop Run} {second : Step} (keeps : Keeps holds second)
    (before : holds (lastRun first)) : holds (lastRun (first >>= second)) := by
  cases first with
  | ok r => exact keeps r before
  | error stop => exact before

theorem bind {first second : Step} (keepsFirst : Keeps holds first)
    (keepsSecond : Keeps holds second) : Keeps holds fun r => first r >>= second :=
  fun r before => keepsSecond.after (keepsFirst r before)

theorem foldlM {α : Type} {step : Run → α → Except Stop Run} {entries : List α}
    (keepsEach : ∀ entry, Keeps holds (step · entry)) :
    Keeps holds fun r => entries.foldlM step r := by
  induction entries with
  | nil => exact of_ok fun _ before => before
  | cons entry entries inductionHypothesis =>
      simp only [List.foldlM_cons]
      exact bind (keepsEach entry) inductionHypothesis

theorem offer {observer : Observer} {p : Problem} {repair : Step}
    (asking : ∀ r, holds r → holds (r.ask observer p).2) (repairing : Keeps holds repair) :
    Keeps holds fun r => r.offer observer p repair := by
  intro r before
  have after := asking r before
  dsimp only [Run.offer]
  split
  · rename_i r' answer
    rw [answer] at after
    exact repairing r' after
  · rename_i r' answer
    rw [answer] at after
    exact after

theorem edit {lib : Library} {change : Tables → Tables} {counting : Report → Report}
    (kept : ∀ r, holds r →
      holds ({ r with tables := change r.tables, edited := true }.note counting)) :
    Keeps holds fun r => (r.edit lib change).map fun r => r.note counting := by
  intro r before
  dsimp only [Run.edit]
  split
  · exact kept r before
  · exact before

theorem entriesOf {path : String} {step : List (String × Node) → Step}
    (keepsEach : ∀ entries, Keeps holds (step entries)) :
    Keeps holds fun r => Verifier.entriesOf path r >>= fun entries => step entries r := by
  intro r before
  dsimp only
  cases listed : Verifier.entriesOf path r with
  | ok entries => exact keepsEach entries r before
  | error stop =>
      have unchanged : holds stop.run := entriesOf_error listed ▸ before
      exact unchanged

end Keeps

/-! ## Repairs -/

/-- The run with items deleted and counted. -/
def Run.deleteItems (ids : List Int) (r : Run) : Run :=
  { r with tables := r.tables.deleteItems ids, edited := true }.note fun report =>
    { report with itemsRemoved := report.itemsRemoved + ids.length }

section Repairs

variable {holds : Run → Prop} {lib : Library} {observer : Observer}

theorem keeps_removeItems
    (deleting : ∀ r ids, ids ≠ [] → holds r → holds (Run.deleteItems ids r)) (ids : List Int) :
    Keeps holds (removeItems lib ids) := by
  intro r before
  unfold removeItems
  split
  · exact before
  · rename_i nonempty
    exact Keeps.edit (fun r => deleting r ids (by simpa using nonempty)) r before

theorem keeps_removeInvalid (removing : ∀ r path, holds r → holds (r.removeFile path).2)
    (deleting : ∀ r ids, ids ≠ [] → holds r → holds (Run.deleteItems ids r)) (item : Int)
    (path : String) : Keeps holds (removeInvalid lib item path) := by
  intro r before
  have after := removing r path before
  unfold removeInvalid
  split
  · rename_i r' removed
    rw [removed] at after
    exact Keeps.edit (fun r => deleting r [item] (List.cons_ne_nil _ _)) r' after
  · rename_i r' failed
    rw [failed] at after
    exact after

theorem keeps_offerRemoval {count : Nat} {p : Problem} {change : Tables → Tables}
    (asking : ∀ r, holds r → holds (r.ask observer p).2)
    (dropping : ∀ r, holds r →
      holds ({ r with tables := change r.tables, edited := true }.note fun report =>
        { report with linksRemoved := report.linksRemoved + count })) :
    Keeps holds (offerRemoval lib observer count p change) := by
  intro r before
  unfold offerRemoval
  split
  · exact before
  · exact Keeps.offer asking (Keeps.edit dropping) r before

theorem keeps_checkCounts
    (asking : ∀ r wrong, holds r → holds (r.ask observer (.wrongCounts wrong)).2)
    (recounting : Keeps holds (recount lib)) : Keeps holds (checkCounts lib observer) := by
  intro r before
  unfold checkCounts
  split
  · exact recounting r before
  · split
    · exact before
    · exact Keeps.offer (fun r => asking r _) recounting r before

end Repairs

/-! ## The second stage -/

/-- The problem is that a file which an item should have has other content or none. -/
inductive Problem.IsInvalid (item : Int) (path : String) : Problem → Prop where
  | wrongChecksum : IsInvalid item path (.wrongChecksum item path)
  | unreadable : IsInvalid item path (.unreadable item path)

theorem Problem.IsInvalid.kind {item : Int} {path : String} {p : Problem}
    (invalid : p.IsInvalid item path) : p.kind = .removeInvalidItem := by
  cases invalid <;> rfl

theorem isInvalid_of_contentProblem? {files : Files} {item : Int} {path md5 : String} {p : Problem}
    (problem : contentProblem? files item path md5 = some p) : p.IsInvalid item path := by
  unfold contentProblem? at problem
  split at problem
  · split at problem
    · cases problem
    · cases problem
      exact .wrongChecksum
  · cases problem
    exact .unreadable

/-- The kinds of problems that are repaired by removing a file or a directory. -/
def removalKinds : List Kind := [.removeStaleTmpDir, .removeUnknownFile, .removeInvalidItem]

/-- Checking a file keeps up what asking, removing the file and deleting its item keep up. -/
theorem keeps_checkBlob {holds : Run → Prop} {lib : Library} {observer : Observer}
    (asking : ∀ r (p : Problem), p.kind ∈ removalKinds → holds r → holds (r.ask observer p).2)
    (removing : ∀ r path, holds r → holds (r.removeFile path).2)
    (deleting : ∀ r ids, ids ≠ [] → holds r → holds (Run.deleteItems ids r))
    (path md5 extension : String) : Keeps holds (checkBlob lib observer path md5 extension) := by
  have offers {p : Problem} {repair : Step} (ofFiles : p.kind ∈ removalKinds)
      (repairing : Keeps holds repair) : Keeps holds fun r => r.offer observer p repair :=
    Keeps.offer (fun r => asking r p ofFiles) repairing
  have unknown : Keeps holds (removeUnknown path) := fun r => removing r path
  intro r before
  unfold checkBlob
  split
  · exact offers (by simp [Problem.kind, removalKinds]) unknown r before
  · split
    · rename_i p problem
      have ofFiles : p.kind ∈ removalKinds := by
        simp [(isInvalid_of_contentProblem? problem).kind, removalKinds]
      exact offers ofFiles (keeps_removeInvalid removing deleting _ path) r before
    · split
      · exact before
      · exact offers (by simp [Problem.kind, removalKinds]) unknown r before

/-- The second stage keeps up what talk, removing a file or a directory, and deleting items keep up. -/
theorem keeps_checkFiles {holds : Run → Prop} {lib : Library} {observer : Observer} {process : Nat}
    (staging : ∀ r name, holds r → holds (r.nextStage name))
    (advancing : ∀ r percent, holds r → holds (r.advance percent))
    (asking : ∀ r (p : Problem), p.kind ∈ removalKinds → holds r → holds (r.ask observer p).2)
    (removing : ∀ r path, holds r → holds (r.removeFile path).2)
    (clearing : ∀ r path, holds r → holds (r.removeDirectory path))
    (deleting : ∀ r ids, ids ≠ [] → holds r → holds (Run.deleteItems ids r)) :
    Keeps holds (checkFiles lib observer process) := by
  have file (path md5 extension : String) :
      Keeps holds (checkBlob lib observer path md5 extension) :=
    keeps_checkBlob asking removing deleting path md5 extension
  have stale (path : String) : Keeps holds fun r =>
      r.offer observer (.staleTmpDir path) fun r => .ok (r.removeDirectory path) :=
    Keeps.offer (fun r => asking r _ (by simp [Problem.kind, removalKinds]))
      (.of_ok fun r => clearing r path)
  have entry (first second : String) (e : String × Node) :
      Keeps holds (checkBlobEntry lib observer first second e) := by
    intro r before
    unfold checkBlobEntry
    split
    · split
      · exact file _ _ _ r before
      · exact before
    · exact before
  have second (first : String) (e : String × Node) :
      Keeps holds (checkSecondEntry lib observer first e) := by
    intro r before
    unfold checkSecondEntry
    split
    · exact Keeps.entriesOf (fun entries => .foldlM fun e' => entry first e.1 e') _
        (advancing r _ before)
    · exact before
  have top (e : String × Node) : Keeps holds (checkTopEntry lib observer process e) := by
    intro r before
    unfold checkTopEntry
    dsimp only
    split
    · exact before
    · split
      · exact Keeps.entriesOf (fun entries => .foldlM fun e' => second e.1 e') r before
      · split
        · split
          · exact before
          · exact stale _ r before
        · exact before
  intro r before
  exact Keeps.entriesOf (fun entries => Keeps.bind (.foldlM top)
    (.of_ok fun r before => advancing r 100 before)) _ (staging r _ before)

/-! ## The third stage -/

/-- The third stage keeps up what talk, each of its offers, and looking at the counters keep up. -/
theorem keeps_checkLinks {holds : Run → Prop} {lib : Library} {observer : Observer}
    (staging : ∀ r name, holds r → holds (r.nextStage name))
    (advancing : ∀ r percent, holds r → holds (r.advance percent))
    (tags : ∀ count ids, Keeps holds
      (offerRemoval lib observer count (.linksWithoutTag ids) Tables.dropLinksWithoutTag))
    (items : ∀ count ids, Keeps holds
      (offerRemoval lib observer count (.linksWithoutItem ids) Tables.dropLinksWithoutItem))
    (customs : ∀ count, Keeps holds
      (offerRemoval lib observer count (.strayCustomValues count) Tables.dropStrayCustoms))
    (counts : Keeps holds (checkCounts lib observer)) : Keeps holds (checkLinks lib observer) := by
  intro r before
  unfold checkLinks
  refine Keeps.after ?_ (tags _ _ _ (advancing _ 25 (staging r _ before)))
  intro r before
  refine Keeps.after ?_ (items _ _ _ (advancing r 50 before))
  intro r before
  refine Keeps.after ?_ (customs _ _ (advancing r 75 before))
  intro r before
  refine Keeps.after ?_ (counts r before)
  exact .of_ok fun r before => advancing r 100 before

end Verifier

end SampleLibrary
