import SampleLibrary.Proofs.Files.Removing
import SampleLibrary.Proofs.Storage.Schema
import SampleLibrary.Proofs.Verifier.Course
import SampleLibrary.Proofs.Verifier.Names

/-!
# What the second stage does with one file or directory

The second stage does one thing after the other: it looks at a file, offers to remove a directory, lists
a directory, or tells how far it has come. A visit finds something wrong or not (`Visit.finding?`). If
it does and the removal is agreed to and succeeds, the file or directory is cleared away, and certain
items with it; otherwise nothing changes (`Visit.step_taken`).
-/

namespace SampleLibrary.Verifier

/-- The path of the file with a checksum and an extension. -/
def blobPath (lib : Library) (md5 extension : String) : String :=
  Path.below (Path.below (Path.below lib.base (firstPart md5)) (secondPart md5))
    (blobName md5 extension)

/-- Something that the second stage does. -/
inductive Visit where
  | progress (percent : Nat)
  | listing (path : String)
  | file (md5 extension : String)
  | stale (name : String)

namespace Visit

/-- What is done. -/
def step (lib : Library) (observer : Observer) : Visit → Step
  | progress percent => fun r => .ok (r.advance percent)
  | listing path => fun r => (entriesOf path r).map fun _ => r
  | file md5 extension => checkBlob lib observer (blobPath lib md5 extension) md5 extension
  | stale name => fun r =>
    let path := Path.below lib.base name
    r.offer observer (.staleTmpDir path) fun r => .ok (r.removeDirectory path)

/-- What is wrong with a file or directory, if anything is, with the items that go when it is removed. -/
def finding? (lib : Library) (t : Tables) (fs : Files) : Visit → Option (Problem × List Int)
  | file md5 extension =>
    let path := blobPath lib md5 extension
    match t.libraryItem? md5 with
    | none => some (.unknownFile path, [])
    | some i =>
      match contentProblem? fs i.id path md5 with
      | some p => some (p, [i.id])
      | none =>
        if Blob.extension (i.text? .format) == "." ++ extension then none
        else some (.wrongExtension path ((i.text? .format).getD ""), [])
  | stale name => some (.staleTmpDir (Path.below lib.base name), [])
  | _ => none

/-- What can be wrong at a visit, with the items that go and the repair that is offered. -/
inductive Finds (lib : Library) (t : Tables) (fs : Files) :
    Visit → Problem → List Int → Step → Prop where
  | stale {name : String} :
      Finds lib t fs (.stale name) (.staleTmpDir (Path.below lib.base name)) []
        fun r => .ok (r.removeDirectory (Path.below lib.base name))
  | unknown {md5 extension : String} (missing : t.libraryItem? md5 = none) :
      Finds lib t fs (.file md5 extension) (.unknownFile (blobPath lib md5 extension)) []
        (removeUnknown (blobPath lib md5 extension))
  | invalid {md5 extension : String} {i : Item} {p : Problem}
      (present : t.libraryItem? md5 = some i)
      (problem : contentProblem? fs i.id (blobPath lib md5 extension) md5 = some p) :
      Finds lib t fs (.file md5 extension) p [i.id]
        (removeInvalid lib i.id (blobPath lib md5 extension))
  | misnamed {md5 extension : String} {i : Item} (present : t.libraryItem? md5 = some i)
      (right : contentProblem? fs i.id (blobPath lib md5 extension) md5 = none)
      (named : ¬(Blob.extension (i.text? .format) == "." ++ extension) = true) :
      Finds lib t fs (.file md5 extension)
        (.wrongExtension (blobPath lib md5 extension) ((i.text? .format).getD "")) []
        (removeUnknown (blobPath lib md5 extension))

/-- The files without what was visited. -/
def clear (lib : Library) (fs : Files) : Visit → Except FileError Files
  | file md5 extension => fs.remove (blobPath lib md5 extension)
  | stale name => fs.removeTree (Path.below lib.base name)
  | _ => .ok fs

/-- What was visited has been cleared away, with the items that go with it. -/
structure Cleared (lib : Library) (v : Visit) (gone : List Int) (r r' : Run) : Prop where
  files : v.clear lib r.files = .ok r'.files
  tables : r'.tables = r.tables.deleteItems gone

/-- What comes of a visit. -/
structure Taken (lib : Library) (observer : Observer) (v : Visit) (r r' : Run) : Prop where
  later : Later observer r r'
  /-- Only what is wrong is cleared away. -/
  effect : (r'.tables = r.tables ∧ r'.files = r.files) ∨
    ∃ p gone, v.finding? lib r.tables r.files = some (p, gone) ∧ v.Cleared lib gone r r'
  /-- If all is agreed to, everything that is wrong is cleared away, unless the removal fails. -/
  thorough : Agreeable observer r → ∀ p gone, v.finding? lib r.tables r.files = some (p, gone) →
    v.Cleared lib gone r r' ∨ failures r < failures r' ∧ ∃ e, v.clear lib r.files = .error e
  /-- What is wrong is told. -/
  loud : (v.finding? lib r.tables r.files).isSome → ∃ event ∈ r'.history, ¬Plain event
  counted : r'.report.tagCountsFixed = r.report.tagCountsFixed

/-- A removal that was agreed to has been tried. -/
structure Tried (lib : Library) (v : Visit) (gone : List Int) (r r' : Run) : Prop where
  outcome : (v.Cleared lib gone r r' ∧ removalsDone r'.report = removalsDone r.report + 1) ∨
    ((∃ e, v.clear lib r.files = .error e) ∧ r'.tables = r.tables ∧ r'.files = r.files ∧
      removalsDone r'.report = removalsDone r.report)
  data : r'.files.data = r.files.data
  edited : r'.edited = false → r.edited = false ∧ r'.tables = r.tables
  history : r'.history = r.history
  saved : r'.saved = r.saved
  progress : r'.progress = r.progress
  counted : r'.report.tagCountsFixed = r.report.tagCountsFixed

section Offers

variable {lib : Library} {observer : Observer} {v : Visit} {r r' : Run} {gone : List Int}

theorem deleteItems_nil (t : Tables) : t.deleteItems [] = t := by
  simp [Tables.deleteItems]

theorem clear_within {fs fs' : Files} (cleared : v.clear lib fs = .ok fs') : fs'.Within fs := by
  cases v with
  | progress | listing => exact Except.ok.inj cleared ▸ .refl _
  | file => exact Files.within_remove cleared
  | stale => exact Files.within_removeTree cleared

/-- What cannot be removed stays, and so does everything else. -/
theorem tried_of_error {e : FileError} (failed : v.clear lib r.files = .error e) :
    Tried lib v gone r r where
  outcome := .inr ⟨⟨e, failed⟩, rfl, rfl, rfl⟩
  data := rfl
  edited unedited := ⟨unedited, rfl⟩
  history := rfl
  saved := rfl
  progress := rfl
  counted := rfl

theorem tried_removeFile {path : String} (clears : v.clear lib r.files = r.files.remove path) :
    Tried lib v [] r (r.removeFile path).2 := by
  unfold Run.removeFile
  split
  · rename_i files removed
    refine ⟨.inl ⟨⟨clears.trans removed, (deleteItems_nil r.tables).symm⟩, ?_⟩,
      Files.remove_data removed, fun unedited => ⟨unedited, rfl⟩, rfl, rfl, rfl, rfl⟩
    simp [Run.note, removalsDone]
    omega
  · rename_i e failed
    exact tried_of_error (clears.trans failed)

theorem tried_removeDirectory {path : String}
    (clears : v.clear lib r.files = r.files.removeTree path) :
    Tried lib v [] r (r.removeDirectory path) := by
  unfold Run.removeDirectory
  split
  · rename_i files removed
    refine ⟨.inl ⟨⟨clears.trans removed, (deleteItems_nil r.tables).symm⟩, ?_⟩,
      Files.removeTree_data removed, fun unedited => ⟨unedited, rfl⟩, rfl, rfl, rfl, rfl⟩
    simp [Run.note, removalsDone]
    omega
  · rename_i e failed
    exact tried_of_error (clears.trans failed)

theorem tried_removeInvalid {item : Int} {path : String}
    (clears : v.clear lib r.files = r.files.remove path)
    (done : removeInvalid lib item path r = .ok r') : Tried lib v [item] r r' := by
  unfold removeInvalid Run.removeFile at done
  split at done
  · rename_i r₁ removed
    split at removed
    · rename_i files removes
      cases removed
      obtain rfl := edit_ok done
      refine ⟨.inl ⟨⟨clears.trans removes, rfl⟩, ?_⟩, Files.remove_data removes,
        fun edited => Bool.noConfusion edited, rfl, rfl, rfl, rfl⟩
      simp [Run.note, removalsDone]
      omega
    · cases removed
  · rename_i r₁ failed
    split at failed
    · cases failed
    · rename_i e fails
      cases failed
      cases done
      exact tried_of_error (clears.trans fails)

theorem removalsDone_of_talk {allowed : Event → Prop} (talk : Talk observer allowed r r') :
    removalsDone r'.report = removalsDone r.report := by
  rw [removalsDone, talk.report]
  rfl

/-- Somebody has agreed to a removal, and it has been tried. -/
theorem taken_of_tried {p : Problem}
    (found : v.finding? lib r.tables r.files = some (p, gone)) (removal : p.kind ∈ removalKinds)
    (yes : (r.ask observer p).1 = true) (tried : Tried lib v gone (r.ask observer p).2 r') :
    Taken lib observer v r r' := by
  have talk := talk_ask observer r p
  have wanted := removalsWanted_ask observer p r
  have loud := not_plain_of_ask observer p r
  have listed : removalKinds.contains p.kind = true := by simpa using removal
  rw [yes, listed, Bool.and_self, if_pos rfl] at wanted
  have before := removalsDone_of_talk talk
  have outcome : (v.Cleared lib gone r r' ∧ failures r ≤ failures r') ∨
      ((∃ e, v.clear lib r.files = .error e) ∧ r'.tables = r.tables ∧ r'.files = r.files ∧
        failures r < failures r') := by
    unfold failures
    rw [tried.history]
    rcases tried.outcome with ⟨cleared, once⟩ | ⟨failed, tables, files, undone⟩
    · exact .inl ⟨⟨talk.files ▸ cleared.files, talk.tables ▸ cleared.tables⟩, by omega⟩
    · exact .inr ⟨talk.files ▸ failed, tables.trans talk.tables, files.trans talk.files, by omega⟩
  refine
    { later :=
        { files := ?_
          data := by rw [tried.data, talk.files]
          edited := fun unedited => ?_
          failures := ?_
          agreeable := fun agreeable => ?_
          calm := fun calm => tried.progress ▸ talk.calm calm
          said := tried.history ▸ talk.suffix }
      effect := ?_
      thorough := fun _ q gone' found' => ?_
      loud := fun _ => tried.history ▸ loud
      counted := by rw [tried.counted, talk.report] }
  · rcases outcome with ⟨cleared, -⟩ | ⟨-, -, files, -⟩
    · exact clear_within cleared.files
    · exact files ▸ .refl _
  · rcases tried.edited unedited with ⟨middle, same⟩
    exact ⟨talk.edited ▸ middle, same.trans talk.tables⟩
  · rcases outcome with ⟨-, more⟩ | ⟨-, -, -, more⟩
    · exact more
    · omega
  · have agreeable₁ := talk.agreeable agreeable
    exact ⟨agreeable₁.1, tried.saved ▸ agreeable₁.2⟩
  · rcases outcome with ⟨cleared, -⟩ | ⟨-, tables, files, -⟩
    · exact .inr ⟨p, gone, found, cleared⟩
    · exact .inl ⟨tables, files⟩
  · rw [found] at found'
    cases found'
    rcases outcome with ⟨cleared, -⟩ | ⟨failed, -, -, more⟩
    · exact .inl cleared
    · exact .inr ⟨more, failed⟩

/-- Somebody does not want a removal. -/
theorem taken_of_refused {p : Problem} (no : (r.ask observer p).1 = false) :
    Taken lib observer v r (r.ask observer p).2 := by
  have talk := talk_ask observer r p
  have wanted := removalsWanted_ask observer p r
  have loud := not_plain_of_ask observer p r
  have answer := fun agreeable : Agreeable observer r => ask_of_agreeable agreeable p
  rw [no] at wanted answer
  simp only [Bool.false_and, Bool.false_eq_true, if_false, Nat.add_zero] at wanted
  have before := removalsDone_of_talk talk
  exact
    { later :=
        { files := talk.files ▸ .refl _
          data := by rw [talk.files]
          edited := fun unedited => ⟨talk.edited ▸ unedited, talk.tables⟩
          failures := by
            unfold failures
            omega
          agreeable := talk.agreeable
          calm := talk.calm
          said := talk.suffix }
      effect := .inl ⟨talk.tables, talk.files⟩
      thorough := fun agreeable => absurd (answer agreeable) (by simp)
      loud := fun _ => loud
      counted := by rw [talk.report] }

/-- An offer to clear away what is wrong. -/
theorem taken_offer {p : Problem} {repair : Step}
    (found : v.finding? lib r.tables r.files = some (p, gone)) (removal : p.kind ∈ removalKinds)
    (tries : ∀ r₁ r', repair r₁ = .ok r' → Tried lib v gone r₁ r')
    (done : r.offer observer p repair = .ok r') : Taken lib observer v r r' := by
  rcases offer_cases done with ⟨yes, repaired⟩ | ⟨no, rfl⟩
  · exact taken_of_tried found removal yes (tries _ r' repaired)
  · exact taken_of_refused no

theorem taken_of_later (later : Later observer r r') (tables : r'.tables = r.tables)
    (files : r'.files = r.files) (fine : v.finding? lib r.tables r.files = none)
    (counted : r'.report.tagCountsFixed = r.report.tagCountsFixed) :
    Taken lib observer v r r' where
  later := later
  effect := .inl ⟨tables, files⟩
  thorough _ p gone found := by rw [fine] at found; cases found
  loud found := by rw [fine] at found; cases found
  counted := counted

end Offers

/-! ## What is found -/

section Findings

variable {lib : Library} {observer : Observer} {t : Tables} {fs : Files} {v : Visit} {r r' : Run}
  {p : Problem} {gone : List Int} {repair : Step} {md5 extension : String}

theorem finds_of_finding? (found : v.finding? lib t fs = some (p, gone)) :
    ∃ repair, v.Finds lib t fs p gone repair := by
  cases v with
  | progress | listing => cases found
  | stale name =>
      cases found
      exact ⟨_, .stale⟩
  | file md5 extension =>
      unfold finding? at found
      dsimp only at found
      split at found
      · rename_i missing
        cases found
        exact ⟨_, .unknown missing⟩
      · rename_i i present
        split at found
        · rename_i q problem
          cases found
          exact ⟨_, .invalid present problem⟩
        · rename_i right
          split at found
          · cases found
          · rename_i named
            cases found
            exact ⟨_, .misnamed present right named⟩

theorem of_finding?_eq_none (fine : (Visit.file md5 extension).finding? lib t fs = none) :
    ∃ i, t.libraryItem? md5 = some i ∧
      contentProblem? fs i.id (blobPath lib md5 extension) md5 = none ∧
      Blob.extension (i.text? .format) = "." ++ extension := by
  unfold finding? at fine
  dsimp only at fine
  split at fine
  · cases fine
  · rename_i i present
    split at fine
    · cases fine
    · rename_i right
      split at fine
      · rename_i named
        exact ⟨i, present, right, by simpa using named⟩
      · cases fine

namespace Finds

/-- What is wrong leads to an offer to repair it. -/
theorem step_eq (finds : v.Finds lib r.tables r.files p gone repair) (observer : Observer) :
    v.step lib observer r = r.offer observer p repair := by
  cases finds with
  | stale => rfl
  | unknown missing => simp only [step, checkBlob, missing]
  | invalid present problem => simp only [step, checkBlob, present, problem]
  | misnamed present right named => simp only [step, checkBlob, present, right, if_neg named]

theorem kind (finds : v.Finds lib t fs p gone repair) : p.kind ∈ removalKinds := by
  cases finds with
  | stale | unknown | misnamed => simp [Problem.kind, removalKinds]
  | invalid present problem => simp [(isInvalid_of_contentProblem? problem).kind, removalKinds]

theorem tried (finds : v.Finds lib t fs p gone repair) (done : repair r = .ok r') :
    Tried lib v gone r r' := by
  cases finds with
  | stale =>
      cases done
      exact tried_removeDirectory rfl
  | unknown | misnamed =>
      cases done
      exact tried_removeFile rfl
  | invalid => exact tried_removeInvalid rfl done

end Finds

/-- Where nothing is wrong, a visit says at most how far the run has come. -/
theorem step_of_fine (observer : Observer) (fine : v.finding? lib r.tables r.files = none) :
    ∃ percent, lastRun (v.step lib observer r) = r.advance percent := by
  have still : r.advance 0 = r := by simp [Run.advance]
  cases v with
  | progress percent => exact ⟨percent, rfl⟩
  | listing path =>
      refine ⟨0, ?_⟩
      rw [still]
      unfold step
      dsimp only
      cases listed : entriesOf path r with
      | ok entries => rfl
      | error stop => exact entriesOf_error listed
  | stale name => cases fine
  | file md5 extension =>
      obtain ⟨i, present, right, named⟩ := of_finding?_eq_none fine
      refine ⟨0, ?_⟩
      rw [still]
      simp [step, checkBlob, present, right, named, lastRun]

/-- A visit says at most how far the run has come, if nothing is wrong, and otherwise offers a repair. -/
theorem step_cases (done : v.step lib observer r = .ok r') :
    (v.finding? lib r.tables r.files = none ∧ ∃ percent, r' = r.advance percent) ∨
      ∃ p gone repair, v.finding? lib r.tables r.files = some (p, gone) ∧
        v.Finds lib r.tables r.files p gone repair ∧ r.offer observer p repair = .ok r' := by
  cases found : v.finding? lib r.tables r.files with
  | none =>
      obtain ⟨percent, last⟩ := step_of_fine observer found
      rw [done] at last
      exact .inl ⟨rfl, percent, last⟩
  | some finding =>
      obtain ⟨p, gone⟩ := finding
      obtain ⟨repair, finds⟩ := finds_of_finding? found
      exact .inr ⟨p, gone, repair, rfl, finds, finds.step_eq observer ▸ done⟩

/-- What comes of a visit. -/
theorem step_taken (done : v.step lib observer r = .ok r') : Taken lib observer v r r' := by
  rcases step_cases done with ⟨fine, percent, rfl⟩ | ⟨p, gone, repair, found, finds, offered⟩
  · exact taken_of_later (.advance r percent) (advance_tables r percent) (advance_files r percent)
      fine (by rw [advance_report])
  · exact taken_offer found finds.kind (fun r₁ r' => finds.tried) offered

end Findings

end Visit

end SampleLibrary.Verifier
