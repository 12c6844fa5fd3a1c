import SampleLibrary.Proofs.Files.Following
import SampleLibrary.Proofs.Verifier.Steps

/-!
# The course of a run

From one moment of a run to a later one nothing comes into being among the files, more is said, and more
removals may have failed (`Later`).
-/

namespace SampleLibrary.Verifier

/-! ## Removals that fail -/

/-- The removal of a file or a directory was agreed to. -/
def Event.isRemoval : Event → Bool
  | .asked p a | .recalled p a => a.isYes && removalKinds.contains p.kind
  | .progress _ => false

/-- The number of removals that were agreed to. -/
def removalsWanted (events : List Event) : Nat := events.countP Event.isRemoval

/-- The number of removals that were done. -/
def removalsDone (report : Report) : Nat := report.filesRemoved + report.dirsRemoved

/-- The number of removals so far that were agreed to and failed. -/
def failures (r : Run) : Int := removalsWanted r.history - removalsDone r.report

section Asking

variable (observer : Observer) (p : Problem) (r : Run)

theorem ask_history :
    ∃ a event, (r.ask observer p).1 = a.isYes ∧ (event = .asked p a ∨ event = .recalled p a) ∧
      (r.ask observer p).2.history =
        event :: .progress { r.progress with error := some p.message } :: r.history := by
  unfold Run.ask
  dsimp only
  split
  · rename_i a saved
    exact ⟨a, _, rfl, .inr rfl, rfl⟩
  · exact ⟨_, _, rfl, .inl rfl, rfl⟩

theorem removalsWanted_ask :
    removalsWanted (r.ask observer p).2.history = removalsWanted r.history +
      if (r.ask observer p).1 && removalKinds.contains p.kind then 1 else 0 := by
  rcases ask_history observer p r with ⟨a, event, answer, rfl | rfl, history⟩ <;>
    simp [removalsWanted, history, answer, Event.isRemoval, List.countP_cons]

theorem not_plain_of_ask : ∃ event ∈ (r.ask observer p).2.history, ¬Plain event := by
  rcases ask_history observer p r with ⟨a, event, -, rfl | rfl, history⟩
  · exact ⟨_, history ▸ List.mem_cons_self, fun plain => by cases plain⟩
  · exact ⟨_, history ▸ List.mem_cons_self, fun plain => by cases plain⟩

end Asking

/-! ## Later in a run -/

/-- What can be said of two moments of a run, whatever happens between them. -/
structure Later (observer : Observer) (r r' : Run) : Prop where
  files : r'.files.Within r.files
  data : r'.files.data = r.files.data
  edited : r'.edited = false → r.edited = false ∧ r'.tables = r.tables
  failures : failures r ≤ failures r'
  agreeable : Agreeable observer r → Agreeable observer r'
  calm : r.progress.error = none → r'.progress.error = none
  said : r.history <:+ r'.history

namespace Later

variable {observer : Observer} {r r' r'' : Run}

theorem refl (r : Run) : Later observer r r :=
  ⟨.refl _, rfl, fun unedited => ⟨unedited, rfl⟩, Int.le_refl _, id, id, List.suffix_rfl⟩

theorem trans (first : Later observer r r') (second : Later observer r' r'') :
    Later observer r r'' where
  files := second.files.trans first.files
  data := second.data.trans first.data
  edited unedited := by
    rcases second.edited unedited with ⟨middle, same⟩
    rcases first.edited middle with ⟨start, before⟩
    exact ⟨start, same.trans before⟩
  failures := Int.le_trans first.failures second.failures
  agreeable := second.agreeable ∘ first.agreeable
  calm := second.calm ∘ first.calm
  said := first.said.trans second.said

/-- Talk in which no removal is agreed to. -/
theorem of_talk {allowed : Event → Prop} (talk : Talk observer allowed r r')
    (harmless : ∀ event, allowed event → event.isRemoval = false) : Later observer r r' where
  files := talk.files ▸ .refl _
  data := by rw [talk.files]
  edited unedited := ⟨talk.edited ▸ unedited, talk.tables⟩
  failures := by
    rcases talk.said with ⟨said, history, isAllowed⟩
    have none' : removalsWanted said = 0 := by
      rw [removalsWanted, List.countP_eq_zero]
      intro event membership
      simp [harmless event (isAllowed event membership)]
    have wanted : removalsWanted r'.history = removalsWanted r.history := by
      rw [history]
      simpa [removalsWanted, List.countP_append] using none'
    unfold Verifier.failures removalsDone
    exact Int.le_of_eq (by rw [wanted, talk.report])
  agreeable := talk.agreeable
  calm := talk.calm
  said := talk.suffix

theorem advance (r : Run) (percent : Nat) : Later observer r (r.advance percent) := by
  unfold Run.advance
  dsimp only
  split
  · exact
      { files := .refl _
        data := rfl
        edited := fun unedited => ⟨unedited, rfl⟩
        failures := by simp [Verifier.failures, Run.tell, removalsWanted, Event.isRemoval]
        agreeable := id
        calm := id
        said := List.suffix_cons _ _ }
  · exact .refl r

theorem nextStage (r : Run) (name : String) : Later observer r (r.nextStage name) where
  files := .refl _
  data := rfl
  edited unedited := ⟨unedited, rfl⟩
  failures := by
    simp [Verifier.failures, Run.nextStage, Run.tell, removalsWanted, Event.isRemoval]
  agreeable := id
  calm _ := rfl
  said := List.suffix_cons _ _

/-- Asking about something that is not repaired by a removal. -/
theorem ask {p : Problem} (kept : p.kind ∉ removalKinds) : Later observer r (r.ask observer p).2 := by
  apply of_talk (talk_ask observer r p)
  intro event about
  cases about with
  | progress => rfl
  | asked | recalled => simp [Event.isRemoval, kept]

end Later

/-- A change of the tables has succeeded. -/
structure Edited (observer : Observer) (change : Tables → Tables) (counting : Report → Report)
    (r r' : Run) : Prop where
  later : Later observer r r'
  files : r'.files = r.files
  tables : r'.tables = change r.tables
  report : r'.report = counting r.report

theorem edited_of_ok (observer : Observer) {lib : Library} {change : Tables → Tables}
    {counting : Report → Report} {r r' : Run}
    (uncounted : removalsDone (counting r.report) = removalsDone r.report)
    (done : ((r.edit lib change).map fun r => r.note counting) = .ok r') :
    Edited observer change counting r r' := by
  obtain rfl := edit_ok done
  refine ⟨?_, rfl, rfl, rfl⟩
  exact
    { files := .refl _
      data := rfl
      edited := fun edited => Bool.noConfusion edited
      failures := by
        unfold failures Run.note
        exact Int.le_of_eq (by rw [uncounted])
      agreeable := id
      calm := id
      said := List.suffix_rfl }

end SampleLibrary.Verifier
