import Mathlib.Data.List.Induction
import SampleLibrary.Proofs.Verifier.FileStage
import SampleLibrary.Proofs.Verifier.ItemStage

/-!
# The course of the first two stages

In the first two stages nothing comes into being: items and files can only go (`Passed`). Each visit of
the second stage has its moment, with what came before it and what comes after it (`visited`).
-/

namespace SampleLibrary.Verifier

open Tables (Fewer)

/-- What can be said of two moments in the first two stages. -/
structure Passed (observer : Observer) (r r' : Run) : Prop where
  later : Later observer r r'
  tables : Fewer r.tables r'.tables
  counted : r'.report.tagCountsFixed = r.report.tagCountsFixed

section Visits

variable {lib : Library} {observer : Observer} {v : Visit} {vs before after : List Visit}
  {r r' r'' : Run}

namespace Passed

theorem refl (r : Run) : Passed observer r r := ⟨.refl r, .refl _, rfl⟩

theorem trans (first : Passed observer r r') (second : Passed observer r' r'') :
    Passed observer r r'' :=
  ⟨first.later.trans second.later, first.tables.trans second.tables,
    second.counted.trans first.counted⟩

end Passed

theorem Visit.Taken.passed (taken : v.Taken lib observer r r') : Passed observer r r' := by
  refine ⟨taken.later, ?_, taken.counted⟩
  rcases taken.effect with ⟨same, -⟩ | ⟨p, gone, -, cleared⟩
  · rw [same]
    exact .refl _
  · rw [cleared.tables]
    exact .deleteItems _ gone

theorem passed_runVisits (done : runVisits lib observer vs r = .ok r') :
    Passed observer r r' := by
  induction vs generalizing r with
  | nil =>
      cases done
      exact .refl _
  | cons v vs inductionHypothesis =>
      rw [runVisits_cons] at done
      cases first : v.step lib observer r with
      | error stop =>
          rw [first] at done
          cases done
      | ok r₁ =>
          rw [first] at done
          exact (Visit.step_taken first).passed.trans (inductionHypothesis done)

/-- A visit comes after the visits before it. -/
theorem stepped (done : runVisits lib observer (before ++ v :: after) r = .ok r') :
    ∃ r₁ r₂, runVisits lib observer before r = .ok r₁ ∧ v.step lib observer r₁ = .ok r₂ ∧
      runVisits lib observer after r₂ = .ok r' := by
  rw [runVisits_append] at done
  rcases ok_of_bind done with ⟨r₁, first, done⟩
  rw [runVisits_cons] at done
  rcases ok_of_bind done with ⟨r₂, second, last⟩
  exact ⟨r₁, r₂, first, second, last⟩

/-- The moment of a visit. -/
theorem visited (done : runVisits lib observer (before ++ v :: after) r = .ok r') :
    ∃ r₁ r₂, runVisits lib observer before r = .ok r₁ ∧ v.Taken lib observer r₁ r₂ ∧
      runVisits lib observer after r₂ = .ok r' := by
  rcases stepped done with ⟨r₁, r₂, first, second, last⟩
  exact ⟨r₁, r₂, first, Visit.step_taken second, last⟩

/-- What every visit keeps up, seen from the visits before it, is kept up by all of them. -/
theorem runVisits_steps (holds : Run → Prop) (start : holds r)
    (each : ∀ v ∈ vs, ∀ r₁ r₂, Passed observer r r₁ → v.step lib observer r₁ = .ok r₂ →
      holds r₁ → holds r₂)
    (done : runVisits lib observer vs r = .ok r') : holds r' := by
  induction vs using List.reverseRecOn generalizing r' with
  | nil =>
      cases done
      exact start
  | append_singleton vs v inductionHypothesis =>
      rcases stepped done with ⟨r₁, r₂, first, second, last⟩
      cases last
      apply each v (by simp) r₁ _ (passed_runVisits first) second
      exact inductionHypothesis (fun v membership => each v (by simp [membership])) first

/-- What comes of every visit and keeps something up keeps it up for all of them. -/
theorem runVisits_keeps (holds : Run → Prop) (start : holds r)
    (each : ∀ v ∈ vs, ∀ r₁ r₂, Passed observer r r₁ → v.Taken lib observer r₁ r₂ →
      holds r₁ → holds r₂)
    (done : runVisits lib observer vs r = .ok r') : holds r' :=
  runVisits_steps holds start
    (fun v membership r₁ r₂ passed step => each v membership r₁ r₂ passed (Visit.step_taken step)) done

end Visits

/-! ## The first stage -/

section Items

variable {lib : Library} {observer : Observer} {r r' : Run}

theorem not_removal_of_saidOfItems {t : Tables} {event : Event} (said : SaidOfItems t event) :
    event.isRemoval = false := by
  cases said with
  | plain plain =>
      cases plain
      rfl
  | missing about =>
      cases about with
      | progress => rfl
      | asked | recalled => simp [Event.isRemoval, Problem.kind, removalKinds]
  | noRoot | wrongCounter => rfl

/-- What comes of the first stage. -/
structure ItemsChecked (lib : Library) (observer : Observer) (r r' : Run) : Prop where
  passed : Passed observer r r'
  files : r'.files = r.files
  kept : r.tables.Keyed → ∀ i ∈ r.tables.libraryItems,
    r.files.exists? (itemPath lib i) = true → i ∈ r'.tables.libraryItems
  /-- If all is agreed to, no item is left without a file. -/
  thorough : Agreeable observer r →
    ∀ i ∈ r'.tables.libraryItems, r.files.exists? (itemPath lib i) = true

variable (observer) in
theorem removeItems_ok {ids : List Int} (done : removeItems lib ids r = .ok r') :
    Passed observer r r' ∧ r'.files = r.files ∧ r'.tables = r.tables.deleteItems ids := by
  unfold removeItems at done
  split at done
  · rename_i none'
    obtain rfl : ids = [] := by simpa using none'
    cases done
    exact ⟨.refl _, rfl, (Visit.deleteItems_nil _).symm⟩
  · have edited := edited_of_ok observer (by rfl) done
    refine ⟨⟨edited.later, ?_, by rw [edited.report]⟩, edited.files, edited.tables⟩
    rw [edited.tables]
    exact .deleteItems _ ids

theorem itemsChecked (done : checkItems lib observer r = .ok r') :
    ItemsChecked lib observer r r' := by
  rcases checkItems_eq lib observer r with ⟨r₁, gone, talk, -, -, sub, all, equation⟩
  have talked := Later.of_talk talk fun event => not_removal_of_saidOfItems
  rw [equation] at done
  cases removed : removeItems lib gone r₁ with
  | error stop =>
      rw [removed] at done
      cases done
  | ok r₂ =>
      rw [removed] at done
      cases done
      rcases removeItems_ok observer removed with ⟨passed, files, tables⟩
      have start : Passed observer r r₁ :=
        ⟨talked, talk.tables ▸ .refl _, by rw [talk.report]⟩
      have last : Passed observer r₂ (r₂.advance 100) :=
        ⟨.advance r₂ 100, by rw [advance_tables]; exact .refl _, by rw [advance_report]⟩
      have left : (r₂.advance 100).tables = r.tables.deleteItems gone := by
        rw [advance_tables, tables, talk.tables]
      refine
        { passed := (start.trans passed).trans last
          files := by rw [advance_files, files, talk.files]
          kept := fun keyed i membership there => ?_
          thorough := fun agreeable i membership => ?_ }
      · rcases Tables.mem_libraryItems.mp membership with ⟨row, inLibrary⟩
        rw [left, Tables.mem_libraryItems, Tables.mem_deleteItems_items]
        refine ⟨⟨row, fun isGone => ?_⟩, inLibrary⟩
        rcases List.mem_map.mp (sub.subset isGone) with ⟨j, isMissing, same⟩
        rcases List.mem_filter.mp isMissing with ⟨isListed, noFile⟩
        have other := (Tables.mem_libraryItems.mp (mem_itemsInOrder.mp isListed)).1
        obtain rfl := keyed.item_eq other row same
        simp [there] at noFile
      · rw [left, Tables.mem_libraryItems, Tables.mem_deleteItems_items] at membership
        rcases membership with ⟨⟨row, kept⟩, inLibrary⟩
        by_contra noFile
        apply kept
        rw [all agreeable]
        refine List.mem_map_of_mem (List.mem_filter.mpr ⟨?_, by simpa using noFile⟩)
        exact mem_itemsInOrder.mpr (Tables.mem_libraryItems.mpr ⟨row, inLibrary⟩)

end Items

end SampleLibrary.Verifier
