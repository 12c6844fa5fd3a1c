import SampleLibrary.Proofs.Verifier.FileCourse
import SampleLibrary.Proofs.Verifier.LinkStage

/-!
# A verification that has gone well

A verification that does not fail goes through its three stages, each of which does what can be said of
it, and leaves the tables of its last moment behind (`verified`).
-/

namespace SampleLibrary.Verifier

/-- The beginning of a run. -/
def startOf (t : Tables) (w : World) : Run := { tables := t, files := w.files, metrics := w.metrics }

/-- No answer has been kept at the beginning. -/
theorem agreeable_startOf {observer : Observer} {t : Tables} {w : World}
    (agrees : ∀ history p, (observer history p).isYes = true) : Agreeable observer (startOf t w) := by
  refine ⟨agrees, ?_⟩
  intro kind a saved
  cases saved

/-- What comes of a verification that has gone well, with the moments after its stages. -/
structure Verified (lib : Library) (observer : Observer) (t : Tables) (w w' : World)
    (report : Report) (events : List Event) (place : Location) (r₁ r₂ r₃ : Run) : Prop where
  checked : ItemsChecked lib observer (startOf t w) r₁
  leads : w.files.stat lib.base true = .ok (place, .directory)
  visits : runVisits lib observer (visits lib w.files place w.process)
    (r₁.nextStage "Checking files") = .ok r₂
  links : LinksChecked observer (r₂.advance 100) r₃
  report : r₃.report = report
  events : r₃.history.reverse = events
  nodes : w'.files.nodes = r₃.files.nodes
  working : w'.files.working = r₃.files.working
  tables : lib.tables w'.files = .ok r₃.tables
  data : ∀ id, id ≠ lib.database → w'.files.dataOf id = w.files.dataOf id
  process : w'.process = w.process

variable {lib : Library} {observer : Observer} {t : Tables} {w w' : World} {report : Report}
  {events : List Event} {place : Location} {r₁ r₂ r₃ : Run}

namespace Verified

theorem beforeVisits (course : Verified lib observer t w w' report events place r₁ r₂ r₃) :
    Passed observer (startOf t w) (r₁.nextStage "Checking files") :=
  course.checked.passed.trans ⟨.nextStage r₁ _, .refl _, rfl⟩

theorem afterVisits (course : Verified lib observer t w w' report events place r₁ r₂ r₃) :
    Later observer r₂ r₃ :=
  (Later.advance r₂ 100).trans course.links.later

theorem agreeable (course : Verified lib observer t w w' report events place r₁ r₂ r₃)
    (agrees : ∀ history p, (observer history p).isYes = true) :
    Agreeable observer (r₁.nextStage "Checking files") :=
  course.beforeVisits.later.agreeable (agreeable_startOf agrees)

theorem within (course : Verified lib observer t w w' report events place r₁ r₂ r₃) :
    w'.files.Within r₂.files := by
  have within := course.afterVisits.files
  refine ⟨fun location node there => ?_, course.working.trans within.working⟩
  rw [course.nodes] at there
  exact within.nodes location node there

theorem items (course : Verified lib observer t w w' report events place r₁ r₂ r₃) :
    r₃.tables.items = r₂.tables.items := by
  rw [course.links.items, advance_tables]

theorem keyed (course : Verified lib observer t w w' report events place r₁ r₂ r₃)
    (keyed : t.Keyed) : r₃.tables.Keyed := by
  have passed := course.beforeVisits.trans (passed_runVisits course.visits)
  apply course.links.keyed
  rw [advance_tables]
  exact passed.tables.keyed keyed

theorem rooted_iff (course : Verified lib observer t w w' report events place r₁ r₂ r₃) :
    Tag.root ∈ r₃.tables.tags.map (·.name) ↔
      Tag.root ∈ t.tags.map (·.name) ∨ report.tagCountsFixed = true := by
  have passed := course.beforeVisits.trans (passed_runVisits course.visits)
  have fresh : (r₂.advance 100).report.tagCountsFixed = false := by
    rw [advance_report, passed.counted]
    rfl
  rw [course.links.rooted fresh, course.report, advance_tables, passed.tables.tags]
  rfl

end Verified

/-- What comes of a verification whose stages go well. -/
theorem verify_of_stages {r : Run} (isOpen : lib.tables w.files = .ok t)
    (stages : allStages lib observer w.process (startOf t w) = .ok r) :
    verify lib observer w = (⟨.ok r.report, r.history.reverse⟩,
      { w with
        files := if r.edited then lib.commit r.files r.tables else r.files
        metrics := r.metrics }) := by
  unfold startOf at stages
  unfold verify
  rw [isOpen]
  dsimp only
  rw [stages]

theorem stages_of_ok (isOpen : lib.tables w.files = .ok t)
    (done : (verify lib observer w).1.outcome = .ok report) :
    ∃ r, allStages lib observer w.process (startOf t w) = .ok r := by
  cases stages : allStages lib observer w.process (startOf t w) with
  | ok r => exact ⟨r, rfl⟩
  | error stop =>
      unfold startOf at stages
      unfold verify at done
      rw [isOpen] at done
      dsimp only at done
      rw [stages] at done
      cases done

/-- What was said in a verification, whether it has failed or not. -/
theorem verify_events (isOpen : lib.tables w.files = .ok t) :
    (verify lib observer w).1.events =
      (lastRun (allStages lib observer w.process (startOf t w))).history.reverse := by
  unfold verify startOf
  rw [isOpen]
  dsimp only
  cases allStages lib observer w.process { tables := t, files := w.files, metrics := w.metrics } <;> rfl

/-- A verification leaves the tables behind to which its stages come, or those from before if a stage
fails, as long as the stages write to no file. -/
theorem verify_leaves {good : Tables → Prop} (isOpen : lib.tables w.files = .ok t) (before : good t)
    (data : (lastRun (allStages lib observer w.process (startOf t w))).files.data = w.files.data)
    (after : ∀ r, allStages lib observer w.process (startOf t w) = .ok r →
      good r.tables ∧ (r.edited = false → r.tables = t)) :
    ∃ t', ((verify lib observer w).2.files.dataOf lib.database).content = .database t' ∧ good t' := by
  have content := (Library.tables_eq_ok_iff.mp isOpen).2
  have kept {files : Files} (data : files.data = w.files.data) :
      (files.dataOf lib.database).content = .database t :=
    (congrArg FileData.content (Files.dataOf_congr data lib.database)).trans content
  unfold startOf at data after
  unfold verify
  rw [isOpen]
  dsimp only
  cases stages : allStages lib observer w.process
      { tables := t, files := w.files, metrics := w.metrics } with
  | error stop =>
      rw [stages] at data
      exact ⟨t, kept data, before⟩
  | ok last =>
      rw [stages] at data
      obtain ⟨goodLast, unchanged⟩ := after last stages
      refine ⟨last.tables, ?_, goodLast⟩
      dsimp only
      split
      · exact Files.dataOf_setData_self _ _ _
      · rename_i unedited
        rw [unchanged (Bool.eq_false_iff.mpr unedited)]
        exact kept data

/-- The moments after the stages of a verification that goes well. -/
structure Parts (lib : Library) (observer : Observer) (t : Tables) (w : World) (place : Location)
    (r₁ r₂ r₃ : Run) : Prop where
  leads : w.files.stat lib.base true = .ok (place, .directory)
  items : checkItems lib observer (startOf t w) = .ok r₁
  visits : runVisits lib observer (visits lib w.files place w.process)
    (r₁.nextStage "Checking files") = .ok r₂
  links : checkLinks lib observer (r₂.advance 100) = .ok r₃

theorem parts_of_ok (isOpen : lib.tables w.files = .ok t)
    (done : (verify lib observer w).1.outcome = .ok report) :
    ∃ place r₁ r₂ r₃, Parts lib observer t w place r₁ r₂ r₃ ∧
      verify lib observer w = (⟨.ok r₃.report, r₃.history.reverse⟩,
        { w with
          files := if r₃.edited then lib.commit r₃.files r₃.tables else r₃.files
          metrics := r₃.metrics }) := by
  obtain ⟨r₃, stages⟩ := stages_of_ok isOpen done
  obtain ⟨r₁, items, rest⟩ := ok_of_bind stages
  obtain ⟨r₂', files, links⟩ := ok_of_bind rest
  have same : r₁.files = w.files := (itemsChecked items).files
  obtain ⟨place, leads⟩ := leads_of_checkFiles files
  rw [checkFiles_eq observer w.process leads] at files
  obtain ⟨r₂, visits, last⟩ := ok_of_bind files
  cases last
  rw [same] at visits leads
  exact ⟨place, r₁, r₂, r₃, ⟨leads, items, visits, links⟩, verify_of_stages isOpen stages⟩

theorem Parts.verified (parts : Parts lib observer t w place r₁ r₂ r₃)
    (isOpen : lib.tables w.files = .ok t)
    (outcome : verify lib observer w = (⟨.ok r₃.report, r₃.history.reverse⟩,
      { w with
        files := if r₃.edited then lib.commit r₃.files r₃.tables else r₃.files
        metrics := r₃.metrics })) :
    Verified lib observer t w (verify lib observer w).2 r₃.report (verify lib observer w).1.events
      place r₁ r₂ r₃ := by
  rw [outcome]
  have first := itemsChecked parts.items
  have third := linksChecked parts.links
  have later : Later observer (startOf t w) r₃ :=
    (((first.passed.later.trans (.nextStage r₁ _)).trans (passed_runVisits parts.visits).later).trans
      (.advance r₂ 100)).trans third.later
  obtain ⟨isOpened, found⟩ := Library.tables_eq_ok_iff.mp isOpen
  exact
    { checked := first
      leads := parts.leads
      visits := parts.visits
      links := third
      report := rfl
      events := rfl
      nodes := by
        dsimp only
        split <;> rfl
      working := by
        dsimp only
        split <;> rfl
      tables := by
        rw [Library.tables_eq_ok_iff]
        refine ⟨isOpened, ?_⟩
        dsimp only
        split
        · exact Files.dataOf_setData_self _ _ _
        · rename_i unedited
          rw [(later.edited (Bool.eq_false_iff.mpr unedited)).2]
          exact (congrArg FileData.content (Files.dataOf_congr later.data _)).trans found
      data := fun id other => by
        dsimp only
        split
        · exact (Files.dataOf_setData_of_ne other).trans (Files.dataOf_congr later.data id)
        · exact Files.dataOf_congr later.data id
      process := rfl }

theorem verified (isOpen : lib.tables w.files = .ok t)
    (done : (verify lib observer w).1.outcome = .ok report) :
    ∃ place r₁ r₂ r₃, Verified lib observer t w (verify lib observer w).2 report
      (verify lib observer w).1.events place r₁ r₂ r₃ := by
  obtain ⟨place, r₁, r₂, r₃, parts, outcome⟩ := parts_of_ok isOpen done
  have course := parts.verified isOpen outcome
  rw [outcome] at done
  obtain rfl := Except.ok.inj done
  exact ⟨place, r₁, r₂, r₃, course⟩

end SampleLibrary.Verifier
