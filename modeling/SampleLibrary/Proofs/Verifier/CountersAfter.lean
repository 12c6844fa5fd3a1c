import SampleLibrary.Proofs.Library.TagSearch
import SampleLibrary.Proofs.Verifier.Approved
import SampleLibrary.Proofs.Verifier.Consistency
import SampleLibrary.Proofs.Verifier.HealthyItems

/-!
# Counters after a verification

The counters are looked at when everything else is done that can change what they should say. So they are
right at the end of a verification that goes well, unless somebody wanted them to stay wrong, whatever was
wrong with the library and whatever else was answered (`counters_right_iff`).
-/

namespace SampleLibrary

namespace Tables

/-- The number of library items with a link to the tag of a row, or of all library items for the root. -/
def trueCount (t : Tables) (row : TagRow) : Nat :=
  if row.name = Tag.root then t.libraryItems.length
  else (t.libraryItems.filter (t.isCarrier row.id)).length

theorem Keyed.actualCount_eq {t : Tables} (keyed : t.Keyed) (row : TagRow) :
    t.actualCount row = t.trueCount row := by
  unfold trueCount
  split
  · rename_i isRoot
    exact actualCount_root isRoot
  · rename_i notRoot
    rw [actualCount_of_ne_root notRoot, (carriers_perm keyed row.id).length_eq]

end Tables

namespace Verifier

variable {lib : Library} {observer : Observer} {t : Tables} {w : World} {r r' : Run}

/-- Nobody has wanted counters to stay wrong. -/
def CountsWelcome (qs : List (Problem × Answer)) : Prop :=
  ∀ q ∈ qs, q.1.kind = .fixTagCounts → q.2.isYes = true

/-- Counters are right after they were looked at, unless somebody wanted them to stay wrong. -/
theorem CountsTold.right_iff (told : CountsTold r r')
    (unasked : Asked (fun p => p.kind ≠ .fixTagCounts) r) :
    (∀ row ∈ r'.tables.tags, row.count = r'.tables.actualCount row) ↔
      CountsWelcome (questions r'.history) := by
  have before : CountsWelcome (questions r.history) :=
    fun q earlier isCounts => absurd isCounts (unasked q earlier)
  cases told with
  | counted removed tables report history =>
      rw [tables, history]
      exact iff_of_true Tables.recount_counted.counts before
  | right counts same =>
      rw [same]
      exact iff_of_true (Tables.wrongCounts_eq_nil_iff.mp counts) before
  | agreed kept yes tables fixed asked =>
      rw [tables, asked]
      apply iff_of_true Tables.recount_counted.counts
      exact List.forall_mem_cons.mpr ⟨fun _ => yes, before⟩
  | refused wrong no tables fixed asked =>
      rw [tables, asked]
      apply iff_of_false
      · intro right
        exact wrong (Tables.wrongCounts_eq_nil_iff.mpr right)
      · intro welcome
        have yes := (List.forall_mem_cons.mp welcome).1 rfl
        dsimp only at yes
        rw [no] at yes
        cases yes

theorem Asked.offerRemoval {expected : Problem → Prop} {p : Problem} {count : Nat}
    {change : Tables → Tables} (asked : Asked expected r) (isExpected : expected p)
    (done : offerRemoval lib observer count p change r = .ok r') : Asked expected r' := by
  have keeps : Keeps (Asked expected) (Verifier.offerRemoval lib observer count p change) :=
    keeps_asked_offerRemoval isExpected
  have kept := keeps r asked
  rw [done] at kept
  exact kept

/-- Nothing comes up about counters before they are looked at. -/
theorem Parts.beforeCounts {place : Location} {r₁ r₂ r₃ : Run}
    (parts : Parts lib observer t w place r₁ r₂ r₃) :
    ∃ r r', Asked (fun p => p.kind ≠ .fixTagCounts) r ∧ checkCounts lib observer r = .ok r' ∧
      r₃ = r'.advance 100 := by
  have start : Asked (fun p => p.kind ≠ .fixTagCounts) (r₂.advance 100) := by
    refine parts.asked (fun _ _ _ => by simp [Problem.kind]) ?_
    intro p removal same
    simp [same, removalKinds] at removal
  obtain ⟨s₁, s₂, s₃, s₄, tags, items, customs, counts, last⟩ := checkLinks_parts parts.links
  have staged : Asked (fun p => p.kind ≠ .fixTagCounts)
    ((r₂.advance 100).nextStage "Checking item tags") := start
  have first := (staged.advance 25).offerRemoval (by simp [Problem.kind]) tags
  have second := (first.advance 50).offerRemoval (by simp [Problem.kind]) items
  have third := (second.advance 75).offerRemoval (by simp [Problem.kind]) customs
  exact ⟨s₃, s₄, third, counts, last⟩

/-- The counters are right after a verification, whatever was wrong before it, unless somebody wanted them
to stay wrong. The tag for the whole library is there if they were counted anew. -/
theorem counters_right_iff {report : Report} (keyed : t.Keyed) (isOpen : lib.tables w.files = .ok t)
    (done : (verify lib observer w).1.outcome = .ok report) :
    ∃ t', lib.tables (verify lib observer w).2.files = .ok t' ∧
      ((∀ row ∈ t'.tags, row.count = t'.trueCount row) ↔
        CountsWelcome (questions (verify lib observer w).1.events)) ∧
      (report.tagCountsFixed = true → Tag.root ∈ t'.tags.map (·.name)) := by
  obtain ⟨place, r₁, r₂, r₃, parts, outcome⟩ := parts_of_ok isOpen done
  have course := parts.verified isOpen outcome
  obtain ⟨r, r', unasked, counts, last⟩ := parts.beforeCounts
  have right := (countsTold counts).1.right_iff unasked
  refine ⟨r₃.tables, course.tables, ?_, ?_⟩
  · have tables : r'.tables = r₃.tables := by rw [last, advance_tables]
    have asked : questions (verify lib observer w).1.events = (questions r'.history).reverse := by
      rw [← course.events, questions_reverse, last, questions_advance]
    simp only [tables, (course.keyed keyed).actualCount_eq] at right
    rw [right, asked]
    simp only [CountsWelcome, List.mem_reverse]
  · intro fixed
    rw [outcome] at done
    cases done
    exact course.rooted_iff.mpr (.inr fixed)

/-- Tables with a wrong counter and a link to an item that is not there, and without the tag for the whole
library. -/
def miscountedTables : Tables :=
  { silentTables with tags := [⟨1, "noise", 5⟩], links := [⟨1, 1⟩, ⟨7, 1⟩] }

/-- A library with these tables, and otherwise in order. -/
def miscountedWorld : World where
  process := 1
  files := { silentWorld.files with
    data := silentWorld.files.data.insert 0 ⟨.database miscountedTables, 0⟩ }

theorem miscountedTables_keyed : miscountedTables.Keyed :=
  { silentTables_keyed with
    tagIds := by decide
    tagNames := by decide
    tagNumbers := by decide
    links := by decide }

theorem miscountedWorld_verified :
    (fun done : Verification =>
      (done.outcome.toOption.map fun report => report.tagCountsFixed) == some true &&
        (questions done.events).all (·.2.isYes))
        (verify smallLibrary (fun _ _ => .yes) miscountedWorld).1 = true := by
  decide +kernel

/-- Whoever agrees to everything gets right counters. -/
theorem miscountedTables_counted :
    miscountedTables.Keyed ∧ smallLibrary.tables miscountedWorld.files = .ok miscountedTables ∧
      ∃ report t', (verify smallLibrary (fun _ _ => .yes) miscountedWorld).1.outcome = .ok report ∧
        smallLibrary.tables (verify smallLibrary (fun _ _ => .yes) miscountedWorld).2.files = .ok t' ∧
        (∀ row ∈ t'.tags, row.count = t'.trueCount row) ∧ Tag.root ∈ t'.tags.map (·.name) := by
  have verified := miscountedWorld_verified
  simp only [Bool.and_eq_true, beq_iff_eq, List.all_eq_true] at verified
  obtain ⟨fixed, agreed⟩ := verified
  cases outcome : (verify smallLibrary (fun _ _ => .yes) miscountedWorld).1.outcome with
  | error e => simp [outcome, Except.toOption] at fixed
  | ok report =>
      obtain ⟨t', isOpen, right, rooted⟩ := counters_right_iff miscountedTables_keyed rfl outcome
      refine ⟨miscountedTables_keyed, rfl, report, t', rfl, isOpen, ?_, ?_⟩
      · exact right.mpr fun q asked _ => agreed q asked
      · apply rooted
        simpa [outcome, Except.toOption] using fixed

end Verifier

end SampleLibrary
