import SampleLibrary.Proofs.Storage.Schema
import SampleLibrary.Proofs.Verifier.Course

/-!
# The third stage

The third stage leaves items and files alone. If all is agreed to, it leaves links and custom values that
are anchored and counters that are right; what may still be missing is the tag for the whole library,
which is put in when the counters are counted anew and at no other time.
-/

namespace SampleLibrary

namespace Tables

variable {t : Tables}

theorem dropLinksWithoutTag_eq_self (none' : t.linksWithoutTag.length = 0) :
    t.dropLinksWithoutTag = t := by
  rw [List.length_eq_zero_iff, linksWithoutTag, List.filter_eq_nil_iff] at none'
  have all : t.links.filter (fun l => t.hasTag l.tag) = t.links :=
    List.filter_eq_self.mpr fun l membership => by simpa using none' l membership
  rw [dropLinksWithoutTag, all]

theorem dropLinksWithoutItem_eq_self (none' : t.linksWithoutItem.length = 0) :
    t.dropLinksWithoutItem = t := by
  rw [List.length_eq_zero_iff, linksWithoutItem, List.filter_eq_nil_iff] at none'
  have all : t.links.filter (fun l => t.hasItem l.item) = t.links :=
    List.filter_eq_self.mpr fun l membership => by simpa using none' l membership
  rw [dropLinksWithoutItem, all]

theorem dropStrayCustoms_eq_self (none' : t.strayCustoms.length = 0) : t.dropStrayCustoms = t := by
  rw [List.length_eq_zero_iff, strayCustoms, List.filter_eq_nil_iff] at none'
  have all : t.customs.filter (fun c => t.isAnchored c) = t.customs :=
    List.filter_eq_self.mpr fun c membership => by simpa using none' c membership
  rw [dropStrayCustoms, all]

/-- The tables without anything astray. -/
def withoutStrays (t : Tables) : Tables :=
  t.dropLinksWithoutTag.dropLinksWithoutItem.dropStrayCustoms

theorem anchored_withoutStrays (t : Tables) : t.withoutStrays.Anchored where
  linkItems _ membership := (List.mem_filter.mp membership).2
  linkTags _ membership := (List.mem_filter.mp (List.mem_filter.mp membership).1).2
  customs _ membership := (List.mem_filter.mp membership).2

end Tables

namespace Verifier

variable {lib : Library} {observer : Observer} {r r' : Run}

/-- What comes of one part of the third stage: a certain change of the tables, or none. -/
structure Changed (observer : Observer) (change : Tables → Tables) (r r' : Run) : Prop where
  later : Later observer r r'
  files : r'.files = r.files
  effect : r'.tables = r.tables ∨ r'.tables = change r.tables
  thorough : Agreeable observer r → r'.tables = change r.tables
  removed : r'.report.itemsRemoved = r.report.itemsRemoved
  counted : r'.report.tagCountsFixed = r.report.tagCountsFixed

theorem changed_of_later {change : Tables → Tables} (later : Later observer r r')
    (files : r'.files = r.files) (tables : r'.tables = r.tables) (report : r'.report = r.report)
    (nothing : change r.tables = r.tables) : Changed observer change r r' :=
  ⟨later, files, .inl tables, fun _ => tables.trans nothing.symm, by rw [report], by rw [report]⟩

variable (observer) in
theorem offerRemoval_ok {count : Nat} {p : Problem} {change : Tables → Tables}
    (kept : p.kind ∉ removalKinds) (nothing : count = 0 → change r.tables = r.tables)
    (done : offerRemoval lib observer count p change r = .ok r') :
    Changed observer change r r' := by
  have talk := talk_ask observer r p
  have asked : Later observer r (r.ask observer p).2 := .ask kept
  have answer := fun agreeable : Agreeable observer r => ask_of_agreeable agreeable p
  unfold offerRemoval at done
  split at done
  · rename_i isZero
    cases done
    exact changed_of_later (.refl _) rfl rfl rfl (nothing (by simpa using isZero))
  · rcases offer_cases done with ⟨-, repaired⟩ | ⟨no, rfl⟩
    · have edited := edited_of_ok observer (by rfl) repaired
      have tables : r'.tables = change r.tables := by rw [edited.tables, talk.tables]
      exact
        { later := asked.trans edited.later
          files := edited.files.trans talk.files
          effect := .inr tables
          thorough := fun _ => tables
          removed := by rw [edited.report, talk.report]
          counted := by rw [edited.report, talk.report] }
    · rw [no] at answer
      exact
        { later := asked
          files := talk.files
          effect := .inl talk.tables
          thorough := fun agreeable => absurd (answer agreeable) (by simp)
          removed := by rw [talk.report]
          counted := by rw [talk.report] }

/-- What comes of checking the counters. -/
structure CountsChecked (observer : Observer) (r r' : Run) : Prop where
  later : Later observer r r'
  files : r'.files = r.files
  effect : (r'.tables = r.tables ∧ r'.report.tagCountsFixed = r.report.tagCountsFixed ∧
      (Agreeable observer r → r.tables.wrongCounts = [])) ∨
    (r'.tables = r.tables.recount ∧ r'.report.tagCountsFixed = true)

theorem countsChecked (done : checkCounts lib observer r = .ok r') : CountsChecked observer r r' := by
  have recounted {r r' : Run} (done : recount lib r = .ok r') :
      Edited observer Tables.recount (fun report => { report with tagCountsFixed := true }) r r' :=
    edited_of_ok observer (by rfl) done
  let p : Problem := .wrongCounts r.tables.wrongCounts
  have talk := talk_ask observer r p
  have asked : Later observer r (r.ask observer p).2 := .ask (by simp [p, Problem.kind, removalKinds])
  have answer := fun agreeable : Agreeable observer r => ask_of_agreeable agreeable p
  unfold checkCounts at done
  split at done
  · have edited := recounted done
    exact ⟨edited.later, edited.files, .inr ⟨edited.tables, by rw [edited.report]⟩⟩
  · split at done
    · rename_i right
      cases done
      exact ⟨.refl _, rfl, .inl ⟨rfl, rfl, fun _ => by simpa using right⟩⟩
    · rcases offer_cases done with ⟨-, repaired⟩ | ⟨no, rfl⟩
      · have edited := recounted repaired
        exact ⟨asked.trans edited.later, edited.files.trans talk.files,
          .inr ⟨by rw [edited.tables, talk.tables], by rw [edited.report]⟩⟩
      · rw [no] at answer
        exact ⟨asked, talk.files, .inl ⟨talk.tables, by rw [talk.report],
          fun agreeable => absurd (answer agreeable) (by simp)⟩⟩

/-- Links and custom values that are astray may have been dropped, and nothing else. -/
structure Tidied (observer : Observer) (r r' : Run) : Prop where
  later : Later observer r r'
  files : r'.files = r.files
  fewer : Tables.Fewer r.tables r'.tables
  items : r'.tables.items = r.tables.items
  removed : r'.report.itemsRemoved = r.report.itemsRemoved
  counted : r'.report.tagCountsFixed = r.report.tagCountsFixed

namespace Tidied

variable {r'' : Run}

theorem trans (first : Tidied observer r r') (second : Tidied observer r' r'') :
    Tidied observer r r'' :=
  ⟨first.later.trans second.later, second.files.trans first.files, first.fewer.trans second.fewer,
    second.items.trans first.items, second.removed.trans first.removed,
    second.counted.trans first.counted⟩

theorem nextStage (r : Run) (name : String) : Tidied observer r (r.nextStage name) :=
  ⟨.nextStage r name, rfl, .refl _, rfl, rfl, rfl⟩

theorem advance (r : Run) (percent : Nat) : Tidied observer r (r.advance percent) := by
  refine ⟨.advance r percent, by simp, ?_, by simp, by simp, by simp⟩
  rw [advance_tables]
  exact .refl _

end Tidied

theorem Changed.tidied {change : Tables → Tables} (changed : Changed observer change r r')
    (fewer : Tables.Fewer r.tables (change r.tables))
    (items : (change r.tables).items = r.tables.items) : Tidied observer r r' := by
  refine ⟨changed.later, changed.files, ?_, ?_, changed.removed, changed.counted⟩
  · rcases changed.effect with same | changes
    · exact same ▸ .refl _
    · exact changes ▸ fewer
  · rcases changed.effect with same | changes
    · rw [same]
    · rw [changes, items]

/-- The third stage sees to links and custom values, and then looks at the counters. -/
theorem checkLinks_parts (done : checkLinks lib observer r = .ok r') :
    ∃ r₁ r₂ r₃ r₄,
      offerRemoval lib observer r.tables.linksWithoutTag.length
        (.linksWithoutTag (distinctSorted (r.tables.linksWithoutTag.map (·.tag))))
        Tables.dropLinksWithoutTag ((r.nextStage "Checking item tags").advance 25) = .ok r₁ ∧
      offerRemoval lib observer r₁.tables.linksWithoutItem.length
        (.linksWithoutItem (distinctSorted (r₁.tables.linksWithoutItem.map (·.item))))
        Tables.dropLinksWithoutItem (r₁.advance 50) = .ok r₂ ∧
      offerRemoval lib observer r₂.tables.strayCustoms.length
        (.strayCustomValues r₂.tables.strayCustoms.length)
        Tables.dropStrayCustoms (r₂.advance 75) = .ok r₃ ∧
      checkCounts lib observer r₃ = .ok r₄ ∧ r' = r₄.advance 100 := by
  unfold checkLinks at done
  dsimp only at done
  obtain ⟨r₁, tags, done⟩ := ok_of_bind done
  obtain ⟨r₂, items, done⟩ := ok_of_bind done
  obtain ⟨r₃, customs, done⟩ := ok_of_bind done
  obtain ⟨r₄, counts, done⟩ := ok_of_bind done
  exact ⟨r₁, r₂, r₃, r₄, tags, items, customs, counts, (Except.ok.inj done).symm⟩

/-- Before it looks at the counters, the third stage sees to links and custom values. -/
theorem checkLinks_ok (done : checkLinks lib observer r = .ok r') :
    ∃ r₁ r₂, Tidied observer r r₁ ∧ (Agreeable observer r → r₁.tables = r.tables.withoutStrays) ∧
      checkCounts lib observer r₁ = .ok r₂ ∧ r' = r₂.advance 100 := by
  obtain ⟨r₁, r₂, r₃, r₄, tags, items, customs, counts, rfl⟩ := checkLinks_parts done
  have first := offerRemoval_ok observer (by simp [Problem.kind, removalKinds])
    (fun none' => by simpa using Tables.dropLinksWithoutTag_eq_self none') tags
  have second := offerRemoval_ok observer (by simp [Problem.kind, removalKinds])
    (fun none' => by simpa using Tables.dropLinksWithoutItem_eq_self none') items
  have third := offerRemoval_ok observer (by simp [Problem.kind, removalKinds])
    (fun none' => by simpa using Tables.dropStrayCustoms_eq_self none') customs
  have upToTags := ((Tidied.nextStage r _).trans (.advance _ 25)).trans
    (first.tidied ⟨.refl _, List.filter_sublist, rfl, rfl⟩ rfl)
  have upToItems := (upToTags.trans (.advance r₁ 50)).trans
    (second.tidied ⟨.refl _, List.filter_sublist, rfl, rfl⟩ rfl)
  have upToCustoms := (upToItems.trans (.advance r₂ 75)).trans
    (third.tidied ⟨.refl _, .refl _, rfl, rfl⟩ rfl)
  refine ⟨r₃, r₄, upToCustoms, fun agreeable => ?_, counts, rfl⟩
  have agreed := (upToItems.trans (.advance r₂ 75)).later.agreeable agreeable
  rw [third.thorough agreed, advance_tables, second.thorough
    ((upToTags.trans (.advance r₁ 50)).later.agreeable agreeable), advance_tables, first.thorough
    (((Tidied.nextStage r _).trans (.advance _ 25)).later.agreeable agreeable), advance_tables,
    nextStage_tables]
  rfl

/-- What comes of the third stage. -/
structure LinksChecked (observer : Observer) (r r' : Run) : Prop where
  later : Later observer r r'
  files : r'.files = r.files
  items : r'.tables.items = r.tables.items
  keyed : r.tables.Keyed → r'.tables.Keyed
  anchored : Agreeable observer r → r'.tables.Anchored
  counts : Agreeable observer r → ∀ row ∈ r'.tables.tags, row.count = r'.tables.actualCount row
  /-- The tag for the whole library is put in together with new counts. -/
  rooted : r.report.tagCountsFixed = false → (Tag.root ∈ r'.tables.tags.map (·.name) ↔
    Tag.root ∈ r.tables.tags.map (·.name) ∨ r'.report.tagCountsFixed = true)

theorem linksChecked (done : checkLinks lib observer r = .ok r') : LinksChecked observer r r' := by
  rcases checkLinks_ok done with ⟨r₁, r₂, tidied, thorough, counts, rfl⟩
  have checked := countsChecked counts
  have later := tidied.later.trans checked.later
  have ended : Later observer r (r₂.advance 100) := later.trans (.advance r₂ 100)
  have anchored (agreeable : Agreeable observer r) : r₁.tables.Anchored :=
    thorough agreeable ▸ r.tables.anchored_withoutStrays
  rcases checked.effect with ⟨same, uncounted, right⟩ | ⟨recounted, fixed⟩
  · refine
      { later := ended
        files := by rw [advance_files, checked.files, tidied.files]
        items := by rw [advance_tables, same, tidied.items]
        keyed := fun keyed => by rw [advance_tables, same]; exact tidied.fewer.keyed keyed
        anchored := fun agreeable => by rw [advance_tables, same]; exact anchored agreeable
        counts := fun agreeable row membership => ?_
        rooted := fun fresh => ?_ }
    · rw [advance_tables, same] at membership ⊢
      exact Tables.wrongCounts_eq_nil_iff.mp (right (tidied.later.agreeable agreeable)) row membership
    · rw [advance_tables, advance_report, same, uncounted, tidied.counted, fresh, tidied.fewer.tags]
      simp
  · refine
      { later := ended
        files := by rw [advance_files, checked.files, tidied.files]
        items := by rw [advance_tables, recounted, Tables.recount_items, tidied.items]
        keyed := fun keyed => by
          rw [advance_tables, recounted]
          exact (tidied.fewer.keyed keyed).recount
        anchored := fun agreeable => by
          rw [advance_tables, recounted]
          exact (anchored agreeable).recount
        counts := fun _ row membership => ?_
        rooted := fun _ => ?_ }
    · rw [advance_tables, recounted] at membership ⊢
      exact Tables.recount_counted.counts row membership
    · rw [advance_tables, advance_report, recounted, fixed]
      simpa using Tables.recount_counted.rooted

end Verifier

end SampleLibrary
