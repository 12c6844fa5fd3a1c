import SampleLibrary.Proofs.Library.Counters
import SampleLibrary.Proofs.Storage.Retaining
import SampleLibrary.Proofs.Verifier.Mending

/-!
# Histories of libraries

A library is created, and then one thing happens to it after the other (`Library.Event`). Only three kinds
of things ever happen to its tables (`Event.evolves`): items are added, the verifier repairs something, or
there is a new database because the old one has gone. What is known of these is known of every history.
-/

namespace SampleLibrary

/-- The tables with one record imported more, if that can be done. -/
inductive Tables.Imported (allowed : Metadata → Bool → Prop) : Tables → Tables → Prop where
  | added {t : Tables} {m : Metadata} {copy : Bool} {md5 path : String} :
      allowed m copy → Library.requireSource m = .ok (md5, path) → t.libraryItem? md5 = none →
      t.nextItem ≤ Tables.maxNumber →
      Imported allowed t
        (t.addItem (Library.stored m path copy) (Tag.expand m.tags.toList)).2

namespace Library

open Tables (Imported Repaired Retains Orderly)

/-- Only records whose tags are all valid are imported. -/
def Proper (m : Metadata) (_ : Bool) : Prop := m.TagsValid

variable {allowed : Metadata → Bool → Prop} {lib lib' lib'' : Library} {w w' w'' : World}
  {t t' : Tables}

/-! ## One import -/

theorem importFile_ok {m : Metadata} {copy : Bool} {id : Int} (content : Holds lib w t)
    (done : (lib.importFile m copy w).1 = .ok id) :
    ∃ t', Holds lib (lib.importFile m copy w).2 t' ∧ Addition t m copy id t' := by
  rcases importFile_cases m copy content with ⟨id', t', outcome, content', addition⟩ | ⟨e, outcome, -⟩
  · rw [outcome] at done
    cases done
    exact ⟨t', content', addition⟩
  · rw [outcome] at done
    cases done

theorem importFile_evolves {m : Metadata} {copy : Bool} (isAllowed : allowed m copy)
    (content : Holds lib w t) :
    ∃ t', Holds lib (lib.importFile m copy w).2 t' ∧
      Relation.ReflTransGen (Imported allowed) t t' := by
  rcases importFile_cases m copy content with ⟨id, t', -, content', addition⟩ | ⟨e, -, content'⟩
  · rcases addition.source with ⟨md5, path, required, unknown, rfl⟩
    exact ⟨_, content', .single (.added isAllowed required unknown addition.bound)⟩
  · exact ⟨t, content', .refl⟩

theorem importFrom_evolves {copy : Bool} {report : ImportReport} {ms : List Metadata}
    (allAllowed : ∀ m ∈ ms, allowed m copy) (content : Holds lib w t) :
    ∃ t', Holds lib (lib.importFrom copy report ms w).2 t' ∧
      Relation.ReflTransGen (Imported allowed) t t' := by
  induction ms generalizing report w t with
  | nil => exact ⟨t, content, .refl⟩
  | cons m ms inductionHypothesis =>
      rcases importFile_evolves (allAllowed m List.mem_cons_self) content with
        ⟨t', content', first⟩
      unfold importFrom
      dsimp only
      split
      · rcases inductionHypothesis
          (fun other membership => allAllowed other (List.mem_cons_of_mem _ membership)) content' with
          ⟨t'', content'', others⟩
        exact ⟨t'', content'', first.trans others⟩
      · exact ⟨t', content', first⟩

/-! ## Whatever happens -/

/-- One thing that happens to a library, if only allowed records are imported. -/
inductive Event (allowed : Metadata → Bool → Prop) : Library → World → Library → World → Prop where
  | imported {lib : Library} {w : World} (m : Metadata) (copy : Bool) :
      allowed m copy → Event allowed lib w lib (lib.importFile m copy w).2
  | importedAll {lib : Library} {w : World} (ms : List Metadata) (copy : Bool) :
      (∀ m ∈ ms, allowed m copy) → Event allowed lib w lib (lib.importFiles ms copy w).2
  | closed {lib : Library} {w : World} : Event allowed lib w (lib.close w).1 (lib.close w).2
  | reopened {lib lib' : Library} {w : World} :
      lib.isClosed = true → (openAt lib.base w).1 = .ok lib' →
      (w.files.exists? (databasePath lib.base) = true → lib'.database = lib.database) →
      Event allowed lib w lib' (openAt lib.base w).2
  | changed {lib : Library} {w : World} (w' : World) :
      (w'.files.dataOf lib.database).content = (w.files.dataOf lib.database).content →
      Event allowed lib w lib w'
  | verified {lib : Library} {w : World} (observer : Verifier.Observer) :
      Event allowed lib w lib (Verifier.verify lib observer w).2

/-- What becomes of the tables: items are added, something is repaired, or the tables are new. -/
inductive Evolves (allowed : Metadata → Bool → Prop) : Tables → Tables → Prop where
  | grown {t t' : Tables} : Relation.ReflTransGen (Imported allowed) t t' → Evolves allowed t t'
  | repaired {t t' : Tables} : Relation.ReflTransGen Repaired t t' → Evolves allowed t t'
  | renewed {t : Tables} : Evolves allowed t .fresh

theorem Event.evolves (event : Event allowed lib w lib' w') (content : Holds lib w t) :
    ∃ t', Holds lib' w' t' ∧ Evolves allowed t t' := by
  cases event with
  | imported m copy isAllowed =>
      rcases importFile_evolves isAllowed content with ⟨t', content', added⟩
      exact ⟨t', content', .grown added⟩
  | importedAll ms copy allAllowed =>
      rcases importFrom_evolves allAllowed content with ⟨t', content', added⟩
      exact ⟨t', content', .grown added⟩
  | closed =>
      rcases close_data lib w with ⟨database, data⟩
      refine ⟨t, ?_, .grown .refl⟩
      unfold Holds
      rw [database, ← content]
      exact congrArg FileData.content (Files.dataOf_congr data lib.database)
  | reopened isClosed opened own =>
      rcases openAt_ok opened with ⟨-, -, ⟨there, data⟩ | ⟨-, content'⟩⟩
      · refine ⟨t, ?_, .grown .refl⟩
        unfold Holds
        rw [own there, ← content]
        exact congrArg FileData.content (Files.dataOf_congr data _)
      · exact ⟨.fresh, content', .renewed⟩
  | changed _ kept => exact ⟨t, kept.trans content, .grown .refl⟩
  | verified observer =>
      cases isOpen : lib.tables w.files with
      | error e =>
          refine ⟨t, ?_, .grown .refl⟩
          unfold Holds
          rw [Verifier.verify, isOpen]
          exact content
      | ok t₀ =>
          obtain rfl : t₀ = t := Holds.eq (tables_eq_ok isOpen) content
          rcases Verifier.verify_repairs isOpen with ⟨t', content', repairs⟩
          exact ⟨t', content', .repaired repairs⟩

/-- What a library has gone through since it was created. -/
inductive History (allowed : Metadata → Bool → Prop) : Library → World → Prop where
  | created {base : String} {lib : Library} {w : World} :
      w.files.exists? (databasePath base) = false →
      (openAt base w).1 = .ok lib → History allowed lib (openAt base w).2
  | next {lib lib' : Library} {w w' : World} :
      History allowed lib w → Event allowed lib w lib' w' → History allowed lib' w'

theorem Reached.next (proper : ∀ m copy, allowed m copy → m.TagsValid) (reached : Reached lib w)
    (event : Event allowed lib w lib' w') : Reached lib' w' := by
  cases event with
  | imported m copy isAllowed => exact .imported m copy reached (proper m copy isAllowed)
  | importedAll ms copy allAllowed =>
      exact .importedAll ms copy reached
        fun m membership => proper m copy (allAllowed m membership)
  | closed => exact .closed reached
  | reopened isClosed opened own => exact .reopened reached isClosed opened own
  | changed _ kept => exact .changed w' reached kept
  | verified observer => exact .verified observer reached

theorem History.reached (proper : ∀ m copy, allowed m copy → m.TagsValid)
    (history : History allowed lib w) : Reached lib w := by
  induction history with
  | created absent opened => exact .created absent opened
  | next before event inductionHypothesis => exact inductionHypothesis.next proper event

/-- Every state that a library can come to has a history. -/
theorem Reached.history (reached : Reached lib w) : History Proper lib w := by
  induction reached with
  | created absent opened => exact .created absent opened
  | imported m copy _ valid before => exact before.next (.imported m copy valid)
  | importedAll ms copy _ valid before => exact before.next (.importedAll ms copy valid)
  | closed _ before => exact before.next .closed
  | reopened _ isClosed opened own before => exact before.next (.reopened isClosed opened own)
  | changed w' _ kept before => exact before.next (.changed w' kept)
  | verified observer _ before => exact before.next (.verified observer)

/-! ## What every history keeps -/

/-- What an import comes to. -/
theorem Imported.stored (imported : Imported Proper t t') (consistent : t.Consistent)
    (orderly : t.Orderly) :
    t'.Consistent ∧ ∃ m tags, Tables.Stored t m tags t' := by
  cases imported with
  | added isProper required unknown bound =>
      have checksum := requireSource_ok required
      have valid : ∀ tag ∈ Tag.expand _, Tag.isValid tag = true :=
        fun tag membership => Tag.isValid_of_mem_expand
          (fun other listed => isProper other (Std.ExtTreeSet.mem_toList.mp listed)) membership
      exact ⟨consistent.addItem checksum unknown valid, _, _,
        Tables.stored_addItem consistent orderly checksum unknown valid bound⟩

/-- Imports keep tables consistent and in order, and they retain the items that are there. -/
theorem grown_retains (grown : Relation.ReflTransGen (Imported Proper) t t')
    (consistent : t.Consistent) (orderly : t.Orderly) :
    t'.Consistent ∧ t'.Orderly ∧
      ∀ id, t.hasItem id = true → t'.hasItem id = true ∧ Retains id t t' := by
  induction grown with
  | refl => exact ⟨consistent, orderly, fun id present => ⟨present, .refl id t⟩⟩
  | tail before imported inductionHypothesis =>
      rcases inductionHypothesis with ⟨consistent', orderly', retains⟩
      rcases Imported.stored imported consistent' orderly' with ⟨consistent'', m, tags, stored⟩
      refine ⟨consistent'', stored.orderly, fun id present => ?_⟩
      rcases retains id present with ⟨present', first⟩
      have second := stored.retains id present'
      refine ⟨?_, first.trans second⟩
      rcases Tables.hasItem_iff.mp present' with ⟨i, membership, same⟩
      exact Tables.hasItem_iff.mpr ⟨i, (second.row i same).mpr membership, same⟩

/-- What holds of new tables, and what imports and repairs keep, holds of the tables at all times. -/
theorem Evolves.keeps {P : Tables → Prop} (evolves : Evolves allowed t t') (fresh : P .fresh)
    (imported : ∀ t t', Imported allowed t t' → P t → P t')
    (repaired : ∀ t t', Repaired t t' → P t → P t') (before : P t) : P t' := by
  cases evolves with
  | grown grown =>
      induction grown with
      | refl => exact before
      | tail _ step inductionHypothesis => exact imported _ _ step inductionHypothesis
  | repaired repairs =>
      induction repairs with
      | refl => exact before
      | tail _ step inductionHypothesis => exact repaired _ _ step inductionHypothesis
  | renewed => exact fresh

theorem History.keeps {P : Tables → Prop} (history : History allowed lib w) (fresh : P .fresh)
    (imported : ∀ t t', Imported allowed t t' → P t → P t')
    (repaired : ∀ t t', Repaired t t' → P t → P t') : ∃ t, Holds lib w t ∧ P t := by
  induction history with
  | created absent opened =>
      rcases openAt_ok opened with ⟨-, -, ⟨there, -⟩ | ⟨-, content⟩⟩
      · exact absurd there (by simp [absent])
      · exact ⟨.fresh, content, fresh⟩
  | next _ event inductionHypothesis =>
      rcases inductionHypothesis with ⟨t, content, before⟩
      rcases event.evolves content with ⟨t', content', evolves⟩
      exact ⟨t', content', evolves.keeps fresh imported repaired before⟩

/-- What holds of every item that is imported holds of all items at all times. -/
theorem History.items {P : Item → Prop} (history : History allowed lib w)
    (new : ∀ m copy md5 path, allowed m copy → requireSource m = .ok (md5, path) →
      ∀ id, P (Tables.rowOf id (stored m path copy))) :
    ∃ t, Holds lib w t ∧ ∀ i ∈ t.items, P i := by
  apply history.keeps (P := fun t => ∀ i ∈ t.items, P i)
  · exact fun i membership => absurd membership List.not_mem_nil
  · intro t t' imported before
    cases imported with
    | added isAllowed required unknown bound =>
        intro i membership
        rw [Tables.addItem_items] at membership
        rcases List.mem_append.mp membership with old | added
        · exact before i old
        · rw [List.mem_singleton.mp added]
          exact new _ _ _ _ isAllowed required _
  · exact fun t t' repaired before i membership => before i (repaired.items.subset membership)

/-- Custom values are never without a text: the database allows it, but nothing leaves it out. -/
theorem History.customs (history : History allowed lib w) :
    ∃ t, Holds lib w t ∧ ∀ c ∈ t.customs, ∃ value, c.value = some value := by
  apply history.keeps (P := fun t => ∀ c ∈ t.customs, ∃ value, c.value = some value)
  · exact fun c membership => absurd membership List.not_mem_nil
  · intro t t' imported before
    cases imported with
    | added isAllowed required unknown bound =>
        intro c membership
        rcases Tables.mem_customs_addItem membership with old | ⟨value, isValue⟩
        · exact before c old
        · exact ⟨value, isValue⟩
  · exact fun t t' repaired before c membership => before c (repaired.customs.subset membership)

theorem repairs_orderly (repairs : Relation.ReflTransGen Repaired t t') (orderly : t.Orderly) :
    t'.Orderly := by
  induction repairs with
  | refl => exact orderly
  | tail before repaired inductionHypothesis => exact repaired.orderly inductionHypothesis

theorem History.orderly (history : History Proper lib w) :
    ∃ t, Holds lib w t ∧ t.Consistent ∧ t.Orderly := by
  induction history with
  | created absent opened =>
      rcases openAt_ok opened with ⟨-, -, ⟨there, -⟩ | ⟨-, content⟩⟩
      · exact absurd there (by simp [absent])
      · exact ⟨.fresh, content, Tables.fresh_consistent, Tables.fresh_orderly⟩
  | next before event inductionHypothesis =>
      rcases inductionHypothesis with ⟨t, content, consistent, orderly⟩
      rcases ((before.next event).reached fun _ _ valid => valid).consistent with
        ⟨t₁, content₁, consistent'⟩
      rcases event.evolves content with ⟨t', content', evolves⟩
      obtain rfl := content₁.symm.trans content' |> Content.database.inj
      refine ⟨t₁, content₁, consistent', ?_⟩
      cases evolves with
      | grown grown => exact (grown_retains grown consistent orderly).2.1
      | repaired repairs => exact repairs_orderly repairs orderly
      | renewed => exact Tables.fresh_orderly

/-- The tables of a library are consistent and in order in every state that it can come to. -/
theorem Reached.orderly (reached : Reached lib w) :
    ∃ t, Holds lib w t ∧ t.Consistent ∧ t.Orderly :=
  reached.history.orderly

/-- No item ever belongs to a workplace. -/
theorem Reached.inLibrary (reached : Reached lib w) :
    ∃ t, Holds lib w t ∧ ∀ i ∈ t.items, i.inLibrary = true :=
  reached.history.items fun _ _ _ _ _ _ _ => rfl

end Library

end SampleLibrary
