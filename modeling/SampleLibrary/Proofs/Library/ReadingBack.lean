import SampleLibrary.Proofs.Library.Histories
import SampleLibrary.Proofs.Query.Running
import SampleLibrary.Proofs.Storage.ReadingBack

/-!
# Importing a record and reading it back

Once a record has been imported, its item stays what it is for as long as it is there (`Since`), whatever
else is imported, however often the library is closed and opened again, and whatever is verified. So
looking for its checksum yields the record, as it was imported (`Reached.read_back`).
-/

namespace SampleLibrary.Library

open Tables (Retains Orderly)

variable {lib lib' : Library} {w w' : World} {t : Tables} {id : Int}

/-- Is the item in the database of the library? -/
def hasItem (lib : Library) (w : World) (id : Int) : Bool :=
  match (w.files.dataOf lib.database).content with
  | .database t => t.hasItem id
  | .bytes _ => false

theorem Holds.hasItem (content : Holds lib w t) : lib.hasItem w id = t.hasItem id := by
  rw [Library.hasItem, content]

/-- From one state to a later one, and the item has been there all the time. -/
inductive Since (id : Int) : Library → World → Library → World → Prop where
  | start {lib : Library} {w : World} : lib.hasItem w id = true → Since id lib w lib w
  | next {lib lib' lib'' : Library} {w w' w'' : World} :
      Since id lib w lib' w' → Event Proper lib' w' lib'' w'' → lib''.hasItem w'' id = true →
      Since id lib w lib'' w''

/-- An item that stays in the database keeps all that the tables say about it. -/
theorem Since.retains (since : Since id lib w lib' w') (reached : Reached lib w) :
    Reached lib' w' ∧ ∃ t t', Holds lib w t ∧ Holds lib' w' t' ∧ t'.hasItem id = true ∧
      Retains id t t' := by
  induction since with
  | start there =>
      rcases reached.orderly with ⟨t, content, -, -⟩
      rw [content.hasItem] at there
      exact ⟨reached, t, t, content, content, there, .refl id t⟩
  | next before event there inductionHypothesis =>
      rcases inductionHypothesis reached with ⟨reached', t, t', content, content', present, retains⟩
      rcases reached'.orderly with ⟨t₁, content₁, consistent, orderly⟩
      obtain rfl := content₁.eq content'
      rcases event.evolves content₁ with ⟨t'', content'', evolves⟩
      rw [content''.hasItem] at there
      refine ⟨reached'.next (fun _ _ valid => valid) event, t, t'', content, content'', there, ?_⟩
      cases evolves with
      | grown grown =>
          exact retains.trans ((grown_retains grown consistent orderly).2.2 id present).2
      | repaired repairs =>
          exact retains.trans (Tables.retains_of_repairs repairs consistent.whole.rooted there).2
      | renewed => cases there

/-! ## Looking for a checksum -/

theorem holds_md5Statement {i : Item} {md5 : String} :
    ((md5Statement md5).clauses.all fun c => c.holds t i) =
      (i.cell .md5 == .text md5 && i.inLibrary) := by
  have compares : (i.cell .md5).satisfies .eq (.text md5) = (i.cell .md5 == .text md5) := by
    cases i.cell .md5 with
    | empty => rfl
    | integer n => rfl
    | real x => rfl
    | text s =>
        rw [Bool.eq_iff_iff]
        simp [Cell.satisfies, Cell.compare?, Query.Comparison.holds,
          Std.LawfulEqCmp.compare_eq_iff_eq]
  simp only [md5Statement, List.all_cons, List.all_nil, Bool.and_true]
  rw [← compares]
  rfl

theorem run_md5Statement (t : Tables) (md5 : String) :
    ∃ found, (md5Statement md5).run t = .ok found :=
  ⟨_, rfl⟩

/-- A library item is found by its checksum, and nothing else is. -/
theorem withMd5_of_mem (isOpen : lib.isClosed = false) (content : Holds lib w t)
    (keyed : t.Keyed) (orderly : t.Orderly) {i : Item} (there : i ∈ t.libraryItems) {md5 : String}
    (checksum : i.cell .md5 = .text md5) : (lib.withMd5 md5 w).1 = .ok [t.record i] := by
  have tables := content.readable isOpen
  have only : (t.items.filter fun i => (md5Statement md5).clauses.all fun c => c.holds t i) = [i] := by
    rw [← Tables.filter_key_eq keyed.checksums there, Tables.libraryItems, List.filter_filter]
    refine List.filter_congr fun j _ => ?_
    rw [holds_md5Statement, checksum]
  have inRange : ∀ j ∈ [i], 0 < j.id ∧ j.id ≤ Tables.maxNumber := by
    intro j membership
    rw [List.mem_singleton.mp membership]
    exact orderly.items i (Tables.mem_libraryItems.mp there).1
  rcases run_md5Statement t md5 with ⟨found, ran⟩
  have sameItems := Query.run_perm rfl ran
  rw [only, List.perm_singleton] at sameItems
  subst sameItems
  have searched : t.search (md5Statement md5) = .ok [t.record i] := by
    unfold Tables.search
    rw [ran]
    dsimp only [bind, Except.bind]
    rw [Query.mapM_rowOf rfl inRange]
    rfl
  unfold withMd5 find
  rw [tables]
  dsimp only [bind, Except.bind]
  rw [searched]

/-! ## Reading back -/

theorem path_of_requireSource {m : Metadata} {md5 path : String}
    (required : requireSource m = .ok (md5, path)) : m.path = some path := by
  rcases exists_of_bind_ok required with ⟨md5', -, required⟩
  split at required
  · rename_i path' present
    split at required <;> cases required
    exact present
  · cases required

/-- What an import that succeeds adds to the tables. -/
theorem Addition.adds {m : Metadata} {copy : Bool} {t' : Tables} (addition : Addition t m copy id t')
    (consistent : t.Consistent) (orderly : t.Orderly) (valid : m.TagsValid) :
    ∃ md5 path, m.md5 = some md5 ∧ m.path = some path ∧
      Tables.Stored t (stored m path copy) (Tag.expand m.tags.toList) t' := by
  rcases addition.source with ⟨md5, path, required, unknown, rfl⟩
  have checksum := requireSource_ok required
  have tagsValid : ∀ tag ∈ Tag.expand m.tags.toList, Tag.isValid tag = true :=
    fun tag membership => Tag.isValid_of_mem_expand
      (fun other listed => valid other (Std.ExtTreeSet.mem_toList.mp listed)) membership
  exact ⟨md5, path, checksum, path_of_requireSource required,
    Tables.stored_addItem (m := stored m path copy) consistent orderly checksum unknown
      tagsValid addition.bound⟩

/-- What an import that succeeds leaves behind: an item with the row of the record, and whatever else makes
the record when it is read. -/
theorem Addition.record {m : Metadata} {copy : Bool} {t' : Tables} (addition : Addition t m copy id t')
    (consistent : t.Consistent) (orderly : t.Orderly) (valid : m.Valid)
    (duration : m.duration ≠ some .nan) (peakLevel : m.peakLevel ≠ some .nan) :
    ∃ md5 path, m.md5 = some md5 ∧ m.path = some path ∧
      Tables.rowOf id (stored m path copy) ∈ t'.items ∧
      t'.record (Tables.rowOf id (stored m path copy)) =
        (stored m path copy).readBack := by
  rcases addition.adds consistent orderly valid.tags with ⟨md5, path, checksum, source, result⟩
  refine ⟨md5, path, checksum, source, ?_, ?_⟩
  · rw [result.items, addition.number]
    exact List.mem_append_right _ (List.mem_singleton_self _)
  · rw [addition.number]
    exact Tables.record_rowOf (m := stored m path copy) ⟨valid.tags, valid.keys⟩ duration
      peakLevel result.tags result.customs

/-- A record that has been imported is found by its checksum in every later state in which its item has
not been deleted. It is the only one that is found, and it says the same as the record that was imported,
but for where it came from, its path if the file was copied, and tags that other tags of it imply. -/
theorem Reached.read_back {m : Metadata} {copy : Bool} (reached : Reached lib w) (valid : m.Valid)
    (duration : m.duration ≠ some .nan) (peakLevel : m.peakLevel ≠ some .nan)
    (imported : (lib.importFile m copy w).1 = .ok id)
    (since : Since id lib (lib.importFile m copy w).2 lib' w') (isOpen : lib'.isClosed = false) :
    ∃ md5 path found, m.md5 = some md5 ∧ m.path = some path ∧
      (lib'.withMd5 md5 w').1 = .ok [found] ∧
      found.same
        { m with
          source := some ("file:" ++ path)
          path := if copy then none else some path
          tags := Tag.leaves m.tags } = true := by
  rcases reached.orderly with ⟨t, content, consistent, orderly⟩
  rcases importFile_ok content imported with ⟨t₀, content₀, addition⟩
  rcases addition.record consistent orderly valid duration peakLevel with
    ⟨md5, path, checksum, source, row, record⟩
  rcases since.retains (.imported m copy reached valid.tags) with
    ⟨reached', t₁, t', content₁, content', there, retains⟩
  obtain rfl := content₁.eq content₀
  rcases reached'.orderly with ⟨t₂, content₂, consistent', orderly'⟩
  obtain rfl := content₂.eq content'
  have row' : Tables.rowOf id (stored m path copy) ∈ t₂.libraryItems :=
    Tables.mem_libraryItems.mpr ⟨(retains.row _ rfl).mpr row, Tables.rowOf_inLibrary id⟩
  refine ⟨md5, path, _, checksum, source, withMd5_of_mem isOpen content₂ consistent'.keyed orderly'
    row' (Tables.rowOf_checksum (m := stored m path copy) checksum), ?_⟩
  have kept : t₂.record (Tables.rowOf id (stored m path copy)) = (stored m path copy).readBack := by
    rw [Retains.record (i := Tables.rowOf id (stored m path copy)) retains, record]
  rw [kept]
  have same := Metadata.readBack_same (m := stored m path copy) duration peakLevel
  unfold stored at same ⊢
  rw [source] at same ⊢
  exact same

/-- A directory without anything in it. -/
def bareWorld : World := { files := Files.fresh ["home"], process := 1 }

theorem bareWorld_absent : bareWorld.files.exists? (databasePath "lib") = false := rfl

def snare : Metadata :=
  ({ Metadata.empty with
    md5 := some "0123456789abcdef0123456789abcdef"
    path := some "snare.wav"
    channels := some 2 }.addTags ["/drums", "/drums/snare"]).setCustom "key" "C"

theorem snare_valid : snare.Valid := by
  unfold snare
  apply Metadata.Valid.setCustom
  apply Metadata.Valid.addTags
  exact ⟨Metadata.tagsValid_empty, Metadata.valid_empty.keys⟩

def clap : Metadata :=
  { Metadata.empty with
    md5 := some "00000000000000000000000000000000"
    path := some "clap.wav" }.addTags ["/drums"]

theorem clap_tagsValid : clap.TagsValid :=
  Metadata.TagsValid.addTags Metadata.tagsValid_empty _

/-- A new library, in which the snare and then the clap is imported and which is closed. -/
def snareWorlds (lib : Library) : World × World × World :=
  let first := (lib.importFile snare false (openAt "lib" bareWorld).2).2
  let second := (lib.importFile clap false first).2
  (first, second, (lib.close second).2)

theorem snare_imported :
    (match (openAt "lib" bareWorld).1 with
      | .ok lib =>
        (lib.importFile snare false (openAt "lib" bareWorld).2).1.toOption == some 1
          && lib.hasItem (snareWorlds lib).1 1 && lib.hasItem (snareWorlds lib).2.1 1
          && (lib.close (snareWorlds lib).2.1).1.hasItem (snareWorlds lib).2.2 1
          && (lib.close (snareWorlds lib).2.1).1.isClosed
          && match (openAt (lib.close (snareWorlds lib).2.1).1.base (snareWorlds lib).2.2).1 with
            | .ok lib' => !lib'.isClosed
              && lib'.database == (lib.close (snareWorlds lib).2.1).1.database
              && lib'.hasItem
                (openAt (lib.close (snareWorlds lib).2.1).1.base (snareWorlds lib).2.2).2 1
            | .error _ => false
      | .error _ => false) = true := by
  decide +kernel

/-- The snare is still there after the clap has been imported. -/
theorem snare_there :
    ∃ lib, (openAt "lib" bareWorld).1 = .ok lib ∧ lib.hasItem (snareWorlds lib).2.1 1 = true := by
  have facts := snare_imported
  cases opened : (openAt "lib" bareWorld).1 with
  | error e => simp [opened] at facts
  | ok lib =>
      simp only [opened, Bool.and_eq_true] at facts
      exact ⟨lib, rfl, facts.1.1.1.2⟩

/-- The snare is imported, and the library is closed and opened again: the snare is what it was. -/
theorem snare_read_back :
    ∃ lib lib' w', Reached lib (openAt "lib" bareWorld).2 ∧ snare.Valid ∧
      snare.duration ≠ some .nan ∧ snare.peakLevel ≠ some .nan ∧
      (lib.importFile snare false (openAt "lib" bareWorld).2).1 = .ok 1 ∧
      Since 1 lib (lib.importFile snare false (openAt "lib" bareWorld).2).2 lib' w' ∧
      lib'.isClosed = false ∧
      ∃ md5 path found, snare.md5 = some md5 ∧ snare.path = some path ∧
        (lib'.withMd5 md5 w').1 = .ok [found] ∧
        found.same
          { snare with
            source := some ("file:" ++ path)
            path := if false then none else some path
            tags := Tag.leaves snare.tags } = true := by
  have facts := snare_imported
  cases opened : (openAt "lib" bareWorld).1 with
  | error e => simp [opened] at facts
  | ok lib =>
      simp only [opened, Bool.and_eq_true, beq_iff_eq] at facts
      rcases facts with ⟨⟨⟨⟨⟨outcome, first⟩, second⟩, third⟩, isClosed⟩, again⟩
      cases reopened : (openAt (lib.close (snareWorlds lib).2.1).1.base (snareWorlds lib).2.2).1 with
      | error e => simp [reopened] at again
      | ok lib' =>
          simp only [reopened, Bool.and_eq_true, Bool.not_eq_true', beq_iff_eq] at again
          rcases again with ⟨⟨isOpen, own⟩, fourth⟩
          have imported : (lib.importFile snare false (openAt "lib" bareWorld).2).1 = .ok 1 := by
            cases result : (lib.importFile snare false (openAt "lib" bareWorld).2).1 with
            | error e => simp [result, Except.toOption] at outcome
            | ok id =>
                rw [result] at outcome
                exact congrArg Except.ok (Option.some.inj outcome)
          have reached : Reached lib (openAt "lib" bareWorld).2 := .created bareWorld_absent opened
          have since := Since.next (.next (.next (.start first) (.imported clap false clap_tagsValid)
            second) .closed third) (.reopened isClosed reopened fun _ => own) fourth
          have duration : snare.duration ≠ some .nan := by decide
          have peakLevel : snare.peakLevel ≠ some .nan := by decide
          exact ⟨lib, lib', _, reached, snare_valid, duration, peakLevel, imported, since, isOpen,
            reached.read_back snare_valid duration peakLevel imported since isOpen⟩

end SampleLibrary.Library
