import SampleLibrary.Library.Import
import SampleLibrary.Proofs.Files.Making
import SampleLibrary.Proofs.Library.TagSearch
import SampleLibrary.Proofs.Metadata
import SampleLibrary.Proofs.Storage.Adding
import SampleLibrary.Proofs.Verifier.Consistency

/-!
# Counters of tags

A library keeps its counters one by one as it imports samples, and the verifier counts them anew after it
has removed some. Both agree in every state that a library can come to (`Library.Reached`): its tables
are consistent, whatever has failed and whatever has become of the files
(`Library.Reached.consistent`).
-/

namespace SampleLibrary

namespace Library

variable {lib lib' : Library} {w w' : World} {t t' : Tables}

/-! ## Opening -/

/-- Making a database either fails or puts the tables of a new library at its place. -/
theorem create_ok {base : String} {fs fs' : Files} (made : create base fs = (.ok (), fs')) :
    ∃ place id, fs'.fileAt (databasePath base) = .ok (place, id) ∧
      (fs'.dataOf id).content = .database .fresh := by
  unfold create at made
  split at made
  · cases made
  · split at made
    · rename_i put
      cases made
      exact Files.fileAt_put put
    · cases made

/-- A database that is there is left alone, and one that is not is made. -/
theorem findDatabase_cases {base : String} {fs fs' : Files} {place : Location} {id : Nat}
    (found : findDatabase base fs = (.ok (place, id), fs')) :
    fs.exists? (databasePath base) = true ∧ fs' = fs ∨
      fs.exists? (databasePath base) = false ∧ create base fs = (.ok (), fs') ∧
        fs'.fileAt (databasePath base) = .ok (place, id) := by
  unfold findDatabase at found
  by_cases there : fs.exists? (databasePath base) = true
  · rw [if_pos there] at found
    dsimp only at found
    split at found
    · cases found
    · split at found
      · cases found
        exact .inl ⟨there, rfl⟩
      · cases found
  · rw [if_neg there] at found
    cases made : create base fs with
    | mk result files =>
        rw [made] at found
        cases result with
        | error e => cases found
        | ok _ =>
            dsimp only at found
            split at found
            · cases found
            · rename_i leads
              split at found
              · cases found
                exact .inr ⟨Bool.eq_false_iff.mpr there, rfl, leads⟩
              · cases found

/-- A library is opened where its database is found, once there is a directory for its aliases. -/
theorem openAt_eq_ok {base : String} (opened : (openAt base w).1 = .ok lib) :
    ∃ place id files files', findDatabase base w.files = (.ok (place, id), files) ∧
      files.makeDirs (Path.below base (tmpName w.process w.opened)) = (.ok (), files') ∧
      lib = { base, place, database := id,
              tmpDir := Path.below base (tmpName w.process w.opened) } ∧
      (openAt base w).2.files = files' := by
  unfold openAt at opened ⊢
  cases found : findDatabase base w.files with
  | mk result files =>
      rw [found] at opened
      cases result with
      | error e => cases opened
      | ok database =>
          rcases database with ⟨place, id⟩
          dsimp only at opened ⊢
          cases made : files.makeDirs (Path.below base (tmpName w.process w.opened)) with
          | mk outcome files' =>
              rw [made] at opened
              cases outcome with
              | error e => cases opened
              | ok _ => exact ⟨place, id, files, files', rfl, made, (Except.ok.inj opened).symm, rfl⟩

/-- Opening a library leaves a database alone that is there, and makes one if there is none. -/
theorem openAt_ok {base : String} (opened : (openAt base w).1 = .ok lib) :
    lib.base = base ∧ lib.isClosed = false ∧
      (w.files.exists? (databasePath base) = true ∧
          (openAt base w).2.files.data = w.files.data ∨
        w.files.exists? (databasePath base) = false ∧
          ((openAt base w).2.files.dataOf lib.database).content = .database .fresh) := by
  obtain ⟨place, id, files, files', found, made, rfl, left⟩ := openAt_eq_ok opened
  have kept := (Files.moreDirectories_makeDirs files
    (Path.below base (tmpName w.process w.opened))).data
  rw [made] at kept
  rw [left]
  refine ⟨rfl, rfl, ?_⟩
  rcases findDatabase_cases found with ⟨there, rfl⟩ | ⟨absent, created, leads⟩
  · exact .inl ⟨there, kept⟩
  · refine .inr ⟨absent, ?_⟩
    rcases create_ok created with ⟨place', id', leads', content⟩
    cases leads.symm.trans leads'
    rw [← content]
    exact congrArg FileData.content (Files.dataOf_congr kept id)

/-! ## Importing -/

/-- These are the tables of the library, be it open or not. -/
def Holds (lib : Library) (w : World) (t : Tables) : Prop :=
  (w.files.dataOf lib.database).content = .database t

theorem Holds.eq (first : Holds lib w t) (second : Holds lib w t') : t = t' :=
  Content.database.inj (first.symm.trans second)

theorem Holds.readable (content : Holds lib w t) (isOpen : lib.isClosed = false) :
    lib.tables w.files = .ok t := by
  rw [Library.tables, isOpen, show (w.files.dataOf lib.database).content = .database t from content]
  rfl

theorem tables_eq_ok {fs : Files} (isOpen : lib.tables fs = .ok t) :
    (fs.dataOf lib.database).content = .database t :=
  (tables_eq_ok_iff.mp isOpen).2

theorem requireSource_ok {m : Metadata} {md5 path : String}
    (required : requireSource m = .ok (md5, path)) : m.md5 = some md5 := by
  unfold requireSource at required
  cases checksum : requireMd5 m "md5 is required for import" with
  | error e => simp [checksum, bind, Except.bind] at required
  | ok found =>
      have same : found = md5 := by
        simp only [checksum, bind, Except.bind] at required
        split at required
        · split at required <;> cases required
          rfl
        · cases required
      unfold requireMd5 at checksum
      split at checksum
      · rename_i present
        split at checksum <;> cases checksum
        rw [present, same]
      · cases checksum

/-- What a record has become part of the tables as. -/
structure Addition (t : Tables) (m : Metadata) (copy : Bool) (id : Int) (t' : Tables) : Prop where
  source : ∃ md5 path, requireSource m = .ok (md5, path) ∧ t.libraryItem? md5 = none ∧
    t' = (t.addItem (stored m path copy) (Tag.expand m.tags.toList)).2
  number : id = t.nextItem
  bound : t.nextItem ≤ Tables.maxNumber

theorem addRecord_ok {m : Metadata} {copy : Bool} {id : Int} (content : Holds lib w t)
    (added : lib.addRecord w.files m copy = .ok (id, t')) : Addition t m copy id t' := by
  rcases exists_of_bind_ok added with ⟨⟨md5, path⟩, required, added⟩
  rcases exists_of_bind_ok added with ⟨t₀, isOpen, added⟩
  obtain rfl : t₀ = t := Holds.eq (tables_eq_ok isOpen) content
  dsimp only at added
  split at added
  · cases added
  · rename_i unknown
    split at added
    · rename_i possible
      cases added
      simp only [Bool.and_eq_true, decide_eq_true_eq] at possible
      exact ⟨⟨md5, path, required, unknown, rfl⟩, rfl, possible.1.2⟩
    · cases added

/-- A record that can be imported makes consistent tables of consistent ones. -/
theorem Addition.consistent {m : Metadata} {copy : Bool} {id : Int} {t' : Tables}
    (addition : Addition t m copy id t') (consistent : t.Consistent) (valid : m.TagsValid) :
    t'.Consistent := by
  rcases addition.source with ⟨md5, path, required, unknown, rfl⟩
  have checksum : m.md5 = some md5 := requireSource_ok required
  exact consistent.addItem (m := stored m path copy) checksum unknown
    fun tag membership => Tag.isValid_of_mem_expand
      (fun other listed => valid other (Std.ExtTreeSet.mem_toList.mp listed)) membership

theorem discard_data (fs : Files) (path : String) : (discard fs path).data = fs.data := by
  unfold discard
  cases removed : fs.remove path with
  | error e => rfl
  | ok fs' => exact Files.remove_data removed

theorem storeBlob_error {fs fs' : Files} {source target : String} {e : FileError}
    (failed : storeBlob fs source target = (.error e, fs')) : fs'.data = fs.data := by
  have made := (Files.moreDirectories_makeDirsAt fs ((Path.parent? target).getD []).reverse).data
  unfold storeBlob at failed
  split at failed
  · rename_i directories
    rw [directories] at made
    cases failed
    exact made
  · rename_i directories
    rw [directories] at made
    split at failed
    · cases failed
    · cases failed
      exact (discard_data _ target).trans made

/-- An import adds a record and returns its number, or it fails and leaves the tables alone. -/
theorem importFile_cases (m : Metadata) (copy : Bool) (content : Holds lib w t) :
    (∃ id t', (lib.importFile m copy w).1 = .ok id ∧ Holds lib (lib.importFile m copy w).2 t' ∧
        Addition t m copy id t') ∨
      ∃ e, (lib.importFile m copy w).1 = .error e ∧ Holds lib (lib.importFile m copy w).2 t := by
  unfold Holds importFile importOne
  cases added : lib.addRecord w.files m copy with
  | error e => exact .inr ⟨e, rfl, content⟩
  | ok result =>
      rcases result with ⟨id, t'⟩
      have addition := addRecord_ok content added
      dsimp only
      by_cases copying : copy = true
      · rw [if_pos copying]
        cases storing : storeBlob w.files (m.path.getD "")
            (Blob.path lib.base (m.md5.getD "") m.format) with
        | mk outcome files =>
            cases outcome with
            | error e =>
                exact .inr ⟨.io e, rfl, (congrArg FileData.content
                  (Files.dataOf_congr (storeBlob_error storing) _)).trans content⟩
            | ok _ => exact .inl ⟨id, t', rfl, Files.dataOf_setData_self _ _ _, addition⟩
      · rw [if_neg copying]
        exact .inl ⟨id, t', rfl, Files.dataOf_setData_self _ _ _, addition⟩

theorem importFile_consistent {m : Metadata} (copy : Bool) (content : Holds lib w t)
    (consistent : t.Consistent) (valid : m.TagsValid) :
    ∃ t', Holds lib (lib.importFile m copy w).2 t' ∧ t'.Consistent := by
  rcases importFile_cases m copy content with ⟨id, t', -, content', addition⟩ | ⟨e, -, content'⟩
  · exact ⟨t', content', addition.consistent consistent valid⟩
  · exact ⟨t, content', consistent⟩

theorem importFrom_consistent {copy : Bool} {report : ImportReport} {ms : List Metadata}
    (content : Holds lib w t) (consistent : t.Consistent) (valid : ∀ m ∈ ms, m.TagsValid) :
    ∃ t', Holds lib (lib.importFrom copy report ms w).2 t' ∧ t'.Consistent := by
  induction ms generalizing report w t with
  | nil => exact ⟨t, content, consistent⟩
  | cons m ms inductionHypothesis =>
      rcases importFile_consistent copy content consistent (valid m List.mem_cons_self) with
        ⟨t', content', consistent'⟩
      unfold importFrom
      dsimp only
      split
      · exact inductionHypothesis content' consistent'
          fun other membership => valid other (List.mem_cons_of_mem _ membership)
      · exact ⟨t', content', consistent'⟩

/-! ## Every state -/

/-- The states that a library can come to: it is created and then imports samples, is closed and opened
again, and is verified, while somebody else does anything to files but to the database. A library that is
opened again has the database that it had, unless there is none any more. -/
inductive Reached : Library → World → Prop where
  | created {base : String} {lib : Library} {w : World} :
      w.files.exists? (databasePath base) = false →
      (openAt base w).1 = .ok lib → Reached lib (openAt base w).2
  | imported {lib : Library} {w : World} (m : Metadata) (copy : Bool) :
      Reached lib w → m.TagsValid → Reached lib (lib.importFile m copy w).2
  | importedAll {lib : Library} {w : World} (ms : List Metadata) (copy : Bool) :
      Reached lib w → (∀ m ∈ ms, m.TagsValid) → Reached lib (lib.importFiles ms copy w).2
  | closed {lib : Library} {w : World} : Reached lib w → Reached (lib.close w).1 (lib.close w).2
  | reopened {lib lib' : Library} {w : World} :
      Reached lib w → lib.isClosed = true → (openAt lib.base w).1 = .ok lib' →
      (w.files.exists? (databasePath lib.base) = true → lib'.database = lib.database) →
      Reached lib' (openAt lib.base w).2
  | changed {lib : Library} {w : World} (w' : World) :
      Reached lib w →
      (w'.files.dataOf lib.database).content = (w.files.dataOf lib.database).content →
      Reached lib w'
  | verified {lib : Library} {w : World} (observer : Verifier.Observer) :
      Reached lib w → Reached lib (Verifier.verify lib observer w).2

theorem close_data (lib : Library) (w : World) :
    (lib.close w).1.database = lib.database ∧ (lib.close w).2.files.data = w.files.data := by
  unfold close
  split
  · exact ⟨rfl, rfl⟩
  · refine ⟨rfl, ?_⟩
    dsimp only
    cases removed : w.files.removeTree lib.tmpDir with
    | error e => rfl
    | ok files => exact Files.removeTree_data removed

/-- A library has consistent tables in every state that it can come to. -/
theorem Reached.consistent (reached : Reached lib w) :
    ∃ t, (w.files.dataOf lib.database).content = .database t ∧ t.Consistent := by
  induction reached with
  | created absent opened =>
      rcases openAt_ok opened with ⟨-, -, ⟨there, -⟩ | ⟨-, content⟩⟩
      · exact absurd there (by simp [absent])
      · exact ⟨.fresh, content, Tables.fresh_consistent⟩
  | imported m copy before valid inductionHypothesis =>
      rcases inductionHypothesis with ⟨t, content, consistent⟩
      exact importFile_consistent copy content consistent valid
  | importedAll ms copy before valid inductionHypothesis =>
      rcases inductionHypothesis with ⟨t, content, consistent⟩
      exact importFrom_consistent content consistent valid
  | @closed lib w before inductionHypothesis =>
      rcases close_data lib w with ⟨database, data⟩
      rcases inductionHypothesis with ⟨t, content, consistent⟩
      refine ⟨t, ?_, consistent⟩
      rw [database, ← content]
      exact congrArg FileData.content (Files.dataOf_congr data lib.database)
  | reopened before isClosed opened own inductionHypothesis =>
      rcases inductionHypothesis with ⟨t, content, consistent⟩
      rcases openAt_ok opened with ⟨-, -, ⟨there, data⟩ | ⟨-, content'⟩⟩
      · refine ⟨t, ?_, consistent⟩
        rw [own there, ← content]
        exact congrArg FileData.content (Files.dataOf_congr data _)
      · exact ⟨.fresh, content', Tables.fresh_consistent⟩
  | changed w' before kept inductionHypothesis =>
      rcases inductionHypothesis with ⟨t, content, consistent⟩
      exact ⟨t, kept.trans content, consistent⟩
  | @verified lib w observer before inductionHypothesis =>
      rcases inductionHypothesis with ⟨t, content, consistent⟩
      cases isOpen : lib.tables w.files with
      | error e =>
          refine ⟨t, ?_, consistent⟩
          rw [Verifier.verify, isOpen]
          exact content
      | ok t₀ =>
          obtain rfl : t₀ = t := Holds.eq (tables_eq_ok isOpen) content
          exact (Verifier.verify_consistent isOpen consistent).2

/-- In every state that a library can come to, the counter of a tag is the number of library items with a
link to it, which is the number of items that the query for the tag finds, and the counter of the root is
the number of items in the library. So a verification blames nothing on the tables. -/
theorem Reached.counters_exact (reached : Reached lib w) (isOpen : lib.isClosed = false) :
    ∃ t, lib.tables w.files = .ok t ∧
      (∀ row ∈ t.tags, row.name ≠ Tag.root →
        row.count = (t.libraryItems.filter (t.isCarrier row.id)).length ∧
        ∃ found, (lib.search (Query.parse ("?" ++ row.name)) Query.unlimited w).1 = .ok found ∧
          row.count = found.length) ∧
      (∃ items, lib.itemCount w.files = .ok items ∧ (∃ row ∈ t.tags, row.name = Tag.root) ∧
        ∀ row ∈ t.tags, row.name = Tag.root → row.count = items) ∧
      ∀ observer, ∀ event ∈ (Verifier.verify lib observer w).1.events,
        ¬Verifier.BlamesTables event := by
  rcases reached.consistent with ⟨t, content, consistent⟩
  have tables : lib.tables w.files = .ok t := by
    rw [Library.tables, isOpen, content]
    rfl
  refine ⟨t, tables, fun row present notRoot => ?_, ⟨t.libraryItems.length, ?_, ?_, ?_⟩,
    fun observer => (Verifier.verify_consistent tables consistent).1⟩
  · have count : row.count = (t.carriers row.id).length := by
      rw [consistent.counted.counts row present, Tables.actualCount_of_ne_root notRoot]
    have valid : Tag.isValid row.name = true := by
      have named := consistent.named row present
      simpa [Query.Condition.isTagName, notRoot] using named
    refine ⟨by rw [count, (Tables.carriers_perm consistent.keyed row.id).length_eq], ?_⟩
    rcases length_search_tagged tables consistent.keyed present notRoot with ⟨found, searched, length⟩
    refine ⟨found, ?_, by rw [count, length]⟩
    rw [show "?" ++ row.name = (Query.Condition.tagged row.name).toText from rfl,
      Query.parse_tagged valid]
    exact searched
  · rw [itemCount, tables]
    rfl
  · simpa using consistent.counted.rooted
  · intro row present isRoot
    rw [consistent.counted.counts row present, Tables.actualCount_root isRoot]

/-- A library in a new directory that has imported one sample with the tag `/drums/kick`. -/
theorem counters_exact_of_kick :
    ∃ lib w, Reached lib w ∧ lib.isClosed = false ∧
      ∃ t, lib.tables w.files = .ok t ∧
      (∀ row ∈ t.tags, row.name ≠ Tag.root →
        row.count = (t.libraryItems.filter (t.isCarrier row.id)).length ∧
        ∃ found, (lib.search (Query.parse ("?" ++ row.name)) Query.unlimited w).1 = .ok found ∧
          row.count = found.length) ∧
      (∃ items, lib.itemCount w.files = .ok items ∧ (∃ row ∈ t.tags, row.name = Tag.root) ∧
        ∀ row ∈ t.tags, row.name = Tag.root → row.count = items) ∧
      ∀ observer, ∀ event ∈ (Verifier.verify lib observer w).1.events,
        ¬Verifier.BlamesTables event := by
  let w : World := { files := Files.fresh ["home"], process := 1 }
  let kick : Metadata := { Metadata.empty with
    md5 := some "0123456789abcdef0123456789abcdef"
    path := some "kick.wav" }.addTags ["/drums/kick"]
  have valid : kick.TagsValid := Metadata.TagsValid.addTags Metadata.tagsValid_empty _
  have absent : w.files.exists? (databasePath "lib") = false := rfl
  have opens : (openAt "lib" w).1.toOption.isSome = true := by decide +kernel
  cases opened : (openAt "lib" w).1 with
  | error e => simp [opened, Except.toOption] at opens
  | ok lib =>
      have reached : Reached lib (lib.importFile kick false (openAt "lib" w).2).2 :=
        .imported kick false (.created absent opened) valid
      have isOpen := (openAt_ok opened).2.1
      exact ⟨lib, _, reached, isOpen, reached.counters_exact isOpen⟩

end Library

end SampleLibrary
