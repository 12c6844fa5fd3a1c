import SampleLibrary.Proofs.Library.BlobPlaces

/-!
# Imports that fail

An import that fails leaves the tables alone, and of files it leaves directories at most. It may take away a
file that was in the place of the new one, but this never is the file of another item
(`History.failed_import_leaves_no_trace`). This is so at whichever point the import fails, be it in the middle of
copying (`BreaksOff`).
-/

namespace SampleLibrary

namespace Library

open Files (MoreDirectories LostFile)
open Verifier (isHexName itemPath)

variable {lib : Library} {w w' : World} {t : Tables} {m : Metadata} {copy : Bool} {place : Location}
  {fs made : Files}

/-! ## How an import fails -/

/-- The path of the copy of a file. -/
def target (lib : Library) (m : Metadata) : String := Blob.path lib.base (m.md5.getD "") m.format

/-- The place of the copy, if the library is in the directory at `place`. -/
def spot (place : Location) (m : Metadata) : Location := Blob.location place (m.md5.getD "") m.format

theorem discard_cases (fs : Files) (path : String) :
    discard fs path = fs ∨
      ∃ location node, fs.stat path false = .ok (location, node) ∧ node ≠ .directory ∧
        discard fs path = fs.eraseNode location := by
  unfold discard Files.remove
  cases found : fs.stat path false with
  | error e => exact .inl rfl
  | ok result =>
      rcases result with ⟨location, node⟩
      cases node with
      | directory => exact .inl rfl
      | file id => exact .inr ⟨location, _, rfl, by simp, rfl⟩
      | link target => exact .inr ⟨location, _, rfl, by simp, rfl⟩

theorem storeBlob_error_cases {fs' : Files} {source target : String} {e : FileError}
    (failed : storeBlob fs source target = (.error e, fs')) :
    ∃ made, MoreDirectories fs made ∧ (fs' = made ∨ fs' = discard made target) := by
  have made := Files.moreDirectories_makeDirsAt fs ((Path.parent? target).getD []).reverse
  unfold storeBlob at failed
  split at failed
  · rename_i directories
    rw [directories] at made
    cases failed
    exact ⟨fs', made, .inl rfl⟩
  · rename_i directories
    rw [directories] at made
    split at failed
    · cases failed
    · cases failed
      exact ⟨_, made, .inr rfl⟩

/-- An import fails before it changes anything, or it fails when the tables have been seen to and the file is to
be copied. -/
theorem importFile_error_cases {e : LibraryError} (failed : (lib.importFile m copy w).1 = .error e) :
    (lib.importFile m copy w).2.files = w.files ∨
      ∃ id t made, lib.addRecord w.files m copy = .ok (id, t) ∧ MoreDirectories w.files made ∧
        ((lib.importFile m copy w).2.files = made ∨
          (lib.importFile m copy w).2.files = discard made (lib.target m)) := by
  unfold importFile importOne at failed ⊢
  cases added : lib.addRecord w.files m copy with
  | error e => exact .inl rfl
  | ok result =>
      rcases result with ⟨id, t⟩
      rw [added] at failed
      dsimp only at failed ⊢
      by_cases copying : copy = true
      · rw [if_pos copying] at failed ⊢
        cases storing : storeBlob w.files (m.path.getD "")
            (Blob.path lib.base (m.md5.getD "") m.format) with
        | mk outcome files =>
            rw [storing] at failed
            cases outcome with
            | error e =>
                rcases storeBlob_error_cases storing with ⟨made, more, cases⟩
                exact .inr ⟨id, t, made, rfl, more, cases⟩
            | ok _ => cases failed
      · rw [if_neg copying] at failed
        cases failed

/-- The file in a place, if there is one, goes by no other name and is not the database. -/
structure Stray (lib : Library) (fs : Files) (spot : Location) : Prop where
  single : ∀ id location, fs.nodes[spot]? = some (.file id) → fs.nodes[location]? = some (.file id) →
    location = spot
  other : fs.nodes[spot]? ≠ some (.file lib.database)

/-- The import breaks off while directories are made or while the file is copied, and what has been written of the
copy is taken away again. -/
inductive BreaksOff (lib : Library) (m : Metadata) (w : World) : World → Prop where
  | making {id : Int} {t : Tables} {made : Files} {metrics : Metrics} :
      lib.addRecord w.files m true = .ok (id, t) → MoreDirectories w.files made →
      BreaksOff lib m w { w with files := made, metrics }
  | copying {id : Int} {t : Tables} {made begun : Files} {written : Content} {metrics : Metrics} :
      lib.addRecord w.files m true = .ok (id, t) → MoreDirectories w.files made →
      made.put (lib.target m) written none = .ok begun →
      BreaksOff lib m w { w with files := discard begun (lib.target m), metrics }

theorem writable_of_addRecord {id : Int} (added : lib.addRecord fs m copy = .ok (id, t)) :
    fs.nodes[lib.place]? = some (.file lib.database) := by
  rcases exists_of_bind_ok added with ⟨⟨md5, path⟩, -, added⟩
  rcases exists_of_bind_ok added with ⟨t₀, -, added⟩
  dsimp only at added
  split at added
  · cases added
  · split at added
    · rename_i possible
      simp only [Bool.and_eq_true] at possible
      have writable : fs.at? lib.place = some (.file lib.database) := by
        simpa [isWritable] using possible.1.1
      unfold Files.at? at writable
      split at writable
      · cases writable
      · exact writable
    · cases added

/-! ## What is taken away -/

section Places

variable {md5 : String} {format : Option String} {base : String}

/-- The path for a checksum is that of a file, which is taken away, or nothing is taken away. -/
theorem discard_path_cases (digits : isHexName 32 md5 = true) (plainFormat : Blob.IsPlainFormat format)
    (leads : fs.directory? base = some place) (plain : fs.Plain place) :
    discard fs (Blob.path base md5 format) = fs ∨
      ∃ id, fs.nodes[Blob.location place md5 format]? = some (.file id) ∧
        discard fs (Blob.path base md5 format) = fs.eraseNode (Blob.location place md5 format) := by
  rcases discard_cases fs (Blob.path base md5 format) with same | ⟨location, node, found, other, erased⟩
  · exact .inl same
  · rcases Blob.resolve_path digits plainFormat leads plain (Files.stat_eq_ok_iff.mp found) with
      ⟨-, ⟨node', same, there⟩ | ⟨same, -⟩⟩
    · cases same
      cases node with
      | directory => exact absurd rfl other
      | file id => exact .inr ⟨id, there, erased⟩
      | link target => exact absurd there (plain _ target (Blob.below_location place md5 format))
    · cases same

/-- Without the file for a checksum, only its own name has gone. -/
theorem lostFile_discard (digits : isHexName 32 md5 = true) (plainFormat : Blob.IsPlainFormat format)
    (leads : fs.directory? base = some place) (plain : fs.Plain place) :
    LostFile (Blob.location place md5 format) fs (discard fs (Blob.path base md5 format)) := by
  rcases discard_path_cases digits plainFormat leads plain with same | ⟨id, there, erased⟩
  · rw [same]
    exact .refl _ fs
  · rw [erased]
    exact .eraseNode there

/-- What has been written to the path for a checksum can be taken away again. -/
theorem discard_written {id : Nat} {begun : Files} {written : Content}
    (digits : isHexName 32 md5 = true) (plainFormat : Blob.IsPlainFormat format)
    (leads : fs.directory? base = some place) (laid : Blob.Laid fs base place md5 format)
    (result : Files.Written (Blob.location place md5 format) id written fs begun) :
    discard begun (Blob.path base md5 format) =
      begun.eraseNode (Blob.location place md5 format) := by
  have found : begun.stat (Blob.path base md5 format) false =
      .ok (Blob.location place md5 format, .file id) :=
    (laid.within result.within).stat digits plainFormat (result.within.directory? leads) result.there
      (by simp)
  simp [discard, Files.remove, found, Except.toOption]

end Places

/-! ## What an import that fails leaves behind -/

/-- Nothing has changed but that there may be more directories, and that a file may have gone that was in the place
of the new one. -/
structure Traceless (lib : Library) (place : Location) (m : Metadata) (w w' : World) : Prop where
  tables : ∃ t, Holds lib w t ∧ Holds lib w' t
  fewer : ∀ (location : Location) (node : Node), node ≠ .directory → w'.files.nodes[location]? = some node →
    w.files.nodes[location]? = some node
  kept : ∀ (location : Location) (node : Node), location ≠ spot place m → w.files.nodes[location]? = some node →
    w'.files.nodes[location]? = some node
  contents : ∀ (location : Location) id, w'.files.nodes[location]? = some (.file id) →
    w'.files.dataOf id = w.files.dataOf id
  blobs : ∀ t, Holds lib w t → ∀ i ∈ t.libraryItems, ∀ followLast location id,
    w.files.stat (itemPath lib i) followLast = .ok (location, .file id) →
      w'.files.stat (itemPath lib i) followLast = .ok (location, .file id)

theorem Traceless.of_files_eq (same : w'.files = w.files) (content : Holds lib w t) :
    Traceless lib place m w w' where
  tables := ⟨t, content, by rw [Holds, same]; exact content⟩
  fewer := fun location node _ found => same ▸ found
  kept := fun location node _ found => same ▸ found
  contents := fun location id _ => by rw [same]
  blobs := fun t _ i _ followLast location id found => same ▸ found

theorem Traceless.of_lostFile {md5 : String} (content : Holds lib w t)
    (items : ∀ i ∈ t.items, NamedItem i) (checksum : m.md5 = some md5)
    (digits : isHexName 32 md5 = true) (unknown : t.libraryItem? md5 = none)
    (leads : w.files.directory? lib.base = some place) (plain : w.files.Plain place)
    (more : MoreDirectories w.files made) (lost : LostFile (spot place m) made w'.files)
    (content' : Holds lib w' t)
    (contents : ∀ (location : Location) id, w'.files.nodes[location]? = some (.file id) →
      w'.files.dataOf id = w.files.dataOf id) : Traceless lib place m w w' where
  tables := ⟨t, content, content'⟩
  fewer := by
    intro location node other found
    rcases more.new location node (lost.within.nodes location node found) with old | ⟨-, directory⟩
    · exact old
    · exact absurd directory other
  kept := by
    intro location node elsewhere found
    exact lost.nodes (more.within.nodes location node found) (.inl elsewhere)
  contents := contents
  blobs := by
    intro t' content₂ i present followLast location id found
    obtain rfl := content₂.eq content
    rcases items i (Tables.mem_libraryItems.mp present).1 with
      ⟨-, ⟨md5', checksum', digits'⟩, plainFormat, -⟩
    rw [itemPath_eq checksum'] at found ⊢
    apply lost.stat (more.within.stat found)
    rcases Blob.resolve_path digits' plainFormat leads plain (Files.stat_eq_ok_iff.mp found) with
      ⟨-, ⟨node, same, -⟩ | ⟨same, -⟩⟩
    · cases same
      rw [spot, checksum]
      intro shared
      obtain rfl : md5' = md5 := Blob.location_injective digits' digits shared
      have different := List.find?_eq_none.mp unknown i present
      simp [checksum'] at different
    · cases same

section Failing

variable {md5 : String}

theorem exists_unknown_of_addRecord {id : Int} {t' : Tables} (content : Holds lib w t)
    (named : Named m copy) (added : lib.addRecord w.files m copy = .ok (id, t')) :
    ∃ md5, m.md5 = some md5 ∧ isHexName 32 md5 = true ∧ t.libraryItem? md5 = none := by
  rcases (addRecord_ok content added).source with ⟨md5, path, required, unknown, -⟩
  have checksum := requireSource_ok required
  exact ⟨md5, checksum, named.digits md5 checksum (nonempty_of_requireSource required), unknown⟩

theorem target_eq (checksum : m.md5 = some md5) : lib.target m = Blob.path lib.base md5 m.format := by
  rw [target, checksum]
  rfl

theorem spot_eq (checksum : m.md5 = some md5) : spot place m = Blob.location place md5 m.format := by
  rw [spot, checksum]
  rfl

/-- An error of an import leaves no trace. -/
theorem traceless_of_error {e : LibraryError} (content : Holds lib w t)
    (items : ∀ i ∈ t.items, NamedItem i) (named : Named m copy)
    (leads : w.files.directory? lib.base = some place) (plain : w.files.Plain place)
    (failed : (lib.importFile m copy w).1 = .error e) :
    Traceless lib place m w (lib.importFile m copy w).2 := by
  rcases importFile_error_cases failed with same | ⟨id, t', made, added, more, cases⟩
  · exact .of_files_eq same content
  · rcases exists_unknown_of_addRecord content named added with ⟨md5, checksum, digits, unknown⟩
    have lost : LostFile (spot place m) made (lib.importFile m copy w).2.files ∧
        (lib.importFile m copy w).2.files.data = w.files.data := by
      rcases cases with same | same
      · rw [same]
        exact ⟨.refl _ made, more.data⟩
      · rw [same, target_eq checksum, spot_eq checksum]
        exact ⟨lostFile_discard digits named.plainFormat (more.within.directory? leads)
          (more.plain plain), (discard_data made _).trans more.data⟩
    have contents (id : Nat) : (lib.importFile m copy w).2.files.dataOf id = w.files.dataOf id :=
      Files.dataOf_congr lost.2 id
    refine .of_lostFile content items checksum digits unknown leads plain more lost.1 ?_
      fun location id _ => contents id
    exact (congrArg FileData.content (contents lib.database)).trans content

/-- Neither does an import that breaks off. -/
theorem traceless_of_breaksOff (content : Holds lib w t) (items : ∀ i ∈ t.items, NamedItem i)
    (named : Named m true) (leads : w.files.directory? lib.base = some place)
    (plain : w.files.Plain place) (numbered : w.files.Numbered)
    (stray : Stray lib w.files (spot place m)) (broken : BreaksOff lib m w w') :
    Traceless lib place m w w' := by
  have unchanged {made : Files} (more : MoreDirectories w.files made) (id : Nat) :
      made.dataOf id = w.files.dataOf id := Files.dataOf_congr more.data id
  cases broken with
  | making added more =>
      rcases exists_unknown_of_addRecord content named added with ⟨md5, checksum, digits, unknown⟩
      refine .of_lostFile content items checksum digits unknown leads plain more (.refl _ _) ?_
        fun location id _ => unchanged more id
      exact (congrArg FileData.content (unchanged more lib.database)).trans content
  | copying added more done =>
      rename_i id t' made begun written metrics
      rcases exists_unknown_of_addRecord content named added with ⟨md5, checksum, digits, unknown⟩
      have leads' := more.within.directory? leads
      rw [target_eq checksum] at done
      rcases Blob.written_path digits named.plainFormat leads' (more.plain plain) done with
        ⟨laid, number, result⟩
      rw [← spot_eq checksum] at result
      have kept {location : Location} {id : Nat} (found : made.nodes[location]? = some (.file id))
          (elsewhere : location ≠ spot place m) : begun.dataOf id = w.files.dataOf id :=
        (result.dataOf_eq (more.numbered numbered)
          (fun other file same => stray.single number other (more.file.mp file) (more.file.mp same))
          found elsewhere).trans (unchanged more id)
      have writable := writable_of_addRecord added
      have apart : lib.place ≠ spot place m := by
        intro same
        exact stray.other (same ▸ writable)
      have erased : discard begun (lib.target m) = begun.eraseNode (spot place m) := by
        rw [spot_eq checksum] at result ⊢
        rw [target_eq checksum]
        exact discard_written digits named.plainFormat leads' laid result
      rw [erased]
      refine .of_lostFile content items checksum digits unknown leads plain more result.lostFile ?_ ?_
      · exact (congrArg FileData.content (kept (more.file.mpr writable) apart)).trans content
      · intro location id found
        by_cases same : location = spot place m
        · rw [same, (Files.cleared_eraseNode begun (spot place m)).gone _ rfl] at found
          cases found
        · exact kept (result.lostFile.within.nodes _ _ found) same

/-- A directory with one file. -/
def loopWorld : World where
  process := 1
  files := ((Files.fresh ["home"]).put "loop.wav" (.bytes ⟨#[108, 111, 111, 112]⟩) none).toOption.getD
    (Files.fresh ["home"])

theorem loopWorld_absent : loopWorld.files.exists? (databasePath "lib") = false := rfl

def loop : Metadata :=
  { Metadata.empty with
    md5 := some "0123456789abcdef0123456789abcdef"
    path := some "loop.wav"
    format := some "WAV" }

/-- A record with a path that leads nowhere. -/
def ghost : Metadata :=
  { Metadata.empty with
    md5 := some "00000000000000000000000000000000"
    path := some "ghost.wav" }

def ghostSpot : Location := spot ["home", "lib"] ghost

/-- The loop has been imported, and somebody has left a file in the place for the ghost. -/
def ghostWorld (lib : Library) : World :=
  let w := (lib.importFile loop true (openAt "lib" loopWorld).2).2
  let fs := { w.files with nextId := w.files.nextId + 1 }
  { w with files :=
      ((((fs.insertNode ["home", "lib", "0"] .directory).insertNode ["home", "lib", "0", "00"]
        .directory).insertNode ghostSpot (.file w.files.nextId)).setData w.files.nextId
          (.bytes ⟨#[103]⟩) none) }

/-- What there is in the files, as far as it can be seen by looking at one name after the other. -/
def ghostCheck (lib : Library) : Bool :=
  let w := ghostWorld lib
  let left := w.files.nextId - 1
  left != lib.database && w.files.directory? lib.base == some ["home", "lib"] &&
  w.files.nodes[ghostSpot]? == some (.file left) &&
  (w.files.nodes.toList.all fun entry => (entry.2 != .file left || entry.1 == ghostSpot) &&
    (entry.2 == .directory || (List.range w.files.nextId).any fun id => entry.2 == .file id)) &&
  (match (lib.importFile ghost true w).1 with
    | .error (.io .notFound) => true
    | _ => false) &&
  (lib.addRecord w.files ghost true).toOption.isSome &&
  (w.files.put (lib.target ghost) (.bytes .empty) none).toOption.isSome &&
  (lib.importFile loop true (openAt "lib" loopWorld).2).1.toOption.isSome

theorem ghost_checked :
    (match (openAt "lib" loopWorld).1 with
      | .ok lib => ghostCheck lib
      | .error _ => false) = true := by
  decide +kernel

theorem loop_named : Named loop true := by
  refine ⟨fun md5 checksum _ => ?_, fun format known => ?_⟩
  · cases checksum
    decide
  · cases known
    decide

theorem ghost_named : Named ghost true := by
  refine ⟨fun md5 checksum _ => ?_, fun format known => ?_⟩
  · cases checksum
    decide
  · cases known

theorem ghostWorld_history (opened : (openAt "lib" loopWorld).1 = .ok lib)
    (other : (ghostWorld lib).files.nextId - 1 ≠ lib.database) : History Named lib (ghostWorld lib) := by
  have imported : History Named lib (lib.importFile loop true (openAt "lib" loopWorld).2).2 :=
    .next (.created loopWorld_absent opened) (.imported loop true loop_named)
  exact .next imported (.changed _ (congrArg FileData.content (Files.dataOf_setData_of_ne other.symm)))

end Failing

end Library

end SampleLibrary
