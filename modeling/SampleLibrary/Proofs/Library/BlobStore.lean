import SampleLibrary.Proofs.Library.FailedImports
import SampleLibrary.Proofs.Library.ReadingBack
import SampleLibrary.Proofs.Verifier.Corruption

/-!
# The files of a library

In a library that is new and only imports samples (`Stocked`), the files are those of the items that have been
copied, and the database. Each file has the content that was copied, and it is found by what the database says of its
item (`Stocked.blobs_exact`).
-/

namespace SampleLibrary

namespace Library

open Files (MoreDirectories LostFile Written)
open Verifier (isHexName itemPath)

variable {lib : Library} {w w' : World} {t t' : Tables} {m : Metadata} {copy : Bool} {place : Location}
  {fs fs' : Files}

/-! ## A new library -/

theorem create_eq_ok {base : String} (made : create base fs = (.ok (), fs')) :
    ∃ above, MoreDirectories fs above ∧
      above.put (databasePath base) (.database .fresh) none = .ok fs' := by
  have more := Files.moreDirectories_makeDirs fs base
  unfold create at made
  split at made
  · cases made
  · rename_i directories
    rw [directories] at more
    split at made
    · rename_i written
      cases made
      exact ⟨_, more, written⟩
    · cases made

/-- Opening a new library makes directories and a database. -/
theorem openAt_new {base : String} (absent : w.files.exists? (databasePath base) = false)
    (opened : (openAt base w).1 = .ok lib) :
    ∃ above begun, MoreDirectories w.files above ∧
      above.put (databasePath base) (.database .fresh) none = .ok begun ∧
      begun.fileAt (databasePath base) = .ok (lib.place, lib.database) ∧
      MoreDirectories begun (openAt base w).2.files := by
  obtain ⟨spot, number, files, files', found, made, rfl, left⟩ := openAt_eq_ok opened
  have more := Files.moreDirectories_makeDirs files
    (Path.below base (tmpName w.process w.opened))
  rw [made] at more
  rcases findDatabase_cases found with ⟨there, -⟩ | ⟨-, created, leads⟩
  · rw [absent] at there
    cases there
  · rcases create_eq_ok created with ⟨above, before, written⟩
    exact ⟨above, files, before, written, leads, left ▸ more⟩

theorem isName_databaseName : IsName databaseName := by
  refine ⟨?_, ?_, ?_, ?_⟩ <;> decide

/-- There are only directories in the directory, if it is there at all. -/
def Bare (fs : Files) (place : Location) : Prop :=
  ∀ (location : Location) (node : Node), place <+: location → fs.nodes[location]? = some node →
    node = .directory

theorem Bare.more (bare : Bare fs place) (more : MoreDirectories fs fs') : Bare fs' place := by
  intro location node inside found
  rcases more.new location node found with old | ⟨-, made⟩
  · exact bare location node inside old
  · exact made

/-! ## What there is in a library -/

/-- The copy of a file: its item, and what was in the file when it was imported. -/
structure Copy where
  item : Int
  content : Option Content

/-- The file of the item is in its place, with the content that was copied. -/
structure Copy.Kept (lib : Library) (fs : Files) (place : Location) (i : Item) (c : Copy) : Prop where
  item : i.id = c.item
  laid : Blob.Laid fs lib.base place ((i.text? .md5).getD "") (i.text? .format)
  file : ∃ number, fs.nodes[itemSpot place i]? = some (.file number) ∧ number ≠ lib.database ∧
    c.content = some (fs.dataOf number).content

/-- The files in the directory of the library are the database and the copies. -/
structure Stock (lib : Library) (w : World) (t : Tables) (place : Location) (copies : List Copy) :
    Prop where
  content : Holds lib w t
  items : ∀ i ∈ t.items, NamedItem i
  leads : w.files.directory? lib.base = some place
  numbered : w.files.Numbered
  plain : w.files.Plain place
  database : w.files.nodes[place ++ [databaseName]]? = some (.file lib.database)
  copied : ∀ c ∈ copies, ∃ i ∈ t.items, c.Kept lib w.files place i
  only : ∀ location number, place <+: location → w.files.nodes[location]? = some (.file number) →
    location = place ++ [databaseName] ∨
      ∃ c ∈ copies, ∃ i ∈ t.items, i.id = c.item ∧ location = itemSpot place i

/-- A new library has no files but the database. -/
theorem stock_openAt {base : String} (numbered : w.files.Numbered)
    (absent : w.files.exists? (databasePath base) = false) (opened : (openAt base w).1 = .ok lib)
    (bare : ∀ place, (openAt base w).2.files.directory? base = some place → Bare w.files place) :
    ∃ place, Stock lib (openAt base w).2 .fresh place [] := by
  rcases openAt_new absent opened with ⟨above, begun, before, written, found, after⟩
  rcases openAt_ok opened with ⟨samebase, -, ⟨there, -⟩ | ⟨-, content⟩⟩
  · exact absurd there (by simp [absent])
  rcases Files.written_put written with ⟨location, number, result, resolved⟩
  have leads : ∃ place, above.directory? base = some place := by
    rcases resolved with resolved | resolved
    · exact Files.directory?_of_resolve_below isName_databaseName resolved
    · exact Files.directory?_of_resolve_below isName_databaseName resolved
  rcases leads with ⟨place, leads⟩
  have leads' := after.within.directory? (result.within.directory? leads)
  have bare' : Bare above place := (bare place leads').more before
  have noLink : ∀ target, above.nodes[place ++ [databaseName]]? ≠ some (.link target) := by
    intro target there
    cases bare' _ _ (List.prefix_append _ _) there
  have spot : location = place ++ [databaseName] := by
    rcases resolved with resolved | resolved
    · rcases Files.resolve_below_cases isName_databaseName leads noLink resolved with
        ⟨-, ⟨node, same, there⟩ | ⟨same, -⟩⟩
      · cases same
        cases bare' _ _ (List.prefix_append _ _) there
      · cases same
    · rcases Files.resolve_below_cases isName_databaseName leads noLink resolved with
        ⟨-, ⟨node, same, there⟩ | ⟨same, -⟩⟩
      · cases same
      · cases same
        rfl
  subst spot
  have database : number = lib.database := by
    have isFile : ∀ target, begun.nodes[place ++ [databaseName]]? ≠ some (.link target) := by
      intro target there
      rw [result.there] at there
      cases there
    rcases Files.resolve_below_cases isName_databaseName (result.within.directory? leads) isFile
      (Files.stat_eq_ok_iff.mp (Files.fileAt_eq_ok_iff.mp found)) with ⟨-, ⟨node, same, there⟩ | ⟨same, -⟩⟩
    · rw [result.there, ← (Place.found.inj same).2] at there
      exact Node.file.inj (Option.some.inj there)
    · cases same
  subst database
  refine ⟨place, content, fun i membership => absurd membership List.not_mem_nil, samebase ▸ leads', ?_, ?_,
    after.file.mpr result.there, fun c membership => absurd membership List.not_mem_nil, ?_⟩
  · exact after.numbered (result.numbered (before.numbered numbered))
  · intro location target inside link
    by_cases same : location = place ++ [databaseName]
    · rw [same, after.file.mpr result.there] at link
      cases link
    · have old := (result.kept location same).symm.trans (after.link link)
      cases bare' location _ inside old
  · intro location number inside file
    by_cases same : location = place ++ [databaseName]
    · exact .inl same
    · have old := (result.kept location same).symm.trans (after.file.mp file)
      cases bare' location _ inside old

/-! ## One import more -/

/-- Files and directories have been added, and what was there is as it was, apart from the database. -/
structure Added (lib : Library) (spots : Location → Prop) (fs fs' : Files) : Prop where
  within : fs.Within fs'
  numbered : fs'.Numbered
  new : ∀ (location : Location) (node : Node), fs'.nodes[location]? = some node →
    fs.nodes[location]? = some node ∨ node = .directory ∨ spots location ∧ ∃ number, node = .file number
  data : ∀ (location : Location) number, fs.nodes[location]? = some (.file number) →
    number ≠ lib.database → fs'.dataOf number = fs.dataOf number

theorem Copy.Kept.added {spots : Location → Prop} {i : Item} {c : Copy}
    (kept : c.Kept lib fs place i) (added : Added lib spots fs fs') : c.Kept lib fs' place i := by
  rcases kept.file with ⟨number, file, other, content⟩
  refine ⟨kept.item, kept.laid.within added.within, number, added.within.nodes _ _ file, other, ?_⟩
  rw [added.data _ number file other, content]

/-- What an import adds to a library. -/
theorem Stock.added {copies more : List Copy} {spots : Location → Prop}
    (stock : Stock lib w t place copies) (added : Added lib spots w.files w'.files)
    (content : Holds lib w' t') (items : ∀ i ∈ t'.items, NamedItem i) (grown : ∀ i ∈ t.items, i ∈ t'.items)
    (copied : ∀ c ∈ more, ∃ i ∈ t'.items, c.Kept lib w'.files place i)
    (expected : ∀ location, spots location →
      ∃ c ∈ more, ∃ i ∈ t'.items, i.id = c.item ∧ location = itemSpot place i) :
    Stock lib w' t' place (copies ++ more) where
  content := content
  items := items
  leads := added.within.directory? stock.leads
  numbered := added.numbered
  plain := by
    intro location target inside link
    rcases added.new location _ link with old | directory | ⟨-, number, file⟩
    · exact stock.plain location target inside old
    · cases directory
    · cases file
  database := added.within.nodes _ _ stock.database
  copied := by
    intro c membership
    rcases List.mem_append.mp membership with old | new
    · rcases stock.copied c old with ⟨i, present, kept⟩
      exact ⟨i, grown i present, kept.added added⟩
    · exact copied c new
  only := by
    intro location number inside file
    rcases added.new location _ file with old | directory | ⟨spot, -⟩
    · rcases stock.only location number inside old with database | ⟨c, membership, i, present, rest⟩
      · exact .inl database
      · exact .inr ⟨c, List.mem_append_left _ membership, i, grown i present, rest⟩
    · cases directory
    · rcases expected location spot with ⟨c, membership, rest⟩
      exact .inr ⟨c, List.mem_append_right _ membership, rest⟩

/-- There is no file in the place for an item that is not in the library. -/
theorem Stock.free {copies : List Copy} {md5 : String} {format : Option String}
    (stock : Stock lib w t place copies) (digits : isHexName 32 md5 = true)
    (unknown : t.libraryItem? md5 = none) (number : Nat) :
    w.files.nodes[Blob.location place md5 format]? ≠ some (.file number) := by
  intro file
  rcases stock.only _ number (Blob.below_location place md5 format) file with
    same | ⟨c, -, i, present, -, same⟩
  · have lengths := congrArg List.length same
    simp [Blob.location] at lengths
  · rcases stock.items i present with ⟨inLibrary, ⟨md5', checksum, digits'⟩, -, -⟩
    rw [itemSpot_eq place checksum] at same
    obtain rfl := Blob.location_injective digits digits' same
    have different := List.find?_eq_none.mp unknown i (Tables.mem_libraryItems.mpr ⟨present, inLibrary⟩)
    simp [checksum] at different

namespace Added

theorem of_more (more : MoreDirectories fs fs') (numbered : fs.Numbered) :
    Added lib (fun _ => False) fs fs' where
  within := more.within
  numbered := more.numbered numbered
  new := by
    intro location node found
    rcases more.new location node found with old | ⟨-, made⟩
    · exact .inl old
    · exact .inr (.inl made)
  data := fun _ number _ _ => Files.dataOf_congr more.data number

theorem commit {spots : Location → Prop} (added : Added lib spots fs fs') (t : Tables) :
    Added lib spots fs (lib.commit fs' t) where
  within := ⟨added.within.nodes, added.within.working⟩
  numbered := added.numbered
  new := added.new
  data := fun location number file other =>
    (Files.dataOf_setData_of_ne other).trans (added.data location number file other)

end Added

theorem copy_eq_ok {source target : String} (done : fs.copy source target = .ok fs') :
    ∃ location number emptied, fs.stat source true = .ok (location, .file number) ∧
      fs.put target (.bytes .empty) none = .ok emptied ∧
      emptied.put target (emptied.dataOf number).content none = .ok fs' := by
  unfold Files.copy at done
  split at done
  · cases done
  · rename_i location number found
    split at done
    · cases done
    · rename_i emptied written
      exact ⟨location, number, emptied, found, written, done⟩
  · cases done

theorem storeBlob_ok {source target : String} (done : storeBlob fs source target = (.ok (), fs')) :
    ∃ made, MoreDirectories fs made ∧ made.copy source target = .ok fs' := by
  have more := Files.moreDirectories_makeDirsAt fs ((Path.parent? target).getD []).reverse
  unfold storeBlob at done
  split at done
  · cases done
  · rename_i directories
    rw [directories] at more
    split at done
    · rename_i copied
      cases done
      exact ⟨_, more, copied⟩
    · cases done

/-- How an import succeeds. -/
theorem importFile_ok_cases {id : Int} (done : (lib.importFile m copy w).1 = .ok id) :
    ∃ t', lib.addRecord w.files m copy = .ok (id, t') ∧
      (copy = false ∧ (lib.importFile m copy w).2.files = lib.commit w.files t' ∨
        copy = true ∧ ∃ made copied, MoreDirectories w.files made ∧
          made.copy (m.path.getD "") (lib.target m) = .ok copied ∧
          (lib.importFile m copy w).2.files = lib.commit copied t') := by
  unfold importFile importOne at done ⊢
  cases added : lib.addRecord w.files m copy with
  | error e => simp [added] at done
  | ok result =>
      rcases result with ⟨number, t'⟩
      rw [added] at done
      dsimp only at done ⊢
      cases copy with
      | false =>
          cases done
          exact ⟨t', rfl, .inl ⟨rfl, rfl⟩⟩
      | true =>
          rw [if_pos rfl] at done ⊢
          cases storing : storeBlob w.files (m.path.getD "")
              (Blob.path lib.base (m.md5.getD "") m.format) with
          | mk outcome files =>
              rw [storing] at done
              cases outcome with
              | error e => cases done
              | ok _ =>
                  cases done
                  rcases storeBlob_ok storing with ⟨made, more, copied⟩
                  exact ⟨t', rfl, .inr ⟨rfl, made, files, more, copied, rfl⟩⟩

/-- Where the copy of a file goes there is a new file afterwards, and it has the content of the file. -/
theorem Stock.copied_blob {copies : List Copy} {md5 : String} {format : Option String}
    {content : Content} {made emptied copied : Files} (stock : Stock lib w t place copies)
    (digits : isHexName 32 md5 = true) (plainFormat : Blob.IsPlainFormat format)
    (unknown : t.libraryItem? md5 = none) (more : MoreDirectories w.files made)
    (first : made.put (Blob.path lib.base md5 format) (.bytes .empty) none = .ok emptied)
    (second : emptied.put (Blob.path lib.base md5 format) content none = .ok copied) :
    Blob.Laid copied lib.base place md5 format ∧
      copied.nodes[Blob.location place md5 format]? = some (.file w.files.nextId) ∧
      (copied.dataOf w.files.nextId).content = content ∧
      Added lib (· = Blob.location place md5 format) w.files copied ∧ made.Within copied ∧
      ∀ other, other ≠ w.files.nextId → emptied.dataOf other = w.files.dataOf other := by
  have leads := more.within.directory? stock.leads
  have plain := more.plain stock.plain
  rcases Blob.written_path digits plainFormat leads plain first with ⟨laid, number, begun⟩
  obtain rfl : number = w.files.nextId := by
    rcases begun.before with file | ⟨-, new⟩
    · exact absurd (more.file.mp file) (stock.free digits unknown number)
    · exact new.trans more.nextId
  have plain' : emptied.Plain place := by
    intro location target inside link
    by_cases same : location = Blob.location place md5 format
    · rw [same, begun.there] at link
      cases link
    · exact plain location target inside ((begun.kept location same).symm.trans link)
  rcases Blob.written_path digits plainFormat (begun.within.directory? leads) plain' second with
    ⟨-, number, ended⟩
  obtain rfl : w.files.nextId = number := by
    rcases ended.before with file | ⟨none', -⟩
    · rw [begun.there] at file
      exact Node.file.inj (Option.some.inj file)
    · rw [begun.there] at none'
      cases none'
  have within := begun.within.trans ended.within
  have others (other : Nat) (differs : other ≠ w.files.nextId) :
      emptied.dataOf other = w.files.dataOf other :=
    (begun.others other differs).trans (Files.dataOf_congr more.data other)
  refine ⟨laid.within within, ended.there, ended.content,
    ⟨more.within.trans within, ended.numbered (begun.numbered (more.numbered stock.numbered)), ?_, ?_⟩,
    within, others⟩
  · intro location node found
    by_cases same : location = Blob.location place md5 format
    · rw [same, ended.there] at found
      exact .inr (.inr ⟨same, w.files.nextId, (Option.some.inj found).symm⟩)
    · have old := (begun.kept location same).symm.trans ((ended.kept location same).symm.trans found)
      rcases more.new location node old with old | ⟨-, made⟩
      · exact .inl old
      · exact .inr (.inl made)
  · intro location number file _
    have low := stock.numbered location number file
    exact (ended.others number (by omega)).trans (others number (by omega))

/-- The copy that an import makes, if it makes one. The path is followed as soon as the directories are there, and
the content is that before the import. -/
def copyOf (lib : Library) (m : Metadata) (copy : Bool) (w : World) : List Copy :=
  match copy, (lib.importFile m copy w).1 with
  | true, .ok id =>
    [⟨id, ((lib.importFile m copy w).2.files.fileAt (m.path.getD "")).toOption.map
      fun found => (w.files.dataOf found.2).content⟩]
  | _, _ => []

theorem copyOf_error {e : LibraryError} (failed : (lib.importFile m copy w).1 = .error e) :
    lib.copyOf m copy w = [] := by
  unfold copyOf
  rw [failed]
  cases copy <;> rfl

theorem discard_of_free {md5 : String} {format : Option String} {base : String}
    (digits : isHexName 32 md5 = true) (plainFormat : Blob.IsPlainFormat format)
    (leads : fs.directory? base = some place) (plain : fs.Plain place)
    (free : ∀ number, fs.nodes[Blob.location place md5 format]? ≠ some (.file number)) :
    discard fs (Blob.path base md5 format) = fs := by
  rcases discard_path_cases digits plainFormat leads plain with same | ⟨id, there, -⟩
  · exact same
  · exact absurd there (free id)

/-- An import that fails adds nothing but directories to a library of which all files are known. -/
theorem Stock.added_of_error {copies : List Copy} {e : LibraryError} (stock : Stock lib w t place copies)
    (named : Named m copy) (failed : (lib.importFile m copy w).1 = .error e) :
    Added lib (fun _ => False) w.files (lib.importFile m copy w).2.files := by
  rcases importFile_error_cases failed with same | ⟨id, t', made, added, more, cases⟩
  · rw [same]
    exact .of_more (.refl _) stock.numbered
  · rcases exists_unknown_of_addRecord stock.content named added with ⟨md5, checksum, digits, unknown⟩
    have nothing : discard made (lib.target m) = made := by
      rw [target_eq checksum]
      refine discard_of_free digits named.plainFormat (more.within.directory? stock.leads)
        (more.plain stock.plain) fun number file => ?_
      exact stock.free digits unknown number (more.file.mp file)
    rcases cases with same | same
    · rw [same]
      exact .of_more more stock.numbered
    · rw [same, nothing]
      exact .of_more more stock.numbered

theorem Addition.items {id : Int} (addition : Addition t m copy id t') (named : Named m copy)
    (before : ∀ i ∈ t.items, NamedItem i) :
    (∀ i ∈ t'.items, NamedItem i) ∧ (∀ i ∈ t.items, i ∈ t'.items) ∧
      ∃ path, Tables.rowOf id (stored m path copy) ∈ t'.items := by
  rcases addition.source with ⟨md5, path, required, -, rfl⟩
  rw [addition.number, Tables.addItem_items]
  refine ⟨fun i membership => ?_, fun i membership => List.mem_append_left _ membership, path,
    List.mem_append_right _ (List.mem_singleton_self _)⟩
  rcases List.mem_append.mp membership with old | new
  · exact before i old
  · rw [List.mem_singleton.mp new]
    exact namedItem_rowOf named required _

/-- The row of an import says where its copy goes. -/
theorem rowOf_blob {md5 : String} (path : String) (copy : Bool) (checksum : m.md5 = some md5)
    (id : Int) :
    (Tables.rowOf id (stored m path copy)).cell .md5 = .text md5 ∧
      (Tables.rowOf id (stored m path copy)).text? .format = m.format :=
  ⟨Tables.rowOf_checksum (m := stored m path copy) checksum,
    text?_rowOf_format id (stored m path copy)⟩

/-- A copy that has been made is kept. -/
theorem Stock.kept {copies : List Copy} {id : Int} {md5 : String} {location : Location} {number : Nat}
    {made emptied copied : Files} (stock : Stock lib w t place copies) (path : String) (named : Named m true)
    (checksum : m.md5 = some md5) (digits : isHexName 32 md5 = true)
    (unknown : t.libraryItem? md5 = none) (done : (lib.importFile m true w).1 = .ok id)
    (more : MoreDirectories w.files made)
    (found : made.stat (m.path.getD "") true = .ok (location, .file number))
    (first : made.put (Blob.path lib.base md5 m.format) (.bytes .empty) none = .ok emptied)
    (second : emptied.put (Blob.path lib.base md5 m.format) (emptied.dataOf number).content none =
      .ok copied)
    (files : (lib.importFile m true w).2.files = lib.commit copied t') :
    lib.copyOf m true w = [⟨id, some (w.files.dataOf number).content⟩] ∧
      Copy.Kept lib (lib.importFile m true w).2.files place (Tables.rowOf id (stored m path true))
        ⟨id, some (w.files.dataOf number).content⟩ := by
  rcases stock.copied_blob digits named.plainFormat unknown more first second with
    ⟨laid, file, content, -, within, others⟩
  rcases rowOf_blob path true checksum id with ⟨cell, format⟩
  have nodes : (lib.importFile m true w).2.files.nodes = copied.nodes := by
    rw [files]
    rfl
  have later : made.Within (lib.importFile m true w).2.files := by
    rw [files]
    exact ⟨within.nodes, within.working⟩
  have source : (lib.importFile m true w).2.files.fileAt (m.path.getD "") = .ok (location, number) :=
    Files.fileAt_eq_ok_iff.mpr (later.stat found)
  have apart : number ≠ w.files.nextId := by
    have low := more.numbered stock.numbered location number (Files.nodes_of_stat found (by simp))
    rw [more.nextId] at low
    omega
  have notDatabase : w.files.nextId ≠ lib.database := by
    have low := stock.numbered _ _ stock.database
    omega
  refine ⟨?_, rfl, ?_, w.files.nextId, ?_, notDatabase, ?_⟩
  · unfold copyOf
    rw [done, source]
    rfl
  · rw [format, Item.text?, cell]
    refine laid.within ?_
    rw [files]
    exact ⟨fun _ _ there => there, rfl⟩
  · rw [itemSpot_eq place cell, format, nodes]
    exact file
  · rw [files, commit, Files.dataOf_setData_of_ne notDatabase, content, others number apart]

/-- The copy that an import has made is that of the file to which the path of the record leads, as soon as the
directories are there. -/
theorem Stock.copyOf_of_ok {copies : List Copy} {id : Int} (stock : Stock lib w t place copies)
    (named : Named m true) (done : (lib.importFile m true w).1 = .ok id) :
    ∃ made location number, MoreDirectories w.files made ∧
      made.fileAt (m.path.getD "") = .ok (location, number) ∧
      lib.copyOf m true w = [⟨id, some (w.files.dataOf number).content⟩] := by
  rcases importFile_ok_cases done with ⟨t', added, ⟨never, -⟩ | ⟨-, made, copied, more, copying, files⟩⟩
  · cases never
  · rcases exists_unknown_of_addRecord stock.content named added with ⟨md5, checksum, digits, unknown⟩
    rw [target_eq checksum] at copying
    rcases copy_eq_ok copying with ⟨location, number, emptied, found, first, second⟩
    exact ⟨made, location, number, more, Files.fileAt_eq_ok_iff.mpr found,
      (stock.kept "" named checksum digits unknown done more found first second files).1⟩

/-- What becomes of a library of which all files are known when something is imported. -/
theorem Stock.imported {copies : List Copy} (stock : Stock lib w t place copies)
    (named : Named m copy) :
    ∃ t', Stock lib (lib.importFile m copy w).2 t' place (copies ++ lib.copyOf m copy w) := by
  rcases importFile_cases m copy stock.content with ⟨id, t', done, content, addition⟩ | ⟨e, failed, content⟩
  · rcases addition.items named stock.items with ⟨items, grown, path, new⟩
    refine ⟨t', ?_⟩
    rcases importFile_ok_cases done with
      ⟨t₁, added, ⟨rfl, files⟩ | ⟨rfl, made, copied, more, copying, files⟩⟩
    · have added : Added lib (fun _ => False) w.files (lib.importFile m false w).2.files := by
        rw [files]
        exact (Added.of_more (.refl _) stock.numbered).commit t₁
      exact stock.added added content items grown
        (fun c membership => absurd membership List.not_mem_nil) fun location never => never.elim
    · rcases exists_unknown_of_addRecord stock.content named added with ⟨md5, checksum, digits, unknown⟩
      rw [target_eq checksum] at copying
      rcases copy_eq_ok copying with ⟨location, number, emptied, found, first, second⟩
      rcases stock.kept path named checksum digits unknown done more found first second files with
        ⟨only, kept⟩
      rcases stock.copied_blob digits named.plainFormat unknown more first second with ⟨-, -, -, added, -⟩
      rcases rowOf_blob path true checksum id with ⟨cell, format⟩
      rw [only]
      refine stock.added (files ▸ added.commit t₁) content items grown ?_ ?_
      · intro c' membership
        rw [List.mem_singleton.mp membership]
        exact ⟨_, new, kept⟩
      · intro spot same
        refine ⟨_, List.mem_singleton_self _, _, new, kept.item, ?_⟩
        rw [same, itemSpot_eq place cell, format]
  · rw [copyOf_error failed]
    exact ⟨t, stock.added (stock.added_of_error named failed) content stock.items (fun i present => present)
      (fun c membership => absurd membership List.not_mem_nil) fun location never => never.elim⟩

/-! ## Every run of imports -/

/-- Somebody else has done something to files, but not to those in the directory of the library. -/
structure Elsewhere (lib : Library) (w w' : World) : Prop where
  numbered : w'.files.Numbered
  same : ∀ place, w.files.directory? lib.base = some place →
    w'.files.directory? lib.base = some place ∧
      ∀ location, place <+: location → w'.files.nodes[location]? = w.files.nodes[location]? ∧
        ∀ number, w.files.nodes[location]? = some (.file number) →
          (w'.files.dataOf number).content = (w.files.dataOf number).content

/-- The states that a library can come to that is new and then imports samples, with the copies that have been made.
In the meantime anything can be done to files elsewhere. -/
inductive Stocked : Library → World → List Copy → Prop where
  | created {base : String} {lib : Library} {w : World} :
      w.files.Numbered → w.files.exists? (databasePath base) = false → (openAt base w).1 = .ok lib →
      (∀ place, (openAt base w).2.files.directory? base = some place → Bare w.files place) →
      Stocked lib (openAt base w).2 []
  | imported {lib : Library} {w : World} {copies : List Copy} (m : Metadata) (copy : Bool) :
      Stocked lib w copies → m.TagsValid → Named m copy →
      Stocked lib (lib.importFile m copy w).2 (copies ++ lib.copyOf m copy w)
  | changed {lib : Library} {w : World} {copies : List Copy} (w' : World) :
      Stocked lib w copies → Elsewhere lib w w' → Stocked lib w' copies

variable {copies : List Copy}

theorem Stock.changed (stock : Stock lib w t place copies) (elsewhere : Elsewhere lib w w') :
    Stock lib w' t place copies := by
  rcases elsewhere.same place stock.leads with ⟨leads, same⟩
  have nodes {location : Location} (inside : place <+: location) := (same location inside).1
  have contents {location : Location} (inside : place <+: location) := (same location inside).2
  refine ⟨?_, stock.items, leads, elsewhere.numbered, ?_, ?_, ?_, ?_⟩
  · exact (contents (List.prefix_append _ _) _ stock.database).trans stock.content
  · intro location target inside link
    exact stock.plain location target inside ((nodes inside).symm.trans link)
  · exact (nodes (List.prefix_append _ _)).trans stock.database
  · intro c membership
    rcases stock.copied c membership with ⟨i, present, item, laid, number, file, other, content⟩
    have inside : place <+: itemSpot place i := Blob.below_location _ _ _
    refine ⟨i, present, item, ⟨?_, ?_, laid.shortName, laid.usable⟩, number,
      (nodes inside).trans file, other, ?_⟩
    · exact (nodes (by simp)).trans laid.first
    · exact (nodes (by simp)).trans laid.second
    · rw [contents inside number file, content]
  · intro location number inside file
    exact stock.only location number inside ((nodes inside).symm.trans file)

theorem Stocked.stock (stocked : Stocked lib w copies) :
    Reached lib w ∧ lib.isClosed = false ∧ ∃ t place, Stock lib w t place copies := by
  induction stocked with
  | created numbered absent opened bare =>
      rcases stock_openAt numbered absent opened bare with ⟨place, stock⟩
      exact ⟨.created absent opened, (openAt_ok opened).2.1, _, place, stock⟩
  | imported m copy _ valid named inductionHypothesis =>
      rcases inductionHypothesis with ⟨reached, isOpen, t, place, stock⟩
      rcases stock.imported named with ⟨t', stock'⟩
      exact ⟨.imported m copy reached valid, isOpen, t', place, stock'⟩
  | changed w' _ elsewhere inductionHypothesis =>
      rcases inductionHypothesis with ⟨reached, isOpen, t, place, stock⟩
      have stock' := stock.changed elsewhere
      exact ⟨.changed w' reached (stock'.content.trans stock.content.symm), isOpen, t, place, stock'⟩

theorem Stocked.importedFrom {ms : List Metadata} {report : ImportReport} (stocked : Stocked lib w copies)
    (all : ∀ m ∈ ms, m.TagsValid ∧ Named m copy) :
    ∃ more, Stocked lib (lib.importFrom copy report ms w).2 (copies ++ more) := by
  induction ms generalizing report w copies with
  | nil =>
      refine ⟨[], ?_⟩
      rw [List.append_nil]
      exact stocked
  | cons m ms inductionHypothesis =>
      rcases all m List.mem_cons_self with ⟨valid, named⟩
      have first := stocked.imported m copy valid named
      unfold importFrom
      dsimp only
      split
      · rcases inductionHypothesis first
          (fun other membership => all other (List.mem_cons_of_mem _ membership)) with ⟨more, others⟩
        exact ⟨lib.copyOf m copy w ++ more, by rw [← List.append_assoc]; exact others⟩
      · exact ⟨lib.copyOf m copy w, first⟩

/-- Importing many records is importing one after the other. -/
theorem Stocked.importedAll {ms : List Metadata} (stocked : Stocked lib w copies)
    (all : ∀ m ∈ ms, m.TagsValid ∧ Named m copy) :
    ∃ more, Stocked lib (lib.importFiles ms copy w).2 (copies ++ more) :=
  stocked.importedFrom all

/-! ## What is read of the items -/

/-- The path for a record leads to a file. -/
def LeadsTo (lib : Library) (fs : Files) (m : Metadata) (location : Location) (number : Nat) : Prop :=
  ∃ path, lib.blobPath m = .ok path ∧ fs.stat path false = .ok (location, .file number)

theorem blobPath_record {i : Item} {md5 : String} (named : NamedItem i)
    (checksum : i.cell .md5 = .text md5) (digits : isHexName 32 md5 = true) :
    lib.blobPath (t.record i) = .ok (Blob.path lib.base md5 (i.text? .format)) := by
  have nonempty : md5.isEmpty = false := by
    have isName := Verifier.isName_of_isHexName (by decide) digits
    simpa using isName.nonempty
  unfold blobPath requireMd5
  rw [Tables.record_md5 checksum, Tables.record_format named.format]
  simp [nonempty, Except.map]

theorem blobPath_record_injective {i j : Item} {path : String} (keyed : t.Keyed)
    (named : ∀ i ∈ t.items, NamedItem i) (there : i ∈ t.libraryItems) (there' : j ∈ t.libraryItems)
    (leads : lib.blobPath (t.record i) = .ok path) (leads' : lib.blobPath (t.record j) = .ok path) :
    j = i := by
  have namedI := named i (Tables.mem_libraryItems.mp there).1
  have namedJ := named j (Tables.mem_libraryItems.mp there').1
  rcases namedI.digits with ⟨md5, checksum, digits⟩
  rcases namedJ.digits with ⟨md5', checksum', digits'⟩
  rw [blobPath_record namedI checksum digits] at leads
  rw [blobPath_record namedJ checksum' digits'] at leads'
  have same : itemPath lib i = itemPath lib j := by
    rw [itemPath_eq checksum, itemPath_eq checksum']
    exact (Except.ok.inj leads).trans (Except.ok.inj leads').symm
  rcases Verifier.exists_extension (i.text? .format) with ⟨extension, extended, -⟩
  rcases Verifier.exists_extension (j.text? .format) with ⟨extension', extended', -⟩
  rw [Verifier.itemPath_eq_blobPath checksum extended,
    Verifier.itemPath_eq_blobPath checksum' extended'] at same
  obtain rfl := (Verifier.blobPath_injective digits digits' same).1
  have found := keyed.libraryItem?_of_mem there checksum
  rw [keyed.libraryItem?_of_mem there' checksum'] at found
  exact Option.some.inj found

/-- What is read of an item that has been copied leads to its file. -/
theorem Stock.leadsTo {i : Item} {number : Nat} (stock : Stock lib w t place copies) (present : i ∈ t.items)
    (laid : Blob.Laid w.files lib.base place ((i.text? .md5).getD "") (i.text? .format))
    (file : w.files.nodes[itemSpot place i]? = some (.file number)) :
    LeadsTo lib w.files (t.record i) (itemSpot place i) number := by
  have named := stock.items i present
  rcases named.digits with ⟨md5, checksum, digits⟩
  have text : (i.text? .md5).getD "" = md5 := by simp [Item.text?, checksum, Cell.asText?]
  rw [text] at laid
  rw [itemSpot_eq place checksum] at file ⊢
  exact ⟨_, blobPath_record named checksum digits,
    laid.stat digits named.plainFormat stock.leads file (by simp)⟩

/-- In a library that is new and only imports samples, every item that has been copied has its file, with the content
that was copied. The path for what is read of an item belongs to this item only. And there are no other files in the
directory of the library, apart from the database. -/
theorem Stocked.blobs_exact (stocked : Stocked lib w copies) :
    ∃ t place, lib.tables w.files = .ok t ∧ w.files.directory? lib.base = some place ∧
      (∀ c ∈ copies, ∃ i ∈ t.libraryItems, i.id = c.item ∧ ∃ location number,
        LeadsTo lib w.files (t.record i) location number ∧
          c.content = some (w.files.dataOf number).content) ∧
      (∀ i ∈ t.libraryItems, (∃ md5, (lib.withMd5 md5 w).1 = .ok [t.record i]) ∧
        ∃ path, lib.blobPath (t.record i) = .ok path ∧
          ∀ j ∈ t.libraryItems, lib.blobPath (t.record j) = .ok path → j = i) ∧
      ∀ location number, place <+: location →
        (w.files.nodes[location]? = some (.file number) ↔
          location = place ++ [databaseName] ∧ number = lib.database ∨
            ∃ c ∈ copies, ∃ i ∈ t.libraryItems, i.id = c.item ∧
              LeadsTo lib w.files (t.record i) location number) := by
  rcases stocked.stock with ⟨reached, isOpen, t, place, stock⟩
  rcases reached.orderly with ⟨t', content, consistent, orderly⟩
  obtain rfl := content.eq stock.content
  have inLibrary {i : Item} (present : i ∈ t'.items) : i ∈ t'.libraryItems :=
    Tables.mem_libraryItems.mpr ⟨present, (stock.items i present).inLibrary⟩
  have tables := content.readable isOpen
  refine ⟨t', place, tables, stock.leads, ?_, ?_, ?_⟩
  · intro c membership
    rcases stock.copied c membership with ⟨i, present, kept⟩
    rcases kept.file with ⟨number, file, -, sameContent⟩
    exact ⟨i, inLibrary present, kept.item, _, number, stock.leadsTo present kept.laid file, sameContent⟩
  · intro i there
    have named := stock.items i (Tables.mem_libraryItems.mp there).1
    rcases named.digits with ⟨md5, checksum, digits⟩
    have path : lib.blobPath (t'.record i) = .ok (Blob.path lib.base md5 (i.text? .format)) :=
      blobPath_record named checksum digits
    refine ⟨⟨md5, withMd5_of_mem isOpen content consistent.keyed orderly there checksum⟩, _, path, ?_⟩
    intro j there' samePath
    exact blobPath_record_injective consistent.keyed stock.items there there' path samePath
  · intro location number inside
    constructor
    · intro file
      rcases stock.only location number inside file with rfl | ⟨c, membership, i, present, item, rfl⟩
      · rw [stock.database] at file
        exact .inl ⟨rfl, (Node.file.inj (Option.some.inj file)).symm⟩
      · rcases stock.copied c membership with ⟨i', present', kept⟩
        obtain rfl := consistent.keyed.item_eq present present' (item.trans kept.item.symm)
        exact .inr ⟨c, membership, i, inLibrary present, item, stock.leadsTo present kept.laid file⟩
    · rintro (⟨rfl, rfl⟩ | ⟨c, -, i, -, -, path, -, found⟩)
      · exact stock.database
      · exact Files.nodes_of_stat found (by simp)

/-- The loop is imported, then the ghost, which fails, and then the loop again, which is a conflict. -/
def loopWorlds (lib : Library) : World × World × World :=
  let first := (lib.importFile loop true (openAt "lib" loopWorld).2).2
  let second := (lib.importFile ghost true first).2
  (first, second, (lib.importFile loop true second).2)

def loopCopies (lib : Library) : List Copy :=
  [] ++ lib.copyOf loop true (openAt "lib" loopWorld).2 ++ lib.copyOf ghost true (loopWorlds lib).1 ++
    lib.copyOf loop true (loopWorlds lib).2.1

theorem loop_copied :
    (match (openAt "lib" loopWorld).1 with
      | .ok lib => (loopCopies lib).length == 1
      | .error _ => false) = true := by
  decide +kernel

theorem loopWorld_names :
    (loopWorld.files.nodes.toList.all fun entry =>
      (entry.2 == .directory || !(["home", "lib"].isPrefixOf entry.1)) &&
        (entry.2 == .directory || entry.2 == .file 0)) = true := by
  decide +kernel

theorem loopWorld_numbered : loopWorld.files.Numbered := by
  intro location id found
  have checked := List.all_eq_true.mp loopWorld_names (location, .file id)
    (Std.ExtTreeMap.mem_toList_iff_getElem?_eq_some.mpr found)
  simp only [Bool.and_eq_true, Bool.or_eq_true, beq_iff_eq] at checked
  rcases checked.2 with directory | file
  · cases directory
  · cases file
    decide

theorem loopWorld_bare : Bare loopWorld.files ["home", "lib"] := by
  intro location node inside found
  have checked := List.all_eq_true.mp loopWorld_names (location, node)
    (Std.ExtTreeMap.mem_toList_iff_getElem?_eq_some.mpr found)
  simp only [Bool.and_eq_true, Bool.or_eq_true, beq_iff_eq] at checked
  rcases checked.1 with directory | elsewhere
  · exact directory
  · rw [List.isPrefixOf_iff_prefix.mpr inside] at elsewhere
    cases elsewhere

/-- The only copy is that of the first import. -/
theorem loop_blobs_exact :
    ∃ lib w copies, Stocked lib w copies ∧ copies.length = 1 ∧
      ∃ t place, lib.tables w.files = .ok t ∧ w.files.directory? lib.base = some place ∧
        (∀ c ∈ copies, ∃ i ∈ t.libraryItems, i.id = c.item ∧ ∃ location number,
          LeadsTo lib w.files (t.record i) location number ∧
            c.content = some (w.files.dataOf number).content) ∧
        (∀ i ∈ t.libraryItems, (∃ md5, (lib.withMd5 md5 w).1 = .ok [t.record i]) ∧
          ∃ path, lib.blobPath (t.record i) = .ok path ∧
            ∀ j ∈ t.libraryItems, lib.blobPath (t.record j) = .ok path → j = i) ∧
        ∀ location number, place <+: location →
          (w.files.nodes[location]? = some (.file number) ↔
            location = place ++ [databaseName] ∧ number = lib.database ∨
              ∃ c ∈ copies, ∃ i ∈ t.libraryItems, i.id = c.item ∧
                LeadsTo lib w.files (t.record i) location number) := by
  have leads : (openAt "lib" loopWorld).2.files.directory? "lib" = some ["home", "lib"] := rfl
  have copied := loop_copied
  cases opened : (openAt "lib" loopWorld).1 with
  | error e => simp [opened] at copied
  | ok lib =>
      simp only [opened, beq_iff_eq] at copied
      have created : Stocked lib (openAt "lib" loopWorld).2 [] := by
        refine .created loopWorld_numbered loopWorld_absent opened fun place found => ?_
        rw [leads] at found
        cases found
        exact loopWorld_bare
      have stocked := ((created.imported loop true Metadata.tagsValid_empty loop_named).imported ghost
        true Metadata.tagsValid_empty ghost_named).imported loop true Metadata.tagsValid_empty loop_named
      exact ⟨lib, _, loopCopies lib, stocked, copied, stocked.blobs_exact⟩

end Library

end SampleLibrary
