import SampleLibrary.Proofs.Library.BlobStore
import SampleLibrary.Proofs.Library.Corruption
import SampleLibrary.Proofs.Verifier.Convergence
import SampleLibrary.Proofs.Verifier.ItemsChecked

/-!
# Libraries made by copying are clean

What copying imports lay down is what a verification looks for: each item has its file, the file has the
checksum of the item, and nothing else is there that is named like a file of the library (`Filled.stock`). So a
verification of a library that has been filled like this has nothing to say, unless it cannot list the
directory, because its path is empty, or comes to a directory that is named for another process
(`Filled.verify_clean_iff`).
-/

namespace SampleLibrary.Library

open Files (MoreDirectories Usable)
open Verifier (isHexName itemPath blobPath blobAt blobName firstPart secondPart BlobFile StaleDirectory
  Clean Faultless Observer Visit visits)

variable {lib : Library} {w w' : World} {t : Tables} {m : Metadata} {place : Location} {copies : List Copy}

/-! ## Filling a library -/

/-- The checksum of the record is that of the file to which its path leads, if it leads to one, also once more
directories have been made. -/
def Truthful (m : Metadata) (fs : Files) : Prop :=
  ∀ made location number, MoreDirectories fs made →
    made.fileAt (m.path.getD "") = .ok (location, number) →
      m.md5 = some (Md5.checksum (fs.dataOf number).content.toBytes)

/-- The states that a library can come to that is new and then copies samples whose checksums are right. Imports may
fail, and in the meantime anything can be done to files elsewhere. -/
inductive Filled : Library → World → Prop where
  | created {base : String} {lib : Library} {w : World} :
      w.files.Numbered → w.files.exists? (databasePath base) = false → (openAt base w).1 = .ok lib →
      (∀ place, (openAt base w).2.files.directory? base = some place → Bare w.files place) →
      Filled lib (openAt base w).2
  | imported {lib : Library} {w : World} (m : Metadata) :
      Filled lib w → m.TagsValid → Named m true → Truthful m w.files →
      Filled lib (lib.importFile m true w).2
  | changed {lib : Library} {w : World} (w' : World) :
      Filled lib w → Elsewhere lib w w' → Filled lib w'

/-- Every item has been copied, and its checksum is that of the copy. -/
def Copied (t : Tables) (copies : List Copy) : Prop :=
  ∀ i ∈ t.items, ∃ c ∈ copies, c.item = i.id ∧ ∃ content, c.content = some content ∧
    i.cell .md5 = .text (Md5.checksum content.toBytes)

theorem Copied.imported (copied : Copied t copies) (stock : Stock lib w t place copies)
    (named : Named m true) (truthful : Truthful m w.files) {t' : Tables}
    (content : Holds lib (lib.importFile m true w).2 t') :
    Copied t' (copies ++ lib.copyOf m true w) := by
  rcases importFile_cases m true stock.content with
    ⟨id, t'', done, content', addition⟩ | ⟨e, failed, content'⟩
  · obtain rfl := content.eq content'
    obtain ⟨md5, path, required, -, rfl⟩ := addition.source
    intro i membership
    rw [Tables.addItem_items, List.mem_append, List.mem_singleton] at membership
    rcases membership with old | rfl
    · obtain ⟨c, before, rest⟩ := copied i old
      exact ⟨c, List.mem_append_left _ before, rest⟩
    · obtain ⟨made, location, number, more, found, made'⟩ := stock.copyOf_of_ok named done
      have right := truthful made location number more found
      refine ⟨_, List.mem_append_right _ (made' ▸ List.mem_singleton_self _), addition.number, _, rfl, ?_⟩
      exact Tables.rowOf_checksum (m := stored m path true) right
  · obtain rfl := content.eq content'
    rw [copyOf_error failed, List.append_nil]
    exact copied

/-- A library that is open has a database at a path that can be followed. -/
theorem usable_databasePath {base : String} (absent : w.files.exists? (databasePath base) = false)
    (opened : (openAt base w).1 = .ok lib) : Usable (databasePath lib.base) := by
  obtain ⟨above, begun, -, -, found, -⟩ := openAt_new absent opened
  rw [(openAt_ok opened).1]
  exact Files.usable_of_resolve (Files.stat_eq_ok_iff.mp (Files.fileAt_eq_ok_iff.mp found))

/-- All files of the library are known, and they are copies of what the items say. -/
theorem Filled.stock (filled : Filled lib w) :
    Reached lib w ∧ lib.isClosed = false ∧ Usable (databasePath lib.base) ∧
      ∃ t place copies, Stock lib w t place copies ∧ Copied t copies := by
  induction filled with
  | created numbered absent opened bare =>
      obtain ⟨place, stock⟩ := stock_openAt numbered absent opened bare
      exact ⟨.created absent opened, (openAt_ok opened).2.1, usable_databasePath absent opened, _, place, [],
        stock, fun i membership => absurd membership List.not_mem_nil⟩
  | imported m _ valid named truthful inductionHypothesis =>
      obtain ⟨reached, isOpen, usable, t, place, copies, stock, copied⟩ := inductionHypothesis
      obtain ⟨t', stock'⟩ := stock.imported named
      exact ⟨.imported m true reached valid, isOpen, usable, t', place, _, stock',
        copied.imported stock named truthful stock'.content⟩
  | changed w' _ elsewhere inductionHypothesis =>
      obtain ⟨reached, isOpen, usable, t, place, copies, stock, copied⟩ := inductionHypothesis
      have stock' := stock.changed elsewhere
      exact ⟨.changed w' reached (stock'.content.trans stock.content.symm), isOpen, usable, t, place, copies,
        stock', copied⟩

/-! ## What a verification comes to -/

/-- A path can be followed if it is no longer than one that can be followed and starts alike. -/
theorem usable_of_shorter {front rest shorter : String} (usable : Usable (front ++ rest))
    (noNul : '\x00' ∉ shorter.toList) (nonempty : shorter ≠ "")
    (size : shorter.utf8ByteSize ≤ rest.utf8ByteSize) : Usable (front ++ shorter) := by
  have free := usable.noNul
  have short := usable.short
  rw [List.contains_eq_mem, decide_eq_false_iff_not, String.toList_append, List.mem_append, not_or] at free
  rw [String.utf8ByteSize_append] at short
  refine ⟨?_, ?_, ?_⟩
  · rw [List.contains_eq_mem, decide_eq_false_iff_not, String.toList_append, List.mem_append, not_or]
    exact ⟨free.1, noNul⟩
  · simp [nonempty]
  · rw [String.utf8ByteSize_append]
    omega

/-- The directories for digits of checksums have paths that are no longer than that of the database. -/
theorem usable_listing {fs : Files} {process : Nat} {path : String}
    (usable : Usable (databasePath lib.base)) (membership : .listing path ∈ visits lib fs place process) :
    Usable path := by
  rw [databasePath, Verifier.below_eq_slashed _ (by decide)] at usable
  have noNul {length : Nat} {name : String} (digits : isHexName length name = true) :
      '\x00' ∉ name.toList :=
    fun nul => absurd ((Verifier.isHexName_iff.mp digits).2 _ nul) (by decide)
  have room : databaseName.utf8ByteSize = 11 := by decide
  obtain ⟨first, digits, -, shape⟩ := Verifier.listing_mem_visits.mp membership
  have isName := Verifier.isName_of_isHexName Nat.one_pos digits
  have size := Verifier.utf8ByteSize_of_isHexName digits
  rcases shape with rfl | ⟨second, digits', -, rfl⟩
  · rw [Verifier.below_eq_slashed _ (Files.isAbsolute_of_isName isName)]
    exact usable_of_shorter usable (noNul digits) isName.nonempty (by omega)
  · have isName' := Verifier.isName_of_isHexName Nat.two_pos digits'
    have size' := Verifier.utf8ByteSize_of_isHexName digits'
    rw [Verifier.below_eq_slashed _ (Files.isAbsolute_of_isName isName'),
      Verifier.below_eq_slashed _ (Files.isAbsolute_of_isName isName), Verifier.slashed_append _ isName,
      String.append_assoc, String.append_assoc]
    apply usable_of_shorter usable
    · simp [noNul digits, noNul digits']
    · simp
    · rw [String.utf8ByteSize_append, String.utf8ByteSize_append, size, size', room]
      decide

/-- The file of an item is in its place, and it has the checksum of the item. -/
structure Sound (lib : Library) (fs : Files) (place : Location) (i : Item) (md5 : String) (number : Nat) :
    Prop where
  checksum : i.cell .md5 = .text md5
  digits : isHexName 32 md5 = true
  laid : Blob.Laid fs lib.base place md5 (i.text? .format)
  file : fs.nodes[Blob.location place md5 (i.text? .format)]? = some (.file number)
  right : Md5.checksum (fs.dataOf number).content.toBytes = md5

theorem Stock.sound (stock : Stock lib w t place copies) (keyed : t.Keyed) (copied : Copied t copies)
    {i : Item} (present : i ∈ t.items) : ∃ md5 number, Sound lib w.files place i md5 number := by
  obtain ⟨c, membership, item, content, isContent, checksum⟩ := copied i present
  obtain ⟨i', present', kept⟩ := stock.copied c membership
  obtain rfl := keyed.item_eq present present' (item.symm.trans kept.item.symm)
  obtain ⟨number, file, -, same⟩ := kept.file
  rw [isContent, Option.some_inj] at same
  have laid := kept.laid
  rw [Item.text?, checksum] at laid
  rw [itemSpot_eq place checksum] at file
  exact ⟨_, number, checksum, isHexName_checksum _, laid, file, by rw [← same]⟩

section Faultless

variable (stock : Stock lib w t place copies)
include stock

/-- The path of an item leads to its file. -/
theorem Sound.stat {i : Item} {md5 : String} {number : Nat} (sound : Sound lib w.files place i md5 number)
    (present : i ∈ t.items) : w.files.stat (itemPath lib i) true =
      .ok (Blob.location place md5 (i.text? .format), .file number) := by
  rw [itemPath_eq sound.checksum]
  exact sound.laid.stat sound.digits (stock.items i present).plainFormat stock.leads sound.file (by simp)

theorem Stock.exists?_itemPath (keyed : t.Keyed) (copied : Copied t copies) {i : Item}
    (there : i ∈ t.libraryItems) : w.files.exists? (itemPath lib i) = true := by
  have present := (Tables.mem_libraryItems.mp there).1
  obtain ⟨md5, number, sound⟩ := stock.sound keyed copied present
  exact Files.exists?_of_stat (sound.stat stock present)

/-- Nothing is wrong with a file that is named like one of the library. -/
theorem Stock.finding?_file (keyed : t.Keyed) (copied : Copied t copies) {md5 extension : String}
    {id : Nat} (blob : BlobFile w.files place md5 extension id) :
    (Visit.file md5 extension).finding? lib t w.files = none := by
  rcases stock.only _ id (List.prefix_append _ _) blob.file with
    database | ⟨c, membership, i, present, -, spot⟩
  · have lengths := congrArg List.length database
    simp at lengths
  · obtain ⟨md5', number, sound⟩ := stock.sound keyed copied present
    obtain ⟨extension', named, -⟩ := Verifier.exists_extension (i.text? .format)
    have names : md5.toList ++ '.' :: extension.toList = md5'.toList ++ '.' :: extension'.toList := by
      rw [itemSpot_eq place sound.checksum, Blob.location, Verifier.fileName_eq_blobName md5' named] at spot
      simpa [blobAt, ← String.toList_inj, Verifier.toList_blobName] using (congrArg List.getLast? spot)
    have sizes : md5.toList.length = md5'.toList.length :=
      (Verifier.isHexName_iff.mp blob.naming.digits).1.trans (Verifier.isHexName_iff.mp sound.digits).1.symm
    obtain ⟨same, rest⟩ := List.append_inj names sizes
    obtain rfl := String.toList_inj.mp same
    obtain rfl := String.toList_inj.mp (List.cons.inj rest).2
    have there : i ∈ t.libraryItems :=
      Tables.mem_libraryItems.mpr ⟨present, (stock.items i present).inLibrary⟩
    have found := sound.stat stock present
    rw [Verifier.itemPath_eq_blobPath sound.checksum named] at found
    exact Verifier.finding?_eq_none (keyed.libraryItem?_of_mem there sound.checksum) found sound.right named

theorem Stock.faultless (consistent : t.Consistent) (copied : Copied t copies)
    (usable : Usable (databasePath lib.base)) (nonempty : lib.base ≠ "")
    (unstale : ∀ name, ¬StaleDirectory w.files place w.process name) : Faultless lib t w place where
  leads := (Files.directory?_eq_some nonempty).mp stock.leads
  items _ there := stock.exists?_itemPath consistent.keyed copied there
  visits := by
    intro v membership
    cases v with
    | progress | listing => rfl
    | file md5 extension =>
        obtain ⟨id, blob⟩ := Verifier.file_mem_visits.mp membership
        exact stock.finding?_file consistent.keyed copied blob
    | stale name => exact absurd (Verifier.stale_mem_visits.mp membership) (unstale name)
  listings path membership :=
    Verifier.list_of_usable ((Files.directory?_eq_some nonempty).mp stock.leads) membership
      (usable_listing usable membership)
  anchored := consistent.anchored
  counted := consistent.counted

end Faultless

/-- What is known of a library that has been filled by copying, by its tables. -/
theorem Filled.tables (filled : Filled lib w) :
    Usable (databasePath lib.base) ∧ ∃ t place copies, lib.tables w.files = .ok t ∧ t.Consistent ∧
      Stock lib w t place copies ∧ Copied t copies := by
  obtain ⟨reached, isOpen, usable, t, place, copies, stock, copied⟩ := filled.stock
  obtain ⟨t₀, content, consistent, -⟩ := reached.orderly
  obtain rfl := content.eq stock.content
  exact ⟨usable, t₀, place, copies, Library.tables_eq_ok_iff.mpr ⟨isOpen, content⟩, consistent, stock, copied⟩

/-- A library that has been filled by copying verifies clean, whoever is there to answer, if its directory has a path
and there is no directory for the aliases of another process in it; and in no other case. -/
theorem Filled.verify_clean_iff (filled : Filled lib w) (observer : Observer) :
    (Clean lib observer w ∧ ∃ report count, (Verifier.verify lib observer w).1.outcome = .ok report ∧
        lib.itemCount w.files = .ok count ∧ report.itemsChecked = count) ↔
      lib.base ≠ "" ∧ ∀ place name, w.files.directory? lib.base = some place →
        ¬StaleDirectory w.files place w.process name := by
  obtain ⟨usable, t, place, copies, tables, consistent, stock, copied⟩ := filled.tables
  constructor
  · rintro ⟨clean, -⟩
    obtain ⟨place', faultless⟩ := Verifier.faultless_of_clean tables clean
    refine ⟨Files.ne_empty_of_stat faultless.leads, fun place'' name leads stale => ?_⟩
    obtain rfl := Option.some.inj (leads.symm.trans (Files.directory?_of_stat faultless.leads))
    have silent := faultless.visits _ (Verifier.stale_mem_visits.mpr stale)
    cases silent
  · rintro ⟨nonempty, unstale⟩
    have clean : Clean lib observer w := Verifier.clean_of_faultless tables
      (stock.faultless consistent copied usable nonempty fun name => unstale place name stock.leads)
    obtain ⟨report, done, -⟩ := clean.done
    refine ⟨clean, report, _, done, ?_, Verifier.verify_itemsChecked tables done⟩
    rw [itemCount, tables]
    rfl

/-- The directory with the empty path is taken for the current one by everything but the listing of the second stage,
with which the verification ends. -/
theorem Filled.verify_of_emptyPath (filled : Filled lib w) (empty : lib.base = "") (observer : Observer) :
    (Verifier.verify lib observer w).1.outcome = .error (.io .notFound) ∧
      (∀ event ∈ (Verifier.verify lib observer w).1.events, Verifier.Plain event) ∧
      (Verifier.verify lib observer w).2 = w := by
  obtain ⟨-, t, place, copies, tables, consistent, stock, copied⟩ := filled.tables
  obtain ⟨r, items, quiet⟩ := Verifier.quiet_checkItems (r := Verifier.startOf t w) observer
    consistent.counted fun i there => stock.exists?_itemPath consistent.keyed copied there
  have staged := quiet.trans (.nextStage r "Checking files")
  have unlisted : (r.nextStage "Checking files").files.list lib.base = .error .notFound := by
    rw [empty]
    simp [Files.list, Files.stat, Files.resolve]
  have stages : Verifier.allStages lib observer w.process (Verifier.startOf t w) =
      .error ⟨.io .notFound, r.nextStage "Checking files"⟩ := by
    unfold Verifier.allStages
    rw [items]
    show Verifier.checkFiles lib observer w.process r >>= _ = _
    unfold Verifier.checkFiles Verifier.entriesOf
    dsimp only
    rw [unlisted]
    rfl
  have verified : Verifier.verify lib observer w = (⟨.error (.io .notFound),
      (r.nextStage "Checking files").history.reverse⟩, w) := by
    unfold Verifier.startOf at stages
    unfold Verifier.verify
    rw [tables]
    dsimp only
    rw [stages]
    dsimp only
    rw [staged.talk.files, staged.metrics]
    rfl
  rw [verified]
  refine ⟨rfl, fun event membership => ?_, rfl⟩
  obtain ⟨said, history, plain⟩ := staged.talk.said
  apply plain
  simpa [history, Verifier.startOf] using membership

theorem bareWorld_numbered : bareWorld.files.Numbered := by
  intro location id found
  have entry := Std.ExtTreeMap.mem_toList_iff_getElem?_eq_some.mpr found
  have all : bareWorld.files.nodes.toList = [(["home"], .directory)] := by decide +kernel
  simp [all] at entry

theorem bareWorld_bare (place : Location) : Bare bareWorld.files place := by
  intro location node _ found
  have entry := Std.ExtTreeMap.mem_toList_iff_getElem?_eq_some.mpr found
  have all : bareWorld.files.nodes.toList = [(["home"], .directory)] := by decide +kernel
  rw [all, List.mem_singleton] at entry
  exact (Prod.mk.inj entry).2

/-- A new library in the current directory, which is meant by the empty path. -/
theorem emptyPath_unverifiable :
    ∃ lib, (openAt "" bareWorld).1 = .ok lib ∧ Filled lib (openAt "" bareWorld).2 ∧
      ∀ observer, (Verifier.verify lib observer (openAt "" bareWorld).2).1.outcome =
          .error (.io .notFound) ∧ ¬Clean lib observer (openAt "" bareWorld).2 := by
  have absent : bareWorld.files.exists? (databasePath "") = false := rfl
  have isOk : (openAt "" bareWorld).1.toOption.isSome = true := rfl
  cases opened : (openAt "" bareWorld).1 with
  | error e => simp [opened, Except.toOption] at isOk
  | ok lib =>
      have filled : Filled lib (openAt "" bareWorld).2 :=
        .created bareWorld_numbered absent opened fun place _ => bareWorld_bare place
      refine ⟨lib, rfl, filled, fun observer => ?_⟩
      have failed := (filled.verify_of_emptyPath (openAt_ok opened).1 observer).1
      refine ⟨failed, fun clean => ?_⟩
      obtain ⟨report, done, -⟩ := clean.done
      rw [failed] at done
      cases done

/-- The loop with its true checksum. -/
def trueLoop : Metadata := { loop with md5 := some (Md5.checksum ⟨#[108, 111, 111, 112]⟩) }

theorem trueLoop_truthful : Truthful trueLoop (openAt "lib" loopWorld).2.files := by
  intro made location number more found
  have there : (openAt "lib" loopWorld).2.files.fileAt "loop.wav" = .ok (["home", "loop.wav"], 0) := rfl
  have later := Files.fileAt_eq_ok_iff.mpr (more.within.stat (Files.fileAt_eq_ok_iff.mp there))
  obtain ⟨rfl, rfl⟩ := Prod.mk.inj (Except.ok.inj (later.symm.trans found))
  rfl

theorem trueLoop_named : Named trueLoop true := by
  refine ⟨fun md5 checksum _ => ?_, loop_named.plainFormat⟩
  have same : some (Md5.checksum ⟨#[108, 111, 111, 112]⟩) = some md5 := checksum
  exact Option.some.inj same ▸ isHexName_checksum _

/-- Is the loop there after its import, and no directory of another process? -/
def loopCheck (lib : Library) : Bool :=
  let w := (lib.importFile trueLoop true (openAt "lib" loopWorld).2).2
  lib.itemCount w.files == .ok 1 && w.files.directory? lib.base == some ["home", "lib"] &&
    w.files.nodes.toList.all fun entry =>
      match entry.1 with
      | ["home", "lib", name] => (Verifier.tmpProcess? name).all (· == w.process)
      | _ => true

theorem loop_checked :
    (match (openAt "lib" loopWorld).1 with
      | .ok lib => loopCheck lib
      | .error _ => false) = true := by
  decide +kernel

/-- The loop is imported with its true checksum, and nobody is asked anything. -/
theorem loop_verified_clean :
    ∃ lib w, Filled lib w ∧ lib.itemCount w.files = .ok 1 ∧ ∀ observer,
      ((Clean lib observer w ∧ ∃ report count, (Verifier.verify lib observer w).1.outcome = .ok report ∧
          lib.itemCount w.files = .ok count ∧ report.itemsChecked = count) ↔
        lib.base ≠ "" ∧ ∀ place name, w.files.directory? lib.base = some place →
          ¬StaleDirectory w.files place w.process name) ∧ Clean lib observer w := by
  have checked := loop_checked
  cases opened : (openAt "lib" loopWorld).1 with
  | error e => simp [opened] at checked
  | ok lib =>
      simp only [opened, loopCheck, Bool.and_eq_true, beq_iff_eq, List.all_eq_true] at checked
      obtain ⟨⟨counted, leads⟩, own⟩ := checked
      have created : Filled lib (openAt "lib" loopWorld).2 := by
        refine .created loopWorld_numbered loopWorld_absent opened fun place found => ?_
        have here : (openAt "lib" loopWorld).2.files.directory? "lib" = some ["home", "lib"] := rfl
        obtain rfl := Option.some.inj (here.symm.trans found)
        exact loopWorld_bare
      have filled := created.imported trueLoop Metadata.tagsValid_empty trueLoop_named trueLoop_truthful
      have unstale : ∀ place name,
          (lib.importFile trueLoop true (openAt "lib" loopWorld).2).2.files.directory? lib.base = some place →
            ¬StaleDirectory (lib.importFile trueLoop true (openAt "lib" loopWorld).2).2.files place
              (lib.importFile trueLoop true (openAt "lib" loopWorld).2).2.process name := by
        intro place name found stale
        obtain rfl := Option.some.inj (leads.symm.trans found)
        obtain ⟨owner, owned, other⟩ := stale.owner
        have entry := own (_, _) (Std.ExtTreeMap.mem_toList_iff_getElem?_eq_some.mpr stale.directory)
        simp [owned, other] at entry
      have nonempty : lib.base ≠ "" := by
        rw [(openAt_ok opened).1]
        decide
      exact ⟨lib, _, filled, counted, fun observer =>
        ⟨filled.verify_clean_iff observer, ((filled.verify_clean_iff observer).mpr ⟨nonempty, unstale⟩).1⟩⟩

end SampleLibrary.Library
