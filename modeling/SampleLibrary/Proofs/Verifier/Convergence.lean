import SampleLibrary.Proofs.Verifier.CleanRuns
import SampleLibrary.Proofs.Verifier.HealthyItems
import SampleLibrary.Proofs.Verifier.Repair

/-!
# When a full repair is the last one

After a full repair another verification should find nothing. It does find something in three cases:
the tag for the whole library was missing and nothing had to be counted anew; the file of an item was
right at its visit, and a misleading file took the item away afterwards (`Orphaned`); or a directory
went with which the file of an item was reached. There are no others (`clean_after_repair_iff`).
-/

namespace SampleLibrary.Verifier

/-- The file of an item is right at its visit, and afterwards the item is taken away. -/
structure Orphaned (lib : Library) (t : Tables) (fs : Files) (place : Location)
    (md5 extension : String) : Prop where
  right : Right lib t fs place md5 extension
  misled : ∃ extension', Misleading lib fs place md5 extension'

/-- The file of an item is in the directory for its checksum, under its name. -/
def InPlace (fs : Files) (place : Location) (i : Item) : Prop :=
  ∃ md5 extension id, i.cell .md5 = .text md5 ∧
    Blob.extension (i.text? .format) = "." ++ extension ∧ BlobFile fs place md5 extension id

section Listings

variable {lib : Library} {observer : Observer} {fs : Files} {place : Location} {process : Nat}
  {vs : List Visit} {path : String} {r r' : Run}

/-- A directory that was listed had a path that can be followed. -/
theorem usable_of_runVisits (done : runVisits lib observer vs r = .ok r')
    (membership : .listing path ∈ vs) : Files.Usable path := by
  obtain ⟨before, after, rfl⟩ := List.mem_iff_append.mp membership
  rw [runVisits_append] at done
  obtain ⟨r₁, -, rest⟩ := ok_of_bind done
  rw [runVisits_cons] at rest
  obtain ⟨r₂, step, -⟩ := ok_of_bind rest
  cases listed : entriesOf path r₁ with
  | error stop => simp [Visit.step, listed, Except.map] at step
  | ok entries =>
      obtain ⟨location, found, -⟩ := entriesOf_ok listed
      exact Files.usable_of_resolve (Files.stat_eq_ok_iff.mp found)

/-- The directories for digits of checksums can be listed if their paths can be followed. -/
theorem list_of_usable (leads : fs.stat lib.base true = .ok (place, .directory))
    (membership : .listing path ∈ visits lib fs place process) (usable : Files.Usable path) :
    ∃ entries, fs.list path = .ok entries := by
  have list {location : Location} (found : fs.stat path true = .ok (location, .directory)) :
      ∃ entries, fs.list path = .ok entries :=
    ⟨fs.children location, by simp [Files.list, found]⟩
  rcases listing_mem_visits.mp membership with
    ⟨first, digits, there, rfl | ⟨second, digits', there', rfl⟩⟩
  · exact list (stat_below_digits digits Nat.one_pos (by omega) leads usable there)
  · have outer := usable.of_below (Files.below_ne_empty _ (isName_of_isHexName Nat.one_pos digits))
      (isName_of_isHexName Nat.two_pos digits')
    have found := stat_below_digits digits Nat.one_pos (by omega) leads outer there
    exact list (stat_below_digits digits' Nat.two_pos (Nat.le_refl 2) found usable there')

theorem listing_mem_of_within {fs' : Files} (within : fs'.Within fs)
    (membership : .listing path ∈ visits lib fs' place process) :
    .listing path ∈ visits lib fs place process := by
  obtain ⟨first, digits, there, listed⟩ := listing_mem_visits.mp membership
  refine listing_mem_visits.mpr ⟨first, digits, within.nodes _ _ there, listed.imp_right ?_⟩
  rintro ⟨second, digits', there', same⟩
  exact ⟨second, digits', within.nodes _ _ there', same⟩

end Listings

section Repairs

variable {lib : Library} {observer : Observer} {t : Tables} {w w' : World} {report : Report}
  {events : List Event} {place : Location} {r₁ r₂ r₃ : Run} {md5 extension : String} {id : Nat}
  {i : Item}

/-- The bytes of files stay as they are. -/
theorem Verified.toBytes (course : Verified lib observer t w w' report events place r₁ r₂ r₃)
    (isOpen : lib.tables w.files = .ok t) (id : Nat) :
    (w'.files.dataOf id).content.toBytes = (w.files.dataOf id).content.toBytes := by
  by_cases database : id = lib.database
  · rw [database, (Library.tables_eq_ok_iff.mp isOpen).2,
      (Library.tables_eq_ok_iff.mp course.tables).2]
    rfl
  · rw [course.data id database]

namespace Repaired

theorem within_start (repaired : Repaired lib observer t w w' report events place r₁ r₂ r₃) :
    w'.files.Within w.files :=
  repaired.within.trans (repaired.beforeVisits.trans (passed_runVisits repaired.visits)).later.files

theorem nodes_eq (repaired : Repaired lib observer t w w' report events place r₁ r₂ r₃) :
    w'.files.nodes = r₂.files.nodes := by
  rw [repaired.nodes, repaired.links.files, advance_files]

theorem mem_items_iff (repaired : Repaired lib observer t w w' report events place r₁ r₂ r₃) :
    i ∈ r₃.tables.libraryItems ↔ Kept lib t w.files place i := by
  rw [Tables.libraryItems, repaired.items]
  exact repaired.mem_libraryItems_iff

/-- A file that is left was right at its visit. -/
theorem right_of_left (repaired : Repaired lib observer t w w' report events place r₁ r₂ r₃)
    (left : BlobFile w'.files place md5 extension id) :
    BlobFile w.files place md5 extension id ∧ Right lib t w.files place md5 extension := by
  have within := repaired.within_start
  have blob : BlobFile w.files place md5 extension id :=
    ⟨left.naming, within.nodes _ _ left.first, within.nodes _ _ left.second,
      within.nodes _ _ left.file⟩
  refine ⟨blob, ?_⟩
  by_contra wrong
  have gone := repaired.files.gone _ (.file blob wrong)
  rw [← repaired.nodes_eq, left.file] at gone
  cases gone

theorem left_of_right (repaired : Repaired lib observer t w w' report events place r₁ r₂ r₃)
    (blob : BlobFile w.files place md5 extension id)
    (right : Right lib t w.files place md5 extension) :
    BlobFile w'.files place md5 extension id := by
  obtain ⟨naming, first, second, file⟩ := repaired.stands_of_right blob right
  rw [← repaired.nodes_eq] at first second file
  exact ⟨naming, first, second, file⟩

/-- There is nothing wrong with a file that is left unless its item has been taken away. -/
theorem fine_iff (repaired : Repaired lib observer t w w' report events place r₁ r₂ r₃)
    (isOpen : lib.tables w.files = .ok t) (left : BlobFile w'.files place md5 extension id) :
    (Visit.file md5 extension).finding? lib r₃.tables w'.files = none ↔
      ∀ extension', ¬Misleading lib w.files place md5 extension' := by
  obtain ⟨blob, ⟨i, own⟩, -⟩ := repaired.right_of_left left
  constructor
  · intro fine extension' misleading
    obtain ⟨j, present, -, -⟩ := Visit.of_finding?_eq_none fine
    obtain ⟨row, checksum⟩ := libraryItem?_eq_some present
    exact (repaired.mem_items_iff.mp row).trusted md5 extension' checksum misleading
  · intro trusted
    have kept : Kept lib t w.files place i := by
      refine ⟨own.row, own.exists? repaired.leads, ?_⟩
      intro md5' extension' checksum
      obtain rfl : md5 = md5' := by simpa [own.checksum] using checksum
      exact trusted extension'
    have keyed : r₃.tables.Keyed := by
      have passed := repaired.beforeVisits.trans (passed_runVisits repaired.visits)
      apply repaired.links.keyed
      rw [advance_tables]
      exact passed.tables.keyed repaired.keyed
    obtain ⟨id', reached, content⟩ := own.content
    obtain rfl : id' = id := by simpa using reached.blob.file.symm.trans blob.file
    have opens := (clear_of_reached reached repaired.leads repaired.here left).1
    refine finding?_eq_none (keyed.libraryItem?_of_mem (repaired.mem_items_iff.mpr kept)
      own.checksum) (Files.stat_true_of_false opens (by simp)) ?_ own.named
    rw [repaired.toBytes isOpen]
    exact content

/-- An item that is kept finds its file where it was, if it is in its place. -/
theorem exists?_of_inPlace (repaired : Repaired lib observer t w w' report events place r₁ r₂ r₃)
    (kept : Kept lib t w.files place i) (inPlace : InPlace w.files place i) :
    w'.files.exists? (itemPath lib i) = true := by
  obtain ⟨md5, extension, id, checksum, named, blob⟩ := inPlace
  have there := kept.there
  rw [itemPath_eq_blobPath checksum named] at there ⊢
  obtain ⟨⟨location, node⟩, some⟩ := Option.isSome_iff_exists.mp there
  have found : w.files.stat (blobPath lib md5 extension) true = .ok (location, node) := by
    cases stat : w.files.stat (blobPath lib md5 extension) true with
    | error e => simp [stat, Except.toOption] at some
    | ok result => simpa [stat, Except.toOption] using some
  have reached : Reached lib w.files place md5 extension id :=
    ⟨blob, _, stat_blobPath_false repaired.leads blob found⟩
  have trusted (extension' : String) := kept.trusted md5 extension' checksum
  have content : Md5.checksum (w.files.dataOf id).content.toBytes = md5 := by
    by_contra wrong
    exact trusted extension ⟨id, reached, wrong⟩
  have right : Right lib t w.files place md5 extension :=
    ⟨⟨i, kept.row, checksum, named, id, reached, content⟩,
      fun extension' misleading => absurd misleading (trusted extension')⟩
  have opens := (clear_of_reached reached repaired.leads repaired.here
    (repaired.left_of_right blob right)).1
  exact Files.exists?_of_stat (Files.stat_true_of_false opens (by simp))

/-- Another verification finds nothing if and only if no file is orphaned, the tag for the whole library
is there, and every item that is kept still finds its file. -/
theorem faultless_iff (repaired : Repaired lib observer t w w' report events place r₁ r₂ r₃)
    (isOpen : lib.tables w.files = .ok t) :
    Faultless lib r₃.tables w' place ↔
      Tag.root ∈ r₃.tables.tags.map (·.name) ∧
      (∀ md5 extension, ¬Orphaned lib t w.files place md5 extension) ∧
      ∀ i, Kept lib t w.files place i → ¬InPlace w.files place i →
        w'.files.exists? (itemPath lib i) = true := by
  constructor
  · intro faultless
    refine ⟨faultless.counted.rooted, ?_, ?_⟩
    · rintro md5 extension ⟨right, extension', misleading⟩
      obtain ⟨i, own⟩ := right.own
      obtain ⟨id, reached, -⟩ := own.content
      have left := repaired.left_of_right reached.blob right
      have fine := faultless.visits _ (file_mem_visits.mpr ⟨id, left⟩)
      exact (repaired.fine_iff isOpen left).mp fine extension' misleading
    · intro i kept _
      exact faultless.items i (repaired.mem_items_iff.mpr kept)
  · rintro ⟨rooted, noOrphans, there⟩
    have within := repaired.within_start
    have agreeable : Agreeable observer (r₂.advance 100) :=
      ((passed_runVisits repaired.visits).later.trans (.advance r₂ 100)).agreeable
        (repaired.agreeable repaired.agrees)
    refine
      { leads := repaired.here
        items := fun i row => ?_
        visits := fun v membership => ?_
        listings := fun path membership => ?_
        anchored := repaired.links.anchored agreeable
        counted := ⟨rooted, repaired.links.counts agreeable⟩ }
    · have kept := repaired.mem_items_iff.mp row
      by_cases inPlace : InPlace w.files place i
      · exact repaired.exists?_of_inPlace kept inPlace
      · exact there i kept inPlace
    · have stands := stands_of_mem_visits membership
      cases v with
      | progress | listing => rfl
      | file md5 extension =>
          obtain ⟨id, left⟩ := stands
          obtain ⟨-, right⟩ := repaired.right_of_left left
          rw [repaired.fine_iff isOpen left]
          intro extension' misleading
          exact noOrphans md5 extension ⟨right, extension', misleading⟩
      | stale name =>
          -- no directory for aliases of another process is left
          have before : StaleDirectory w.files place w.process name :=
            ⟨repaired.process ▸ stands.owner, within.nodes _ _ stands.directory⟩
          have gone := repaired.files.gone _ (.stale before List.prefix_rfl)
          rw [← repaired.nodes_eq, stands.directory] at gone
          cases gone
    · have before := listing_mem_of_within within membership
      rw [repaired.process] at before
      exact list_of_usable repaired.here membership (usable_of_runVisits repaired.visits before)

end Repaired

/-- After a full repair, another verification is clean if and only if the library is still found, the tag
for the whole library was there or has been put in with new counts, no file is orphaned, and the items
whose files were reached elsewhere than in their places still find them. -/
theorem clean_after_repair_iff (isOpen : lib.tables w.files = .ok t) (keyed : t.Keyed)
    (leads : w.files.stat lib.base true = .ok (place, .directory))
    (agrees : ∀ history p, (observer history p).isYes = true)
    (done : (verify lib observer w).1.outcome = .ok report)
    (succeeded : removalsWanted (verify lib observer w).1.events = removalsDone report)
    (observer' : Observer) :
    Clean lib observer' (verify lib observer w).2 ↔
      (∃ found, (verify lib observer w).2.files.stat lib.base true = .ok found) ∧
      (Tag.root ∈ t.tags.map (·.name) ∨ report.tagCountsFixed = true) ∧
      (∀ md5 extension, ¬Orphaned lib t w.files place md5 extension) ∧
      ∀ i, Kept lib t w.files place i → ¬InPlace w.files place i →
        (verify lib observer w).2.files.exists? (itemPath lib i) = true := by
  obtain ⟨place', r₁, r₂, r₃, course⟩ := verified isOpen done
  obtain rfl : place = place' := by simpa [leads] using course.leads
  have noFailures : failures r₃ = 0 := by
    have wanted : removalsWanted r₃.history = removalsWanted (verify lib observer w).1.events := by
      rw [← course.events, removalsWanted, removalsWanted, List.countP_reverse]
    rw [failures, wanted, course.report, succeeded]
    omega
  rw [clean_iff_faultless course.tables]
  constructor
  · rintro ⟨place', faultless⟩
    have repaired : Repaired lib observer t w (verify lib observer w).2 report
        (verify lib observer w).1.events place r₁ r₂ r₃ :=
      ⟨course, keyed, agrees, noFailures, _, faultless.leads⟩
    obtain rfl : place = place' := by simpa [repaired.here] using faultless.leads
    obtain ⟨rooted, noOrphans, there⟩ := (repaired.faultless_iff isOpen).mp faultless
    exact ⟨⟨_, faultless.leads⟩, repaired.rooted_iff.mp rooted, noOrphans, there⟩
  · rintro ⟨stays, rooted, noOrphans, there⟩
    have repaired : Repaired lib observer t w (verify lib observer w).2 report
        (verify lib observer w).1.events place r₁ r₂ r₃ :=
      ⟨course, keyed, agrees, noFailures, stays⟩
    exact ⟨place, (repaired.faultless_iff isOpen).mpr
      ⟨repaired.rooted_iff.mpr rooted, noOrphans, there⟩⟩

end Repairs

/-- Has a verification gone well, with all the removals in it that were agreed to? -/
def wentWell (done : Verification) : Bool :=
  match done.outcome with
  | .ok report => removalsWanted done.events == removalsDone report
  | .error _ => false

theorem wentWell_iff {done : Verification} :
    wentWell done = true ↔
      ∃ report, done.outcome = .ok report ∧ removalsWanted done.events = removalsDone report := by
  unfold wentWell
  cases outcome : done.outcome with
  | ok report => simp
  | error e => simp

theorem silentWorld_verified :
    (fun done : Verification × World => wentWell done.1 &&
      (done.2.files.stat smallLibrary.base true).toOption.isSome)
        (verify smallLibrary (fun _ _ => .yes) silentWorld) = true := by
  decide +kernel

/-- With nothing wrong in the library, one verification after another is clean. -/
theorem silence_clean_again :
    wentWell (verify smallLibrary (fun _ _ => .yes) silentWorld).1 = true ∧
      ∀ observer, Clean smallLibrary observer
        (verify smallLibrary (fun _ _ => .yes) silentWorld).2 := by
  have verified := silentWorld_verified
  simp only [Bool.and_eq_true] at verified
  refine ⟨verified.1, ?_⟩
  intro observer
  obtain ⟨report, done, succeeded⟩ := wentWell_iff.mp verified.1
  rw [clean_after_repair_iff silentWorld_isOpen silentTables_keyed silentWorld_leads
    (fun _ _ => rfl) done succeeded]
  have only {i : Item} (row : i ∈ silentTables.libraryItems) : i = silence :=
    List.mem_singleton.mp (Tables.mem_libraryItems.mp row).1
  refine ⟨?_, .inl (by decide), ?_, ?_⟩
  · cases found : (verify smallLibrary (fun _ _ => .yes) silentWorld).2.files.stat
      smallLibrary.base true with
    | error e => simp [found, Except.toOption] at verified
    | ok result => exact ⟨result, rfl⟩
  · rintro md5 extension ⟨⟨⟨i, own⟩, -⟩, extension', misleading⟩
    obtain rfl := only own.row
    obtain rfl : silentMd5 = md5 := by simpa [silence] using own.checksum
    exact silentWorld_not_misleading extension' misleading
  · intro i kept elsewhere
    obtain rfl := only kept.row
    have naming : Naming silentMd5 "wav" :=
      ⟨by decide, by decide, List.all_eq_true.mp (by decide)⟩
    have inPlace : BlobFile silentWorld.files ["lib"] silentMd5 "wav" 1 := by
      refine ⟨naming, ?_, ?_, ?_⟩
      · rw [silence_placed.1]
        rfl
      · rw [silence_placed.1, silence_placed.2.1]
        rfl
      · rw [blobAt, silence_placed.1, silence_placed.2.1]
        rfl
    exact absurd ⟨silentMd5, "wav", 1, rfl, by decide, inPlace⟩ elsewhere

/-- A file of one byte comes after the file of the item. -/
def strayedWorld : World where
  process := 1
  files :=
    { silentWorld.files with
      nodes := silentWorld.files.nodes.insert (silentDirectory ++ [silentMd5 ++ ".wave"]) (.file 2)
      data := silentWorld.files.data.insert 2 ⟨.bytes ⟨#[1]⟩, 0⟩
      nextId := 3 }

theorem strayedWorld_verified :
    (fun done : Verification × World => wentWell done.1 &&
      ((verify smallLibrary (fun _ _ => .yes) done.2).1.outcome.toOption.map fun report =>
        report.issues) == some 1)
        (verify smallLibrary (fun _ _ => .yes) strayedWorld) = true := by
  decide +kernel

/-- After the other file and the item have gone together, the next verification finds the file of the
item. -/
theorem silence_not_clean_again :
    smallLibrary.tables strayedWorld.files = .ok silentTables ∧
      wentWell (verify smallLibrary (fun _ _ => .yes) strayedWorld).1 = true ∧
      ¬Clean smallLibrary (fun _ _ => .yes)
        (verify smallLibrary (fun _ _ => .yes) strayedWorld).2 := by
  have verified := strayedWorld_verified
  simp only [Bool.and_eq_true, beq_iff_eq] at verified
  refine ⟨rfl, verified.1, ?_⟩
  intro clean
  obtain ⟨report, done, noIssues⟩ := clean.done
  have issues := verified.2
  rw [done] at issues
  simp [Except.toOption, noIssues] at issues

end SampleLibrary.Verifier
