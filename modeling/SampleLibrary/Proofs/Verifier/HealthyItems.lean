import SampleLibrary.Proofs.Verifier.Judging

/-!
# What becomes of a healthy item

An item is healthy if the file in the place for it has its checksum. The second stage judges files one by
one, and looks an item up by the checksum in the name of a file alone. So a file beside the one of a
healthy item, with the same checksum in its name and another content, takes the item along when it is
removed. A healthy item is lost in this way, or because its file is reached under a name that is not its
own or in a directory for aliases of another process, and in no other way (`healthy_spared_or_lost`).
-/

namespace SampleLibrary.Verifier

/-- The file of an item is there and has the checksum of the item. -/
structure Healthy (lib : Library) (t : Tables) (fs : Files) (i : Item) (md5 : String)
    (spot : Location) (id : Nat) (data : ByteArray) : Prop where
  row : i ∈ t.libraryItems
  checksum : i.cell .md5 = .text md5
  digits : isHexName 32 md5 = true
  file : fs.stat (itemPath lib i) false = .ok (spot, .file id)
  content : (fs.dataOf id).content = .bytes data
  right : Md5.checksum data = md5

/-- The item and its file are as they were. -/
structure Spared (lib : Library) (fs : Files) (i : Item) (spot : Location) (id : Nat)
    (data : ByteArray) : Prop where
  row : ∃ t, lib.tables fs = .ok t ∧ i ∈ t.libraryItems
  file : fs.nodes[spot]? = some (.file id)
  content : (fs.dataOf id).content = .bytes data

/-- What makes a verification take a healthy item away, if that is agreed to. -/
inductive Threatened (lib : Library) (w : World) (place : Location) (i : Item) (md5 : String)
    (spot : Location) : Prop where
  /-- A file with the checksum in its name has another content. -/
  | misleading {extension : String} : Misleading lib w.files place md5 extension →
      Threatened lib w place i md5 spot
  /-- The file of the item is in the place for another checksum or extension. -/
  | misnamed {md5' extension : String} {id : Nat} : Reached lib w.files place md5' extension id →
      blobAt place md5' extension = spot →
      (md5' = md5 → Blob.extension (i.text? .format) ≠ "." ++ extension) →
      Threatened lib w place i md5 spot
  /-- The file of the item is in the directory for the aliases of another process. -/
  | stale {name : String} : StaleDirectory w.files place w.process name →
      (∃ found, w.files.stat (Path.below lib.base name) false = .ok found) →
      place ++ [name] <+: spot → Threatened lib w place i md5 spot

section Sparing

variable {lib : Library} {observer : Observer} {t : Tables} {w : World} {place : Location}
  {i : Item} {md5 : String} {spot : Location} {id : Nat} {data : ByteArray} {report : Report}
  {v : Visit} {r r' : Run}

theorem Healthy.nodes (healthy : Healthy lib t w.files i md5 spot id data) :
    w.files.nodes[spot]? = some (.file id) :=
  Files.nodes_of_stat healthy.file (by simp)

/-- A visit leaves the file of a healthy item alone, unless the item is threatened. -/
theorem threatened_of_takes (healthy : Healthy lib t w.files i md5 spot id data)
    (leads : w.files.stat lib.base true = .ok (place, .directory))
    (within : r.files.Within w.files) (sameData : r.files.data = w.files.data)
    (present : r.tables.libraryItem? md5 = some i) (stands : v.Stands w.files place w.process)
    {p : Problem} {gone : List Int} (found : v.finding? lib r.tables r.files = some (p, gone))
    (cleared : v.Cleared lib gone r r') (takes : v.Takes place spot) :
    Threatened lib w place i md5 spot := by
  cases v with
  | progress | listing => exact takes.elim
  | file md5' extension =>
      obtain rfl : spot = blobAt place md5' extension := takes
      obtain ⟨id', blob⟩ := stands
      obtain ⟨opens, reached⟩ := opens_of_clear leads within blob cleared.files
      apply Threatened.misnamed reached rfl
      rintro rfl named
      -- the file is the one of the item, and nothing is wrong with it
      obtain rfl : id' = id := by
        have same := blob.file.symm.trans healthy.nodes
        simpa using same
      have right : Md5.checksum (r.files.dataOf id').content.toBytes = md5' := by
        rw [Files.dataOf_congr sameData, healthy.content]
        exact healthy.right
      rw [finding?_eq_none present opens right named] at found
      cases found
  | stale name =>
      apply Threatened.stale stands _ takes
      cases opens : r.files.stat (Path.below lib.base name) false with
      | error e =>
          have removed := cleared.files
          simp [Visit.clear, Files.removeTree, opens] at removed
      | ok found => exact ⟨found, within.stat opens⟩

/-- The item and its file are still there. -/
def StillThere (i : Item) (spot : Location) (id : Nat) (r : Run) : Prop :=
  i ∈ r.tables.libraryItems ∧ r.files.nodes[spot]? = some (.file id)

/-- A visit leaves a healthy item alone that is not threatened. -/
theorem stillThere_of_taken (healthy : Healthy lib t w.files i md5 spot id data)
    (leads : w.files.stat lib.base true = .ok (place, .directory))
    (safe : ¬Threatened lib w place i md5 spot)
    (within : r.files.Within w.files) (sameData : r.files.data = w.files.data)
    (keyed : r.tables.Keyed) (stands : v.Stands w.files place w.process)
    (taken : v.Taken lib observer r r') (there : StillThere i spot id r) :
    StillThere i spot id r' := by
  constructor
  · rcases taken.kept_or_misleading leads within sameData keyed stands there.1 healthy.checksum
      with kept | ⟨extension, -, misleading⟩
    · exact kept
    · exact absurd (.misleading misleading) safe
  · rcases taken.effect with ⟨-, same⟩ | ⟨p, gone, found, cleared⟩
    · rw [same]
      exact there.2
    · rw [(stands.cleared leads within cleared.files).kept]
      · exact there.2
      · intro takes
        have present := keyed.libraryItem?_of_mem there.1 healthy.checksum
        exact safe (threatened_of_takes healthy leads within sameData present stands found cleared
          takes)

/-- A healthy item that is not threatened is spared, whatever is answered. -/
theorem spared_of_not_threatened (isOpen : lib.tables w.files = .ok t) (keyed : t.Keyed)
    (healthy : Healthy lib t w.files i md5 spot id data)
    (leads : w.files.stat lib.base true = .ok (place, .directory))
    (safe : ¬Threatened lib w place i md5 spot)
    (done : (verify lib observer w).1.outcome = .ok report) :
    Spared lib (verify lib observer w).2.files i spot id data := by
  obtain ⟨place', r₁, r₂, r₃, course⟩ := verified isOpen done
  obtain rfl : place = place' := by simpa [leads] using course.leads
  have exists' := Files.exists?_of_stat (Files.stat_true_of_false healthy.file (by simp))
  have start : StillThere i spot id (r₁.nextStage "Checking files") := by
    refine ⟨course.checked.kept keyed i healthy.row exists', ?_⟩
    rw [nextStage_files, course.checked.files]
    exact healthy.nodes
  have ended : StillThere i spot id r₂ := by
    apply runVisits_keeps (StillThere i spot id) start _ course.visits
    intro v membership r r' passed taken there
    have moment := course.beforeVisits.trans passed
    exact stillThere_of_taken healthy leads safe moment.later.files moment.later.data
      (moment.tables.keyed keyed) (stands_of_mem_visits membership) taken there
  refine ⟨⟨r₃.tables, course.tables, ?_⟩, ?_, ?_⟩
  · rw [Tables.libraryItems, course.items]
    exact ended.1
  · rw [course.nodes, course.links.files, advance_files]
    exact ended.2
  · rw [course.data, healthy.content]
    -- the database is no file of bytes
    rintro rfl
    have content := (Library.tables_eq_ok_iff.mp isOpen).2
    rw [healthy.content] at content
    cases content

/-- Each threat comes true in the visit to a certain file or directory. -/
theorem visit_of_threatened (healthy : Healthy lib t w.files i md5 spot id data)
    (leads : w.files.stat lib.base true = .ok (place, .directory))
    (threat : Threatened lib w place i md5 spot) :
    ∃ v ∈ visits lib w.files place w.process, ∀ start r r' final,
      Moment lib observer place w.process v start r r' final → Agreeable observer start →
      r.files.stat lib.base true = .ok (place, .directory) → r.files.Within w.files →
      r.files.data = w.files.data → r.tables.Keyed →
      StillThere i spot id r → ¬StillThere i spot id r' := by
  cases threat with
  | @misleading extension misleading =>
      have isMisleading := misleading
      obtain ⟨id', reached, wrong⟩ := misleading
      refine ⟨_, file_mem_visits.mpr ⟨id', reached.blob⟩, ?_⟩
      intro start r r' final moment agreeable now within sameData keyed before after
      obtain ⟨id'', still⟩ := moment.stands
      have present := keyed.libraryItem?_of_mem before.1 healthy.checksum
      obtain ⟨p, found⟩ := finding?_of_misleading leads within sameData isMisleading present
      have cleared := moment.cleared agreeable found (clear_of_reached reached leads now still).2
      have gone := (Tables.mem_libraryItems.mp after.1).1
      rw [cleared.tables, Tables.mem_deleteItems_items] at gone
      exact gone.2 (List.mem_singleton.mpr rfl)
  | @misnamed md5' extension id' reached same foreign =>
      have stands : (Visit.file md5' extension).Stands w.files place w.process :=
        ⟨id', reached.blob⟩
      refine ⟨_, file_mem_visits.mpr stands, ?_⟩
      intro start r r' final moment agreeable now within sameData keyed before after
      obtain ⟨id'', still⟩ := moment.stands
      obtain rfl : id'' = id := by
        have isFile := still.file.symm.trans (same ▸ before.2)
        simpa using isFile
      obtain ⟨opens, possible⟩ := clear_of_reached reached leads now still
      have wrong : (Visit.file md5' extension).finding? lib r.tables r.files ≠ none := by
        intro fine
        obtain ⟨j, present, right, named⟩ := Visit.of_finding?_eq_none fine
        rw [contentProblem?_of_stat j.id (Files.stat_true_of_false opens (by simp)),
          Files.dataOf_congr sameData, healthy.content] at right
        have checksum : Md5.checksum data = md5' := by simpa [Content.toBytes] using right
        obtain rfl : md5 = md5' := healthy.right.symm.trans checksum
        rw [keyed.libraryItem?_of_mem before.1 healthy.checksum] at present
        cases present
        exact foreign rfl named
      obtain ⟨⟨p, gone⟩, found⟩ := Option.ne_none_iff_exists'.mp wrong
      have cleared := moment.cleared agreeable found possible
      have none' := (stands.cleared leads within cleared.files).gone spot same.symm
      rw [after.2] at none'
      cases none'
  | @stale name stale opens inside =>
      have stands : (Visit.stale name).Stands w.files place w.process := stale
      refine ⟨_, stale_mem_visits.mpr stands, ?_⟩
      intro start r r' final moment agreeable now within sameData keyed before after
      have cleared := moment.cleared agreeable rfl
        (clear_of_stale stale opens leads now moment.stands.directory)
      have none' := (stands.cleared leads within cleared.files).gone spot inside
      rw [after.2] at none'
      cases none'

/-- A healthy item that is threatened is lost if all is agreed to, as long as its library is still found
afterwards. -/
theorem lost_of_threatened (isOpen : lib.tables w.files = .ok t) (keyed : t.Keyed)
    (healthy : Healthy lib t w.files i md5 spot id data)
    (leads : w.files.stat lib.base true = .ok (place, .directory))
    (threat : Threatened lib w place i md5 spot)
    (agrees : ∀ history p, (observer history p).isYes = true)
    (done : (verify lib observer w).1.outcome = .ok report)
    (stays : ∃ found, (verify lib observer w).2.files.stat lib.base true = .ok found) :
    ¬Spared lib (verify lib observer w).2.files i spot id data := by
  obtain ⟨place', r₁, r₂, r₃, course⟩ := verified isOpen done
  obtain rfl : place = place' := by simpa [leads] using course.leads
  intro spared
  have until' {r : Run} (after : Passed observer r r₂) : StillThere i spot id r := by
    constructor
    · obtain ⟨t', isTables, row⟩ := spared.row
      rw [course.tables] at isTables
      cases isTables
      apply after.tables.libraryItems
      rw [Tables.libraryItems, ← course.items]
      exact row
    · exact (course.within.trans after.later.files).nodes spot _ spared.file
  obtain ⟨v, membership, loses⟩ := visit_of_threatened healthy leads threat
  have sameStart : (r₁.nextStage "Checking files").files = w.files := course.checked.files
  rcases moment (by rw [sameStart]; exact leads)
    (by rw [sameStart]; exact fun v => stands_of_mem_visits) course.visits membership
    with ⟨-, -, r, r', -, -, -, -, moment⟩
  have since := moment.taken.passed.trans moment.after
  have earlier := course.beforeVisits.trans moment.before
  have now : r.files.stat lib.base true = .ok (place, .directory) := by
    obtain ⟨⟨location, node⟩, found⟩ := stays
    have now := (course.within.trans since.later.files).stat found
    have before := earlier.later.files.stat now
    rw [show (startOf t w).files = w.files from rfl, leads] at before
    cases before
    exact now
  exact loses _ r r' r₂ moment (course.agreeable agrees) now earlier.later.files earlier.later.data
    (earlier.tables.keyed keyed) (until' since) (until' moment.after)

/-- A healthy item whose file is in its own place is threatened by misleading files only. -/
theorem threatened_iff_misleading (digits : isHexName 32 md5 = true)
    (inPlace : spot =
      place ++ [firstPart md5, secondPart md5, Blob.fileName md5 (i.text? .format)]) :
    Threatened lib w place i md5 spot ↔
      ∃ extension, Misleading lib w.files place md5 extension := by
  constructor
  · intro threat
    subst inPlace
    cases threat with
    | misleading misleading => exact ⟨_, misleading⟩
    | @misnamed md5' extension id reached same foreign =>
        simp only [blobAt, List.append_cancel_left_eq, List.cons.injEq, and_true] at same
        have names := congrArg String.toList same.2.2
        rw [toList_blobName, Blob.fileName, String.toList_append] at names
        have sizes : md5'.toList.length = md5.toList.length := by
          rw [(isHexName_iff.mp reached.blob.naming.digits).1, (isHexName_iff.mp digits).1]
        obtain ⟨sameMd5, sameExtension⟩ := List.append_inj names sizes
        exfalso
        apply foreign (String.toList_inj.mp sameMd5)
        rw [← String.toList_inj, ← sameExtension, String.toList_append]
        rfl
    | @stale name stale opens inside =>
        obtain ⟨owner, owned, -⟩ := stale.owner
        rw [List.prefix_append_right_inj, List.cons_prefix_cons] at inside
        rw [inside.1, tmpProcess?_of_isHexName (isHexName_parts digits).1] at owned
        cases owned
  · rintro ⟨extension, misleading⟩
    exact .misleading misleading

/-- A healthy item and its file are spared by every verification that does not fail, unless the item
is threatened. If it is, a verification in which all is agreed to takes one or the other away, as long
as the library is still found afterwards. -/
theorem healthy_spared_or_lost (isOpen : lib.tables w.files = .ok t) (keyed : t.Keyed)
    (healthy : Healthy lib t w.files i md5 spot id data)
    (leads : w.files.stat lib.base true = .ok (place, .directory)) :
    (¬Threatened lib w place i md5 spot → ∀ observer report,
      (verify lib observer w).1.outcome = .ok report →
        Spared lib (verify lib observer w).2.files i spot id data) ∧
    (Threatened lib w place i md5 spot → ∀ observer report,
      (∀ history p, (observer history p).isYes = true) →
      (verify lib observer w).1.outcome = .ok report →
      (∃ found, (verify lib observer w).2.files.stat lib.base true = .ok found) →
        ¬Spared lib (verify lib observer w).2.files i spot id data) := by
  constructor
  · intro safe observer report done
    exact spared_of_not_threatened isOpen keyed healthy leads safe done
  · intro threat observer report agrees done stays
    exact lost_of_threatened isOpen keyed healthy leads threat agrees done stays

end Sparing

/-! ## A library with one item -/

/-- The checksum of no bytes. -/
def silentMd5 : String := "d41d8cd98f00b204e9800998ecf8427e"

/-- An item whose file is empty. -/
def silence : Item where
  id := 1
  workplace := .empty
  cell := fun
    | .md5 => .text silentMd5
    | .format => .text "WAV"
    | _ => .empty

/-- Tables with this item only. -/
def silentTables : Tables where
  version := .version Tables.currentVersion
  items := [silence]
  tags := [⟨1, Tag.root, 1⟩]
  numbering := { items := 1, tags := 1 }

/-- A library in the directory `lib`. -/
def smallLibrary : Library where
  base := "lib"
  place := ["lib", "database.db"]
  database := 0
  tmpDir := "lib/tmp.1.0"

/-- The directory for the file of the item. -/
def silentDirectory : Location := ["lib", "d", "41"]

/-- The place of the file of the item. -/
def silentSpot : Location := silentDirectory ++ [silentMd5 ++ ".wav"]

/-- The library with the item and its file. -/
def silentWorld : World where
  process := 1
  files :=
    { nodes := .ofList
        ([(["lib"], .directory), (["lib", "database.db"], .file 0), (["lib", "d"], .directory),
          (silentDirectory, .directory), (silentSpot, .file 1)] : List (Location × Node))
      data := .ofList
        ([(0, ⟨.database silentTables, 0⟩), (1, ⟨.bytes .empty, 0⟩)] : List (Nat × FileData))
      nextId := 2
      clock := 0
      working := [] }

/-- The same with a file of one byte beside the file of the item, under the name for another format. -/
def misledWorld : World where
  process := 1
  files :=
    { silentWorld.files with
      nodes := silentWorld.files.nodes.insert (silentDirectory ++ [silentMd5 ++ ".aiff"]) (.file 2)
      data := silentWorld.files.data.insert 2 ⟨.bytes ⟨#[1]⟩, 0⟩
      nextId := 3 }

theorem silentTables_keyed : silentTables.Keyed where
  itemIds := by decide
  checksums := by decide
  checksumTexts i membership := by
    obtain rfl := List.mem_singleton.mp membership
    exact ⟨silentMd5, rfl⟩
  tagIds := by decide
  tagNames := by decide
  tagNumbers r membership := by
    obtain rfl := List.mem_singleton.mp membership
    decide
  links := by decide

theorem silence_placed :
    firstPart silentMd5 = "d" ∧ secondPart silentMd5 = "41" ∧
      itemPath smallLibrary silence = "lib/d/41/d41d8cd98f00b204e9800998ecf8427e.wav" := by
  decide +kernel

theorem silence_healthy {fs : Files}
    (there : fs.stat (itemPath smallLibrary silence) false = .ok (silentSpot, .file 1))
    (content : (fs.dataOf 1).content = .bytes .empty) :
    Healthy smallLibrary silentTables fs silence silentMd5 silentSpot 1 .empty where
  row := by simp [silentTables, Tables.libraryItems, silence, Item.inLibrary]
  checksum := rfl
  digits := by decide
  file := there
  content := content
  right := by decide +kernel

theorem silentWorld_isOpen : smallLibrary.tables silentWorld.files = .ok silentTables := rfl

theorem silentWorld_leads :
    silentWorld.files.stat smallLibrary.base true = .ok (["lib"], .directory) := rfl

theorem silentWorld_healthy :
    Healthy smallLibrary silentTables silentWorld.files silence silentMd5 silentSpot 1 .empty :=
  silence_healthy (by rw [silence_placed.2.2]; rfl) rfl

/-- The file of the item is the only one there. -/
theorem silentWorld_not_misleading (extension : String) :
    ¬Misleading smallLibrary silentWorld.files ["lib"] silentMd5 extension := by
  rintro ⟨id, reached, wrong⟩
  have file := reached.blob.file
  have directory : blobAt ["lib"] silentMd5 extension =
      silentDirectory ++ [blobName silentMd5 extension] := by
    rw [blobAt, silence_placed.1, silence_placed.2.1]
    rfl
  have files : silentWorld.files.children silentDirectory =
      [(silentMd5 ++ ".wav", .file 1)] := rfl
  rw [directory, ← Files.mem_children, files, List.mem_singleton, Prod.mk.injEq,
    Node.file.injEq] at file
  obtain ⟨-, rfl⟩ := file
  apply wrong
  rw [silentWorld_healthy.content]
  exact silentWorld_healthy.right

/-- Without another file beside it, the item is spared. -/
theorem silence_spared :
    smallLibrary.tables silentWorld.files = .ok silentTables ∧ silentTables.Keyed ∧
      Healthy smallLibrary silentTables silentWorld.files silence silentMd5 silentSpot 1 .empty ∧
      silentWorld.files.stat smallLibrary.base true = .ok (["lib"], .directory) ∧
      ∀ observer report, (verify smallLibrary observer silentWorld).1.outcome = .ok report →
        Spared smallLibrary (verify smallLibrary observer silentWorld).2.files silence silentSpot 1
          .empty := by
  refine ⟨silentWorld_isOpen, silentTables_keyed, silentWorld_healthy, silentWorld_leads, ?_⟩
  apply (healthy_spared_or_lost silentWorld_isOpen silentTables_keyed silentWorld_healthy
    silentWorld_leads).1
  have inPlace : silentSpot = ["lib"] ++
      [firstPart silentMd5, secondPart silentMd5, Blob.fileName silentMd5 (silence.text? .format)] := by
    rw [silence_placed.1, silence_placed.2.1]
    rfl
  rw [threatened_iff_misleading silentWorld_healthy.digits inPlace]
  rintro ⟨extension, misleading⟩
  exact silentWorld_not_misleading extension misleading

theorem misledWorld_verified :
    (fun done : Verification × World => done.1.outcome.toOption.isSome &&
      ((smallLibrary.tables done.2.files).toOption.map fun t => t.items.length) == some 0)
        (verify smallLibrary (fun _ _ => .yes) misledWorld) = true := by
  decide +kernel

/-- With another file beside it, the item is taken away. -/
theorem silence_not_spared :
    Healthy smallLibrary silentTables misledWorld.files silence silentMd5 silentSpot 1 .empty ∧
      (verify smallLibrary (fun _ _ => .yes) misledWorld).1.outcome.toOption.isSome = true ∧
      ¬Spared smallLibrary (verify smallLibrary (fun _ _ => .yes) misledWorld).2.files silence
        silentSpot 1 .empty := by
  have done := misledWorld_verified
  simp only [Bool.and_eq_true, beq_iff_eq] at done
  refine ⟨silence_healthy (by rw [silence_placed.2.2]; rfl) rfl, done.1, ?_⟩
  rintro ⟨⟨t, isTables, row⟩, -, -⟩
  have left := done.2
  rw [isTables] at left
  have empty : t.items = [] := by simpa [Except.toOption] using left
  simp [Tables.libraryItems, empty] at row

end SampleLibrary.Verifier
