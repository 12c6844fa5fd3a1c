import SampleLibrary.Proofs.Verifier.HealthyItems
import SampleLibrary.Proofs.Verifier.Settled

/-!
# What a verification changes

A verification that goes well has done what was agreed to and could be done, and the numbers in its report
are the numbers of rows, files and directories that are gone (`effects_exact`). Files of the database, the
directories of the own process and files that are misnamed or misplaced are left alone whatever is
answered (`Protected`).
-/

namespace SampleLibrary

namespace Tables

/-- Items that are there and are listed once each are as many fewer when they are deleted. -/
theorem Keyed.length_deleteItems {t : Tables} {ids : List Int} (keyed : t.Keyed) (distinct : ids.Nodup)
    (present : ∀ id ∈ ids, t.hasItem id = true) :
    (t.deleteItems ids).items.length + ids.length = t.items.length := by
  have left : (t.deleteItems ids).items = t.items.filter fun i => !ids.contains i.id := by
    rw [deleteItems_eq]
    apply List.filter_congr
    intro i row
    have there : (t.items.any fun j => j.id == i.id) = true := hasItem_iff.mpr ⟨i, row, rfl⟩
    rw [isMeant, there, Bool.and_true]
  have gone : ((t.items.filter fun i => ids.contains i.id).map (·.id)).Perm ids := by
    have nodup : ((t.items.filter fun i => ids.contains i.id).map (·.id)).Nodup :=
      keyed.itemIds.sublist (List.filter_sublist.map _)
    apply (List.perm_ext_iff_of_nodup nodup distinct).mpr
    intro id
    constructor
    · intro membership
      obtain ⟨i, isGone, rfl⟩ := List.mem_map.mp membership
      simpa using (List.mem_filter.mp isGone).2
    · intro membership
      obtain ⟨i, row, rfl⟩ := hasItem_iff.mp (present id membership)
      exact List.mem_map_of_mem (List.mem_filter.mpr ⟨row, by simpa using membership⟩)
  have all := List.length_eq_length_filter_add (l := t.items) fun i => ids.contains i.id
  have same := gone.length_eq
  rw [List.length_map] at same
  rw [left]
  omega

end Tables

namespace Verifier

/-! ## How many items are left -/

/-- From one run to another as many items have gone as have been counted. -/
def Balanced (r r' : Run) : Prop :=
  r'.tables.items.length + r'.report.itemsRemoved = r.tables.items.length + r.report.itemsRemoved

section Balance

variable {lib : Library} {observer : Observer} {t : Tables} {fs : Files} {v : Visit} {r r' r'' : Run}
  {p : Problem} {gone : List Int}

theorem Balanced.trans (first : Balanced r r') (second : Balanced r' r'') : Balanced r r'' :=
  Eq.trans second first

theorem Balanced.of_eq (items : r'.tables.items = r.tables.items)
    (removed : r'.report.itemsRemoved = r.report.itemsRemoved) : Balanced r r' := by
  unfold Balanced
  rw [items, removed]

theorem balanced_advance (r : Run) (percent : Nat) : Balanced r (r.advance percent) :=
  .of_eq (by rw [advance_tables]) (by rw [advance_report])

theorem balanced_removeItems {ids : List Int} (keyed : r.tables.Keyed) (distinct : ids.Nodup)
    (present : ∀ id ∈ ids, r.tables.hasItem id = true) (done : removeItems lib ids r = .ok r') :
    Balanced r r' := by
  obtain ⟨-, -, tables, removals, -⟩ := removeItems_eq_ok done
  have removed : r'.report.itemsRemoved = r.report.itemsRemoved + ids.length :=
    congrArg (fun counts => counts.1) removals
  have left := keyed.length_deleteItems distinct present
  unfold Balanced
  rw [tables, removed]
  omega

theorem balanced_checkItems (keyed : r.tables.Keyed) (done : checkItems lib observer r = .ok r') :
    Balanced r r' := by
  obtain ⟨r₁, gone, talk, -, -, sub, -, equation⟩ := checkItems_eq lib observer r
  rw [equation] at done
  obtain ⟨r₂, removed, last⟩ := ok_of_bind done
  cases last
  have listed : gone.Sublist ((itemsInOrder r.tables).map (·.id)) :=
    sub.trans (List.filter_sublist.map _)
  have talked : Balanced r r₁ := .of_eq (by rw [talk.tables]) (by rw [talk.report])
  have ids := (nodup_itemsInOrder keyed).sublist listed
  refine (talked.trans (balanced_removeItems (talk.tables ▸ keyed) ids ?_ removed)).trans
    (balanced_advance r₂ 100)
  intro id isGone
  obtain ⟨i, inOrder, rfl⟩ := List.mem_map.mp (listed.subset isGone)
  rw [talk.tables]
  exact Tables.hasItem_iff.mpr ⟨i, (Tables.mem_libraryItems.mp (mem_itemsInOrder.mp inOrder)).1, rfl⟩

/-- An item that is to go with its file is there. -/
theorem hasItem_of_finding? {item : Int} (found : v.finding? lib t fs = some (p, gone))
    (named : p.item? = some item) : t.hasItem item = true := by
  obtain ⟨repair, finds⟩ := Visit.finds_of_finding? found
  cases finds with
  | stale | unknown | misnamed => cases named
  | @invalid md5 extension i _ present problem =>
      have ofItem : p.item? = some i.id := by
        cases isInvalid_of_contentProblem? problem <;> rfl
      cases ofItem.symm.trans named
      have row := Tables.mem_libraryItems.mp (libraryItem?_eq_some present).1
      exact Tables.hasItem_iff.mpr ⟨i, row.1, rfl⟩

theorem Settles.balanced (settles : Settles p r r') (isOfStore : p.IsOfStore) (keyed : r.tables.Keyed)
    (present : ∀ id, p.item? = some id → r.tables.hasItem id = true) : Balanced r r' := by
  cases cleared : p.clear r.files with
  | error e =>
      rw [settles.failed e cleared]
      rfl
  | ok files =>
      obtain ⟨-, tables, removals⟩ := settles.done files cleared
      have removed : r'.report.itemsRemoved = r.report.itemsRemoved + p.item?.toList.length :=
        congrArg (fun counts => counts.1) removals
      have distinct : p.item?.toList.Nodup := by cases p.item? <;> simp
      have left := keyed.length_deleteItems distinct (by simpa using present)
      unfold Balanced
      rw [tables, isOfStore.change_eq, removed]
      omega

theorem balanced_step (keyed : r.tables.Keyed) (done : v.step lib observer r = .ok r') :
    Balanced r r' := by
  obtain ⟨-, tables, -, report, -⟩ | ⟨p, gone, repair, found, offered, settles⟩ :=
    Visit.step_offers done
  · exact .of_eq (by rw [tables]) (by rw [report])
  · have talk := talk_ask observer r p
    have talked : Balanced r (r.ask observer p).2 := .of_eq (by rw [talk.tables]) (by rw [talk.report])
    rcases offer_cases offered with ⟨-, repaired⟩ | ⟨-, rfl⟩
    · refine talked.trans ((settles _ r' repaired).balanced (.inr (kind_of_finding? found))
        (talk.tables ▸ keyed) ?_)
      intro id named
      rw [talk.tables]
      exact hasItem_of_finding? found named
    · exact talked

theorem balanced_runVisits {vs : List Visit} (keyed : r.tables.Keyed)
    (done : runVisits lib observer vs r = .ok r') : Balanced r r' := by
  apply runVisits_steps (Balanced r) rfl _ done
  intro v _ r₁ r₂ passed step balanced
  exact balanced.trans (balanced_step (passed.tables.keyed keyed) step)

end Balance

/-! ## What is left alone -/

/-- The files that belong to a database, by what follows the name of the database. -/
def databaseSuffixes : List String := ["", "-journal", "-wal", "-shm"]

/-- What no answer puts at risk in the directory of a library. -/
inductive Protected (place : Location) (process : Nat) : Location → Prop where
  /-- a file of the database -/
  | database {suffix : String} : suffix ∈ databaseSuffixes →
      Protected place process (place ++ [Library.databaseName ++ suffix])
  /-- a directory for aliases of the process itself, and everything in it -/
  | own {name : String} {below : List String} : IsOwn process name →
      Protected place process (place ++ name :: below)
  /-- what is neither in a directory for checksums nor in one for aliases -/
  | unexpected {name : String} {below : List String} : isHexName 1 name = false →
      tmpProcess? name = none → Protected place process (place ++ name :: below)
  /-- a file that is not named after a checksum -/
  | misnamed {first second name : String} : isHexName 1 first = true → blobName? name = none →
      Protected place process (place ++ [first, second, name])
  /-- a file that is named after a checksum and in a directory for others -/
  | misplaced {first second name md5 extension : String} : isHexName 1 first = true →
      blobName? name = some (md5, extension) → (firstPart md5, secondPart md5) ≠ (first, second) →
      Protected place process (place ++ [first, second, name])

section Sparing

variable {fs : Files} {place location : Location} {process : Nat}

theorem not_isHexName_of_isOwn {name : String} (own : IsOwn process name) :
    isHexName 1 name = false := by
  have long : 4 ≤ name.toList.length := by
    obtain rfl | ⟨opened, rfl⟩ := own <;> simp [Library.tmpName, Library.tmpStart]
  rw [Bool.eq_false_iff]
  intro digits
  have short := (isHexName_iff.mp digits).1
  omega

theorem unexpected_database {suffix : String} (isSuffix : suffix ∈ databaseSuffixes) :
    isHexName 1 (Library.databaseName ++ suffix) = false ∧
      tmpProcess? (Library.databaseName ++ suffix) = none := by
  revert suffix
  decide +kernel

theorem Protected.ne_blobAt (isProtected : Protected place process location) {md5 extension : String}
    {id : Nat} (blob : BlobFile fs place md5 extension id) : location ≠ blobAt place md5 extension := by
  have digits := (isHexName_parts blob.naming.digits).1
  intro same
  cases isProtected with
  | database => exact blobAt_ne_append_singleton same.symm
  | own own =>
      simp only [blobAt, List.append_cancel_left_eq, List.cons.injEq] at same
      rw [← same.1, not_isHexName_of_isOwn own] at digits
      cases digits
  | unexpected other =>
      simp only [blobAt, List.append_cancel_left_eq, List.cons.injEq] at same
      rw [← same.1, other] at digits
      cases digits
  | misnamed _ other =>
      simp only [blobAt, List.append_cancel_left_eq, List.cons.injEq, and_true] at same
      rw [same.2.2, blobName?_eq_some.mpr ⟨rfl, blob.naming⟩] at other
      cases other
  | misplaced _ named elsewhere =>
      simp only [blobAt, List.append_cancel_left_eq, List.cons.injEq, and_true] at same
      obtain ⟨rfl, rfl, rfl⟩ := same
      rw [blobName?_eq_some.mpr ⟨rfl, blob.naming⟩] at named
      cases named
      exact elsewhere rfl

theorem Protected.not_inside (isProtected : Protected place process location) {name : String}
    (stale : StaleDirectory fs place process name) : ¬place ++ [name] <+: location := by
  obtain ⟨owner, owned, foreign⟩ := stale.owner
  intro inside
  cases isProtected with
  | database isSuffix =>
      rw [List.prefix_append_right_inj, List.cons_prefix_cons] at inside
      rw [inside.1, (unexpected_database isSuffix).2] at owned
      cases owned
  | own own =>
      rw [List.prefix_append_right_inj, List.cons_prefix_cons] at inside
      exact foreign (own.owner_eq (inside.1 ▸ owned))
  | unexpected _ other =>
      rw [List.prefix_append_right_inj, List.cons_prefix_cons] at inside
      rw [inside.1, other] at owned
      cases owned
  | misnamed digits | misplaced digits =>
      rw [List.prefix_append_right_inj, List.cons_prefix_cons] at inside
      rw [inside.1, tmpProcess?_of_isHexName digits] at owned
      cases owned

/-- What is protected goes with no problem that can come up. -/
theorem Protected.not_removed {lib : Library} {t : Tables} {qs : List (Problem × Answer)}
    (isProtected : Protected place process location)
    (placed : ∀ q ∈ qs, q.1.Placed lib fs place process)
    (leads : fs.stat lib.base true = .ok (place, .directory)) :
    ¬∃ p ∈ (carryOut t fs qs).settled, p.Removes fs location := by
  rintro ⟨p, settled, removes⟩
  obtain ⟨_, _, _, _, _, blob, same, -⟩ | ⟨_, _, _, stale, inside, -⟩ :=
    (placed_of_settled placed settled).removes leads removes
  · exact isProtected.ne_blobAt blob same
  · exact isProtected.not_inside stale inside

end Sparing

/-! ## The whole verification -/

/-- What a verification has changed, told from the questions with their answers. -/
structure Effects (lib : Library) (process : Nat) (place : Location) (t t' : Tables) (fs fs' : Files)
    (qs : List (Problem × Answer)) (report : Report) (settled : List Problem) : Prop where
  /-- The problems that were settled are those whose repair was agreed to and could be done. -/
  settled_iff : ∀ p, p ∈ settled ↔ ∃ earlier a later, qs = earlier ++ (p, a) :: later ∧
    a.isYes = true ∧ ∃ files, p.clear (carryOut t fs earlier).files = .ok files
  /-- The rows of items that are gone are those of items in settled problems. -/
  items : ∀ i, i ∈ t'.items ↔ i ∈ t.items ∧ ∀ p ∈ settled, p.item? ≠ some i.id
  /-- Nothing else has changed in the tables, but for the counters if items were removed. -/
  tables : t' = if report.itemsRemoved = 0 then (carryOut t fs qs).tables
    else (carryOut t fs qs).tables.recount
  /-- The files and directories that are gone are those that settled problems name. -/
  gone : ∀ location, (∃ p ∈ settled, p.Removes fs location) → fs'.nodes[location]? = none
  kept : ∀ location, (¬∃ p ∈ settled, p.Removes fs location) →
    fs'.nodes[location]? = fs.nodes[location]?
  contents : ∀ id, id ≠ lib.database → fs'.dataOf id = fs.dataOf id
  spared : ∀ location, Protected place process location →
    fs'.nodes[location]? = fs.nodes[location]?
  itemsRemoved : t'.items.length + report.itemsRemoved = t.items.length
  filesRemoved : report.filesRemoved = (filesGone fs fs' place).ncard
  dirsRemoved : report.dirsRemoved = (directoriesGone fs fs' place process).ncard
  /-- Links and custom values that have gone with their items are not counted. -/
  linksRemoved : t'.references + report.linksRemoved =
    (t.deleteItems (settled.filterMap Problem.item?)).references
  refused : (∀ q ∈ qs, q.2.isYes = false) → fs' = fs

section Whole

variable {lib : Library} {observer : Observer} {t : Tables} {w : World} {report : Report}
  {place : Location} {r₁ r₂ r₃ : Run}

namespace Parts

/-- What was agreed to has been done before the third stage and at the end. -/
theorem carried (parts : Parts lib observer t w place r₁ r₂ r₃) :
    Faithful t w.files (r₂.advance 100) ∧ Carried t w.files r₃ := by
  have start : Faithful t w.files (startOf t w) := ⟨rfl, rfl, rfl, fun _ => rfl⟩
  have items := (start.checkItems parts.items).nextStage "Checking files"
  have visited := (items.runVisits parts.visits).advance 100
  exact ⟨visited, visited.checkLinks parts.links⟩

theorem balanced (parts : Parts lib observer t w place r₁ r₂ r₃) (keyed : t.Keyed) :
    Balanced (startOf t w) r₃ := by
  have passed := (itemsChecked parts.items).passed
  have first : Balanced (startOf t w) r₁ := balanced_checkItems keyed parts.items
  have second : Balanced (r₁.nextStage "Checking files") r₂ :=
    balanced_runVisits (passed.tables.keyed keyed) parts.visits
  have third : Balanced (r₂.advance 100) r₃ :=
    .of_eq (linksChecked parts.links).items (Relinked.checkLinks parts.links).removed
  exact ((first.trans second).trans (balanced_advance r₂ 100)).trans third

/-- Before the third stage items have gone, and nothing else has changed in the tables. -/
theorem beforeLinks (parts : Parts lib observer t w place r₁ r₂ r₃) :
    (r₂.advance 100).tables = t.deleteItems ((r₃.work t w.files).settled.filterMap Problem.item?) ∧
      (r₂.advance 100).report.linksRemoved = 0 := by
  have faithful := parts.carried.1
  have asked : Asked Problem.IsOfStore (r₂.advance 100) :=
    parts.asked (fun _ _ _ => .inl rfl) fun _ => .inr
  obtain ⟨tables, dropped⟩ : ((r₂.advance 100).work t w.files).tables =
        t.deleteItems (((r₂.advance 100).work t w.files).settled.filterMap Problem.item?) ∧
      ((r₂.advance 100).work t w.files).dropped = 0 :=
    carryOut_of_isOfStore fun q membership => asked q (List.mem_reverse.mp membership)
  obtain ⟨qs, more, others⟩ := (Relinked.checkLinks parts.links).asks
  have same : (r₃.work t w.files).settled.filterMap Problem.item? =
      ((r₂.advance 100).work t w.files).settled.filterMap Problem.item? := by
    rw [Run.work, more, List.reverse_append, carryOut, List.foldl_append]
    exact items_of_not_isOfStore (fun q membership => others q (List.mem_reverse.mp membership)) _
  rw [same]
  refine ⟨faithful.tables.trans tables, ?_⟩
  have removals := congrArg (fun counts => counts.2.2.2) faithful.removals
  exact removals.trans dropped

end Parts

/-- What comes up in a verification that goes well is about files and directories that are where they
belong. -/
theorem verify_placed (isOpen : lib.tables w.files = .ok t)
    (leads : w.files.stat lib.base true = .ok (place, .directory))
    (done : (verify lib observer w).1.outcome = .ok report) :
    ∀ q ∈ questions (verify lib observer w).1.events, q.1.Placed lib w.files place w.process := by
  have others (p : Problem) (other : p.kind ∉ removalKinds) :
      p.Placed lib w.files place w.process := by
    cases p <;> simp [Problem.kind, removalKinds] at other <;> exact .nothing rfl rfl
  exact verify_asked isOpen leads others
    (fun v membership _ _ _ _ found => placed_of_finding? (stands_of_mem_visits membership) found) done

/-- A verification that goes well changes what was agreed to and could be changed, and nothing else, and
counts it right. -/
theorem effects_exact (keyed : t.Keyed) (isOpen : lib.tables w.files = .ok t)
    (done : (verify lib observer w).1.outcome = .ok report) :
    ∃ place t' settled, w.files.stat lib.base true = .ok (place, .directory) ∧
      lib.tables (verify lib observer w).2.files = .ok t' ∧
      Effects lib w.process place t t' w.files (verify lib observer w).2.files
        (questions (verify lib observer w).1.events) report settled := by
  obtain ⟨place, r₁, r₂, r₃, parts, outcome⟩ := parts_of_ok isOpen done
  have course := parts.verified isOpen outcome
  have placed := verify_placed isOpen parts.leads done
  have carried := parts.carried.2
  obtain ⟨beforeLinks, noLinks⟩ := parts.beforeLinks
  obtain rfl : r₃.report = report := by
    rw [outcome] at done
    exact Except.ok.inj done
  have work : r₃.work t w.files =
      carryOut t w.files (questions (verify lib observer w).1.events) := by
    rw [Run.work, ← course.events, questions_reverse]
  rw [work] at beforeLinks
  have nodes : (verify lib observer w).2.files.nodes =
      (carryOut t w.files (questions (verify lib observer w).1.events)).files.nodes := by
    rw [course.nodes, carried.files, work]
  obtain ⟨gone, kept, -, -⟩ := cleared_carryOut t w.files (questions (verify lib observer w).1.events)
  rw [← nodes] at gone kept
  have removals := carried.removals
  simp only [Report.removals, Work.removals, Prod.mk.injEq, tally, work] at removals
  obtain ⟨-, files, directories, -⟩ := removals
  refine ⟨place, r₃.tables, _, parts.leads, course.tables,
    { settled_iff := fun p => mem_settled_iff
      items := fun i => ?_
      tables := by rw [carried.tables, work]
      gone := gone
      kept := kept
      contents := course.data
      spared := fun location isProtected => kept location (isProtected.not_removed placed parts.leads)
      itemsRemoved := parts.balanced keyed
      filesRemoved := ?_
      dirsRemoved := ?_
      linksRemoved := ?_
      refused := fun refused => ?_ }⟩
  · rw [course.links.items, beforeLinks, Tables.mem_deleteItems_items]
    simp
  · rw [files, ← ncard_filesGone placed parts.leads, filesGone, filesGone, nodes]
  · rw [directories, ← ncard_directoriesGone placed parts.leads, directoriesGone, directoriesGone, nodes]
  · have references := (Relinked.checkLinks parts.links).references
    rwa [noLinks, beforeLinks] at references
  · have nothing : r₃.work t w.files = ⟨t, w.files, [], 0⟩ := work.trans (carryOut_of_refused refused)
    have unedited := carried.untouched (by rw [nothing])
    rw [outcome]
    dsimp only
    rw [if_neg (by simp [unedited]), carried.files, nothing]

end Whole

/-- A library with a misleading file, a directory for aliases of another process and one of its own. -/
def crowdedWorld : World where
  process := 1
  files :=
    { misledWorld.files with
      nodes := ((misledWorld.files.nodes.insert ["lib", "tmp.1.0"] .directory).insert
        ["lib", "tmp.2.0"] .directory).insert ["lib", "tmp.2.0", "silence.wav"] (.file 1) }

/-- What is told of a result is true of one that is there. -/
theorem exists_ok_of_toOption {ε α β : Type} {x : Except ε α} {f : α → β} {b : β}
    (told : x.toOption.map f = some b) : ∃ a, x = .ok a ∧ f a = b := by
  cases x with
  | error e => cases told
  | ok a => exact ⟨a, rfl, Option.some.inj told⟩

theorem crowdedWorld_verified :
    ∃ report, (verify smallLibrary (fun _ _ => .yes) crowdedWorld).1.outcome = .ok report ∧
      report.removals = (1, 2, 1, 0) :=
  exists_ok_of_toOption (by decide +kernel)

/-- With the misleading file goes the item, then the file of the item, and at last the directory of the other
process. -/
theorem crowdedWorld_effects :
    silentTables.Keyed ∧ smallLibrary.tables crowdedWorld.files = .ok silentTables ∧
      ∃ report place t' settled,
        (verify smallLibrary (fun _ _ => .yes) crowdedWorld).1.outcome = .ok report ∧
        report.removals = (1, 2, 1, 0) ∧
        Effects smallLibrary 1 place silentTables t' crowdedWorld.files
          (verify smallLibrary (fun _ _ => .yes) crowdedWorld).2.files
          (questions (verify smallLibrary (fun _ _ => .yes) crowdedWorld).1.events) report settled := by
  obtain ⟨report, outcome, removals⟩ := crowdedWorld_verified
  obtain ⟨place, t', settled, -, -, effects⟩ := effects_exact silentTables_keyed rfl outcome
  exact ⟨silentTables_keyed, rfl, report, place, t', settled, outcome, removals, effects⟩

end Verifier

end SampleLibrary
