import SampleLibrary.Proofs.Library.ReadingBack

/-!
# Importing many records

What becomes of a record of a batch is known from the library and the records before it (`fate`): it lacks
its checksum or its path, or its checksum is taken, or it is imported. So a batch keeps the first record of
each checksum, its report has one entry for each record, and importing it again does nothing
(`Reached.batch_accounted`).
-/

namespace SampleLibrary

namespace Tables

variable {t t' : Tables} {m : Metadata} {tags : TagSet} {md5 : String}

theorem foldl_max_le {numbers : List Int} {start bound : Int} (first : start ≤ bound)
    (others : ∀ number ∈ numbers, number ≤ bound) : numbers.foldl max start ≤ bound := by
  induction numbers generalizing start with
  | nil => exact first
  | cons number numbers inductionHypothesis =>
      obtain ⟨below, rest⟩ := List.forall_mem_cons.mp others
      exact inductionHypothesis (Int.max_le.mpr ⟨first, below⟩) rest

/-- The numbers of items go up by one. -/
theorem nextItem_addItem (t : Tables) (m : Metadata) (tags : TagSet) :
    (t.addItem m tags).2.nextItem = t.nextItem + 1 := by
  have counted (t : Tables) (name : String) :
      (t.countTag name).2.numbering.items = t.numbering.items := by
    unfold countTag
    dsimp only
    split <;> rfl
  have keyed (item : Int) (t : Tables) (entry : String × String) :
      (addCustom item t entry).numbering.items = t.numbering.items := by
    unfold addCustom keyNumber
    dsimp only
    split <;> rfl
  have tagged (item : Int) (t : Tables) (name : String) :
      (addTag item t name).numbering.items = t.numbering.items := counted t name
  have numbered : (t.addItem m tags).2.numbering.items = t.nextItem :=
    (foldl_keeps (·.numbering.items) (keyed t.nextItem) m.custom.toList _).trans
      ((foldl_keeps (·.numbering.items) (tagged t.nextItem) tags.toList (t.addRow m)).trans
        (counted _ Tag.root))
  have highest : ((t.items ++ [rowOf t.nextItem m]).map (·.id)).foldl max t.nextItem = t.nextItem := by
    refine Int.le_antisymm (foldl_max_le (Int.le_refl _) fun number membership => ?_)
      (le_foldl_max (.inl (Int.le_refl _)))
    rw [List.map_append, List.mem_append] at membership
    rcases membership with old | new
    · have below : number ≤ (t.items.map (·.id)).foldl max t.numbering.items :=
        le_foldl_max (.inr old)
      unfold nextItem
      omega
    · exact Int.le_of_eq (List.mem_singleton.mp new)
  rw [nextItem, numbered, addItem_items, highest]

theorem libraryItem?_addItem (checksum : m.md5 = some md5) (other : String) :
    (t.addItem m tags).2.libraryItem? other =
      (t.libraryItem? other).or (if other = md5 then some (rowOf t.nextItem m) else none) := by
  have row : (rowOf t.nextItem m).cell .md5 = .text md5 := rowOf_checksum checksum
  unfold libraryItem? libraryItems
  rw [addItem_items, List.filter_append, List.filter_singleton, rowOf_inLibrary, List.find?_append]
  congr 1
  by_cases same : other = md5
  · simp [row, same]
  · simp [row, same, Ne.symm same]

/-- An item refers to every tag and every key once. -/
theorem Stored.refersOnce (stored : Stored t m tags t') (anchored : t'.Anchored)
    (links : t'.links.Nodup) : t'.refersOnce t.nextItem = true := by
  let own := t'.customs.filter fun c => c.item == t.nextItem
  have names : (t'.customsOf t.nextItem).map (·.1) =
      (own.map (·.key)).map fun key => (t'.namesOfKey key).headD "" := by
    rw [customsOf_eq, List.map_flatMap, List.map_map, List.map_eq_flatMap]
    refine List.flatMap_congr fun c membership => ?_
    have key := (isAnchored_iff.mp (anchored.customs c (List.mem_of_mem_filter membership))).2
    obtain ⟨row, there, same⟩ := hasKey_iff.mp key
    simp [← same, stored.orderly.namesOfKey there]
  have distinct : ((t'.customsOf t.nextItem).map (·.1)).Nodup := by
    rw [stored.customs, Std.ExtTreeMap.map_fst_toList_eq_keys]
    exact m.custom.nodup_keys
  rw [names] at distinct
  simp only [Tables.refersOnce, Bool.and_eq_true, decide_eq_true_eq]
  exact ⟨links.filter _, distinct.of_map⟩

end Tables

def Metrics.importsOf (m : Metrics) (outcome : String) : Nat := m.imports[outcome]?.getD 0

namespace Library

open Tables (rowOf)

/-! ## What becomes of a record -/

/-- The checksum of a record that has one and has a path as well. -/
def source? (m : Metadata) : Option String :=
  match m.md5, m.path with
  | some md5, some path => if md5 = "" ∨ path = "" then none else some md5
  | _, _ => none

/-- What a record lacks that cannot be imported: the checksum is asked for first. -/
def lacking (m : Metadata) : String :=
  if m.md5.getD "" = "" then "md5 is required for import" else "path is required for import"

/-- What becomes of a record. -/
inductive Fate where
  | imported
  | conflict (md5 existingName : String)
  | failed (reason : String)
  deriving DecidableEq

/-- What becomes of a record that comes after others: it fails if its checksum or path is missing or empty, it
is in conflict with the item that has its checksum, or else with the first record before it that has the
same checksum and a path, and otherwise it is imported. -/
def fate (t : Tables) (earlier : List Metadata) (m : Metadata) : Fate :=
  match source? m with
  | none => .failed ("Invalid item: " ++ lacking m)
  | some md5 =>
    match t.libraryItem? md5 with
    | some i => .conflict md5 ((i.text? .name).getD "")
    | none =>
      match earlier.find? fun n => source? n == some md5 with
      | some n => .conflict md5 (n.name.getD "")
      | none => .imported

/-- The paths of the records of a batch, each with what becomes of the record. -/
def fates (t : Tables) (ms : List Metadata) : List (String × Fate) :=
  ms.mapIdx fun k m => (m.path.getD "", fate t (ms.take k) m)

def imported? : String × Fate → Option String
  | (path, .imported) => some path
  | _ => none

def conflict? : String × Fate → Option Conflict
  | (path, .conflict md5 existingName) => some ⟨path, md5, existingName⟩
  | _ => none

def failure? : String × Fate → Option Failure
  | (path, .failed reason) => some ⟨path, reason⟩
  | _ => none

/-- The report on records in their order. The items that are added are numbered from `first` on. -/
def reportOn (first : Int) (fates : List (String × Fate)) : ImportReport where
  imported := (fates.filterMap imported?).zipIdx.map fun (path, k) => (path, first + k)
  conflicts := fates.filterMap conflict?
  failed := fates.filterMap failure?

namespace ImportReport

variable (r s : ImportReport)

/-- Two reports, one after the other. -/
def append : ImportReport :=
  ⟨r.imported ++ s.imported, r.conflicts ++ s.conflicts, r.failed ++ s.failed⟩

/-- The number of records that are counted under an outcome. -/
def counted (outcome : String) : Nat :=
  if outcome = "imported" then r.imported.length
  else if outcome = "conflict" then r.conflicts.length
  else if outcome = "failed" then r.failed.length
  else 0

theorem append_assoc (r s u : ImportReport) : (r.append s).append u = r.append (s.append u) := by
  simp [append]

theorem add_failed (path reason : String) : r.add path (.error (.invalidItem reason)) =
    .ok (r.append ⟨[], [], [⟨path, "Invalid item: " ++ reason⟩]⟩) := by
  have goesOn : ((LibraryError.invalidItem reason).isFatal ||
      LibraryError.invalidItem reason == .closed) = false := by simp [LibraryError.isFatal]
  have message : (LibraryError.invalidItem reason).message = "Invalid item: " ++ reason := rfl
  unfold add
  dsimp only
  rw [goesOn, if_neg Bool.false_ne_true, message]
  simp only [append, List.append_nil]

theorem counted_imported (entry : String × Int) (outcome : String) :
    (⟨[entry], [], []⟩ : ImportReport).counted outcome = if outcome = "imported" then 1 else 0 := by
  simp [counted]

theorem counted_conflict (entry : Conflict) (outcome : String) :
    (⟨[], [entry], []⟩ : ImportReport).counted outcome = if outcome = "conflict" then 1 else 0 := by
  unfold counted
  split <;> simp_all

theorem counted_failed (entry : Failure) (outcome : String) :
    (⟨[], [], [entry]⟩ : ImportReport).counted outcome = if outcome = "failed" then 1 else 0 := by
  unfold counted
  split <;> simp_all

theorem counted_append (outcome : String) :
    (r.append s).counted outcome = r.counted outcome + s.counted outcome := by
  unfold counted append
  split
  · simp
  · split
    · simp
    · split <;> simp

end ImportReport

section Reports

variable (first : Int) (path : String) (fates : List (String × Fate))

theorem reportOn_imported : reportOn first ((path, .imported) :: fates) =
    ImportReport.append ⟨[(path, first)], [], []⟩ (reportOn (first + 1) fates) := by
  have shifted (paths : List String) :
      (paths.zipIdx 1).map (fun (path, k) => (path, first + (k : Int))) =
        paths.zipIdx.map fun (path, k) => (path, first + 1 + (k : Int)) := by
    rw [List.zipIdx_succ, List.map_map]
    refine List.map_congr_left fun (path, k) _ => ?_
    simp only [Function.comp_apply, Prod.mk.injEq, true_and]
    omega
  simp [reportOn, ImportReport.append, imported?, conflict?, failure?, List.filterMap_cons, shifted]

theorem reportOn_conflict (md5 existingName : String) :
    reportOn first ((path, .conflict md5 existingName) :: fates) =
      ImportReport.append ⟨[], [⟨path, md5, existingName⟩], []⟩ (reportOn first fates) := by
  simp [reportOn, ImportReport.append, imported?, conflict?, failure?, List.filterMap_cons]

theorem reportOn_failed (reason : String) :
    reportOn first ((path, .failed reason) :: fates) =
      ImportReport.append ⟨[], [], [⟨path, reason⟩]⟩ (reportOn first fates) := by
  simp [reportOn, ImportReport.append, imported?, conflict?, failure?, List.filterMap_cons]

/-- There is one entry for each record. -/
theorem length_reportOn : (reportOn first fates).imported.length +
    (reportOn first fates).conflicts.length + (reportOn first fates).failed.length =
      fates.length := by
  induction fates generalizing first with
  | nil => rfl
  | cons entry fates inductionHypothesis =>
      obtain ⟨path, fate⟩ := entry
      cases fate with
      | imported =>
          have rest := inductionHypothesis (first + 1)
          rw [reportOn_imported]
          simp only [ImportReport.append, List.length_append, List.length_cons, List.length_nil]
          omega
      | conflict md5 existingName =>
          have rest := inductionHypothesis first
          rw [reportOn_conflict]
          simp only [ImportReport.append, List.length_append, List.length_cons, List.length_nil]
          omega
      | failed reason =>
          have rest := inductionHypothesis first
          rw [reportOn_failed]
          simp only [ImportReport.append, List.length_append, List.length_cons, List.length_nil]
          omega

end Reports

section Fates

variable {t t' : Tables} {m : Metadata} {ms : List Metadata} {md5 : String}

theorem requireSource_of_source? (complete : source? m = some md5) :
    m.md5 = some md5 ∧ ∃ path, requireSource m = .ok (md5, path) := by
  unfold source? at complete
  split at complete
  · rename_i md5' path hasMd5 hasPath
    split at complete
    · cases complete
    · rename_i nonempty
      cases complete
      rw [not_or] at nonempty
      refine ⟨hasMd5, path, ?_⟩
      simp [requireSource, requireMd5, hasMd5, hasPath, nonempty, bind, Except.bind]
  · cases complete

theorem requireSource_of_lacking (incomplete : source? m = none) :
    requireSource m = .error (.invalidItem (lacking m)) := by
  unfold source? at incomplete
  unfold requireSource requireMd5 lacking
  cases hasMd5 : m.md5 with
  | none => rfl
  | some md5 =>
      by_cases empty : md5 = ""
      · simp [empty, bind, Except.bind]
      · cases hasPath : m.path with
        | none => simp [empty, bind, Except.bind]
        | some path =>
            rw [hasMd5, hasPath] at incomplete
            have noPath : path = "" := by simpa [empty] using incomplete
            simp [empty, noPath, bind, Except.bind]

theorem fates_cons (each : ∀ earlier n, fate t (m :: earlier) n = fate t' earlier n) :
    fates t (m :: ms) = (m.path.getD "", fate t [] m) :: fates t' ms := by
  simp only [fates, List.mapIdx_cons, List.take_zero, List.take_succ_cons, each]

/-- A record that cannot be imported makes no difference to later ones. -/
theorem fate_cons_of_lacking (incomplete : source? m = none) (earlier : List Metadata) (n : Metadata) :
    fate t (m :: earlier) n = fate t earlier n := by
  simp [fate, incomplete]

/-- Neither does one whose checksum is taken. -/
theorem fate_cons_of_known {i : Item} (complete : source? m = some md5)
    (known : t.libraryItem? md5 = some i) (earlier : List Metadata) (n : Metadata) :
    fate t (m :: earlier) n = fate t earlier n := by
  unfold fate
  cases own : source? n with
  | none => rfl
  | some md5' =>
      by_cases same : md5 = md5'
      · subst same
        simp [known]
      · simp [complete, same]

/-- After a record has been imported, it is its item that others are in conflict with. -/
theorem fate_cons_of_new {id : Int} {path : String} (complete : source? m = some md5)
    (added : ∀ other, t'.libraryItem? other =
      (t.libraryItem? other).or (if other = md5 then some (rowOf id (stored m path false)) else none))
    (earlier : List Metadata) (n : Metadata) :
    fate t (m :: earlier) n = fate t' earlier n := by
  have named : ((rowOf id (stored m path false)).text? .name).getD "" = m.name.getD "" := by
    cases name : m.name <;>
      simp [Item.text?, Tables.rowOf, stored, Metadata.get?, name, Cell.ofValue, Cell.toColumn,
        Field.kind, Cell.toTextColumn, Cell.asText?]
  unfold fate
  cases own : source? n with
  | none => rfl
  | some md5' =>
      dsimp only
      rw [added]
      cases known : t.libraryItem? md5' with
      | some i => rfl
      | none =>
          by_cases same : md5' = md5
          · simp [complete, same, named]
          · simp [complete, same, Ne.symm same]

end Fates

/-! ## One record after the other -/

/-- The database takes so many items more: its file is in its place, and there are numbers left. -/
structure HasRoom (lib : Library) (w : World) (n : Nat) : Prop where
  writable : lib.isWritable w.files = true
  numbers : ∀ t, Holds lib w t → t.nextItem + n ≤ Tables.maxNumber + 1

/-- An open library with tables in order and with room for so many items. -/
structure Ready (lib : Library) (w : World) (t : Tables) (n : Nat) : Prop where
  isOpen : lib.isClosed = false
  content : Holds lib w t
  consistent : t.Consistent
  orderly : t.Orderly
  room : HasRoom lib w n

section Importing

variable {lib : Library} {w : World} {t : Tables} {m : Metadata} {ms : List Metadata} {md5 : String}
  {n : Nat}

theorem importFile_of_lacking (lib : Library) (copy : Bool) (w : World) (incomplete : source? m = none) :
    lib.importFile m copy w = (.error (.invalidItem (lacking m)),
      { w with metrics := w.metrics.addImport "failed" }) := by
  simp [importFile, importOne, addRecord, requireSource_of_lacking incomplete, bind, Except.bind,
    outcomeLabel, LibraryError.isConflict]

theorem Ready.importFile_of_known {i : Item} (ready : Ready lib w t n) (copy : Bool)
    (complete : source? m = some md5) (known : t.libraryItem? md5 = some i) :
    lib.importFile m copy w = (.error (.conflict md5 ((i.text? .name).getD "")),
      { w with metrics := w.metrics.addImport "conflict" }) := by
  obtain ⟨-, path, required⟩ := requireSource_of_source? complete
  simp [importFile, importOne, addRecord, required, ready.content.readable ready.isOpen, known, bind,
    Except.bind, outcomeLabel, LibraryError.isConflict]

/-- A record with a new checksum is imported, and then there is room for one item less. -/
theorem Ready.importFile_of_new (ready : Ready lib w t (n + 1)) (valid : m.TagsValid)
    (complete : source? m = some md5) (unknown : t.libraryItem? md5 = none) :
    ∃ t' path, lib.importFile m false w = (.ok t.nextItem, { w with
        files := lib.commit w.files t', metrics := w.metrics.addImport "imported" }) ∧
      Ready lib { w with files := lib.commit w.files t', metrics := w.metrics.addImport "imported" }
        t' n ∧
      t'.nextItem = t.nextItem + 1 ∧ ∀ other, t'.libraryItem? other = (t.libraryItem? other).or
        (if other = md5 then some (rowOf t.nextItem (stored m path false)) else none) := by
  obtain ⟨checksum, path, required⟩ := requireSource_of_source? complete
  have numbers := ready.room.numbers t ready.content
  have bound : t.nextItem ≤ Tables.maxNumber := by omega
  have tagsValid : ∀ tag ∈ Tag.expand m.tags.toList, Tag.isValid tag = true :=
    fun tag membership => Tag.isValid_of_mem_expand
      (fun other listed => valid other (Std.ExtTreeSet.mem_toList.mp listed)) membership
  have consistent := ready.consistent.addItem (m := stored m path false) checksum unknown tagsValid
  have added := Tables.stored_addItem (m := stored m path false) ready.consistent ready.orderly
    checksum unknown tagsValid bound
  have once := added.refersOnce consistent.anchored consistent.keyed.links
  let t' := (t.addItem (stored m path false) (Tag.expand m.tags.toList)).2
  have next : t'.nextItem = t.nextItem + 1 := Tables.nextItem_addItem t _ _
  refine ⟨t', path, ?_, ⟨ready.isOpen, Files.dataOf_setData_self _ _ _, consistent, added.orderly,
    ready.room.writable, ?_⟩, next, fun other =>
    Tables.libraryItem?_addItem (m := stored m path false) checksum other⟩
  · have recorded : lib.addRecord w.files m false = .ok (t.nextItem, t') := by
      have number : (t.addItem (stored m path false) (Tag.expand m.tags.toList)).1 = t.nextItem := rfl
      simp only [addRecord, required, ready.content.readable ready.isOpen, unknown, bind, Except.bind,
        number, ready.room.writable, bound, once, decide_true, Bool.and_self, if_true]
      rfl
    simp [importFile, importOne, recorded, outcomeLabel]
  · intro t'' content
    obtain rfl := content.eq (Files.dataOf_setData_self _ _ _)
    rw [next]
    push_cast at numbers
    omega

theorem importsOf_addImport (m : Metrics) (label outcome : String) :
    (m.addImport label).importsOf outcome = m.importsOf outcome + if outcome = label then 1 else 0 := by
  unfold Metrics.importsOf Metrics.addImport Counts.add
  by_cases same : outcome = label
  · simp [same]
  · simp [same, Std.ExtTreeMap.getElem?_insert, Ne.symm same]

/-- What has been done once all records have been seen to. -/
structure Done (lib : Library) (w : World) (t : Tables) (ms : List Metadata) (r : ImportReport)
    (w' : World) (t' : Tables) : Prop where
  outcome : lib.importFrom false r ms w =
    (.ok (r.append (reportOn t.nextItem (fates t ms))), w')
  ready : Ready lib w' t' 0
  counted : ∀ outcome, w'.metrics.importsOf outcome = w.metrics.importsOf outcome +
    (reportOn t.nextItem (fates t ms)).counted outcome
  others : w'.metrics = { w.metrics with imports := w'.metrics.imports }
  kept : ∀ md5, (t.libraryItem? md5).isSome → (t'.libraryItem? md5).isSome
  known : ∀ m ∈ ms, ∀ md5, source? m = some md5 → (t'.libraryItem? md5).isSome
  unchanged : (∀ entry ∈ fates t ms, entry.2 ≠ .imported) → w'.files = w.files

/-- One record more, before the others. -/
theorem Done.cons {w₁ w' : World} {t₁ t' : Tables} {r single : ImportReport}
    {result : Except LibraryError Int} {f : Fate} (rest : Done lib w₁ t₁ ms (r.append single) w' t')
    (imports : lib.importFile m false w = (result, w₁))
    (adds : r.add (m.path.getD "") result = .ok (r.append single))
    (goesOn : fates t (m :: ms) = (m.path.getD "", f) :: fates t₁ ms)
    (report : reportOn t.nextItem ((m.path.getD "", f) :: fates t₁ ms) =
      single.append (reportOn t₁.nextItem (fates t₁ ms)))
    (counts : ∀ outcome, w₁.metrics.importsOf outcome =
      w.metrics.importsOf outcome + single.counted outcome)
    (others : w₁.metrics = { w.metrics with imports := w₁.metrics.imports })
    (kept : ∀ md5, (t.libraryItem? md5).isSome → (t₁.libraryItem? md5).isSome)
    (known : ∀ md5, source? m = some md5 → (t₁.libraryItem? md5).isSome)
    (unchanged : f ≠ .imported → w₁.files = w.files) : Done lib w t (m :: ms) r w' t' where
  outcome := by
    rw [goesOn, report, ← ImportReport.append_assoc, ← rest.outcome, importFrom, imports]
    dsimp only
    rw [adds]
  ready := rest.ready
  counted outcome := by
    rw [goesOn, report, ImportReport.counted_append, rest.counted, counts, Nat.add_assoc]
  others := by rw [rest.others, others]
  kept md5 there := rest.kept md5 (kept md5 there)
  known := List.forall_mem_cons.mpr ⟨fun md5 complete => rest.kept md5 (known md5 complete), rest.known⟩
  unchanged none' := by
    rw [goesOn] at none'
    obtain ⟨first, later⟩ := List.forall_mem_cons.mp none'
    rw [rest.unchanged later, unchanged first]

/-- The number of records that are to be imported. -/
def wanted (fates : List (String × Fate)) : Nat := fates.countP fun entry => entry.2 = .imported

/-- Where no file has changed, there is as much room as before. -/
theorem Ready.of_files {w' : World} {n' : Nat} (ready : Ready lib w t n) (files : w'.files = w.files)
    (fewer : n' ≤ n) : Ready lib w' t n' := by
  obtain ⟨isOpen, content, consistent, orderly, writable, numbers⟩ := ready
  have content' : Holds lib w' t := by rw [Holds, files]; exact content
  refine ⟨isOpen, content', consistent, orderly, by rw [files]; exact writable, fun t' there => ?_⟩
  obtain rfl := there.eq content'
  have numbers := numbers t' content
  omega

/-- Records are seen to one after the other. -/
theorem Ready.importFrom_done (ready : Ready lib w t (wanted (fates t ms)))
    (valid : ∀ m ∈ ms, m.TagsValid) (r : ImportReport) :
    ∃ w' t', Done lib w t ms r w' t' := by
  induction ms generalizing w t r with
  | nil =>
      refine ⟨w, t, ?_, ready, fun outcome => ?_, rfl, fun _ there => there, by simp, fun _ => rfl⟩
      · simp [importFrom, reportOn, fates, ImportReport.append]
      · simp [reportOn, fates, ImportReport.counted]
  | cons m ms inductionHypothesis =>
      obtain ⟨isValid, othersValid⟩ := List.forall_mem_cons.mp valid
      cases complete : source? m with
      | none =>
          have own : fate t [] m = .failed ("Invalid item: " ++ lacking m) := by simp [fate, complete]
          have goesOn : fates t (m :: ms) = (m.path.getD "", fate t [] m) :: fates t ms :=
            fates_cons (fate_cons_of_lacking complete)
          rw [own] at goesOn
          rw [goesOn] at ready
          have further : Ready lib { w with metrics := w.metrics.addImport "failed" } t
              (wanted (fates t ms)) := ready.of_files rfl (by simp [wanted])
          obtain ⟨w', t', rest⟩ := inductionHypothesis further othersValid
            (r.append ⟨[], [], [⟨m.path.getD "", "Invalid item: " ++ lacking m⟩]⟩)
          refine ⟨w', t', rest.cons (importFile_of_lacking lib false w complete) (r.add_failed _ _) goesOn
            (reportOn_failed _ _ _ _) (fun outcome => ?_) rfl (fun _ there => there) (by simp [complete])
            fun _ => rfl⟩
          rw [importsOf_addImport, ImportReport.counted_failed]
      | some md5 =>
          cases known : t.libraryItem? md5 with
          | some i =>
              have own : fate t [] m = .conflict md5 ((i.text? .name).getD "") := by
                simp [fate, complete, known]
              have goesOn : fates t (m :: ms) = (m.path.getD "", fate t [] m) :: fates t ms :=
                fates_cons (fate_cons_of_known complete known)
              rw [own] at goesOn
              rw [goesOn] at ready
              have further : Ready lib { w with metrics := w.metrics.addImport "conflict" } t
                  (wanted (fates t ms)) := ready.of_files rfl (by simp [wanted])
              obtain ⟨w', t', rest⟩ := inductionHypothesis further othersValid
                (r.append ⟨[], [⟨m.path.getD "", md5, (i.text? .name).getD ""⟩], []⟩)
              refine ⟨w', t', rest.cons (ready.importFile_of_known false complete known) ?_ goesOn
                (reportOn_conflict _ _ _ _ _) (fun outcome => ?_) rfl (fun _ there => there)
                (by simp [complete, known]) fun _ => rfl⟩
              · simp [ImportReport.add, ImportReport.append]
              · rw [importsOf_addImport, ImportReport.counted_conflict]
          | none =>
              have own : fate t [] m = .imported := by simp [fate, complete, known]
              -- what is left of the batch is judged with the item that is added now
              have more : wanted (fates t (m :: ms)) = wanted (fates t (m :: ms)) - 1 + 1 := by
                simp [wanted, fates, own]
              rw [more] at ready
              obtain ⟨t₁, path, imports, ready₁, next, added⟩ :=
                ready.importFile_of_new isValid complete known
              have goesOn : fates t (m :: ms) = (m.path.getD "", fate t [] m) :: fates t₁ ms :=
                fates_cons (fate_cons_of_new complete added)
              rw [own] at goesOn
              have fewer : wanted (fates t₁ ms) ≤ wanted (fates t (m :: ms)) - 1 := by
                simp [goesOn, wanted]
              obtain ⟨w', t', rest⟩ := inductionHypothesis (ready₁.of_files rfl fewer) othersValid
                (r.append ⟨[(m.path.getD "", t.nextItem)], [], []⟩)
              refine ⟨w', t', rest.cons imports ?_ goesOn ?_ (fun outcome => ?_) rfl (fun md5' there => ?_)
                (fun md5' same => ?_) (by simp)⟩
              · simp [ImportReport.add, ImportReport.append]
              · rw [next]
                exact reportOn_imported _ _ _
              · rw [importsOf_addImport, ImportReport.counted_imported]
              · rw [added, Option.isSome_or, there, Bool.true_or]
              · cases complete.symm.trans same
                rw [added, if_pos rfl, Option.isSome_or]
                simp

/-- The world after an import of many records is the one after importing them one by one. -/
theorem importFrom_world {copy : Bool} {r report : ImportReport}
    (done : (lib.importFrom copy r ms w).1 = .ok report) :
    (lib.importFrom copy r ms w).2 = ms.foldl (fun w m => (lib.importFile m copy w).2) w := by
  induction ms generalizing r w with
  | nil => rfl
  | cons m ms inductionHypothesis =>
      unfold importFrom at done ⊢
      dsimp only at done ⊢
      split at done
      · exact inductionHypothesis done
      · cases done

/-- In a library that knows the checksums of all records, none is to be imported. -/
theorem not_imported_of_known
    (known : ∀ m ∈ ms, ∀ md5, source? m = some md5 → (t.libraryItem? md5).isSome) :
    ∀ entry ∈ fates t ms, entry.2 ≠ .imported := by
  intro entry membership
  obtain ⟨k, inRange, rfl⟩ := List.mem_mapIdx.mp membership
  unfold fate
  dsimp only
  split
  · simp
  · rename_i md5 complete
    have there := known _ (List.getElem_mem inRange) md5 complete
    split
    · simp
    · rename_i unknown
      rw [unknown] at there
      cases there

/-- The numbers of items that are added go up from the next one. -/
theorem numbers_reportOn (first : Int) (fates : List (String × Fate)) :
    (reportOn first fates).imported.map (·.2) =
      (List.range (fates.filterMap imported?).length).map fun k : Nat => first + (k : Int) := by
  have counted (paths : List String) : paths.zipIdx.map (·.2) = List.range paths.length := by
    rw [List.zipIdx_map_snd, List.range_eq_range']
  rw [← counted, List.map_map, reportOn, List.map_map]
  rfl

/-- What comes of a batch whose files are not copied, in a library with certain tables. -/
structure Batch (lib : Library) (w : World) (t : Tables) (ms : List Metadata) (report : ImportReport)
    (w' : World) : Prop where
  outcome : lib.importFiles ms false w = (.ok report, w')
  told : report = reportOn t.nextItem (fates t ms)
  /-- The items that are added have numbers of their own. -/
  fresh : (∀ id ∈ report.imported.map (·.2), t.hasItem id = false) ∧ (report.imported.map (·.2)).Nodup
  entries : report.imported.length + report.conflicts.length + report.failed.length = ms.length
  oneByOne : w' = ms.foldl (fun w m => (lib.importFile m false w).2) w
  counted : ∀ outcome, w'.metrics.importsOf outcome =
    w.metrics.importsOf outcome + report.counted outcome
  /-- A second time nothing is imported, and neither the database nor any other file changes. -/
  again : ∃ second, (lib.importFiles ms false w').1 = .ok second ∧ second.imported = [] ∧
    (lib.importFiles ms false w').2.files = w'.files

/-- Nothing but the first record of each new checksum is imported from a batch. The report tells what has become
of the records in their order, and the counters go up by what is in it. The batch leaves the same behind as
its records one by one, and it can be repeated without a trace. -/
theorem Reached.batch_accounted (reached : Reached lib w) (isOpen : lib.isClosed = false)
    (room : HasRoom lib w ms.length) (valid : ∀ m ∈ ms, m.TagsValid) :
    ∃ t report w', lib.tables w.files = .ok t ∧ Batch lib w t ms report w' := by
  obtain ⟨t, content, consistent, orderly⟩ := reached.orderly
  have whole (r : ImportReport) : ImportReport.append {} r = r := by simp [ImportReport.append]
  have size : (fates t ms).length = ms.length := by simp [fates]
  have ready : Ready lib w t ms.length := ⟨isOpen, content, consistent, orderly, room⟩
  have fewer : wanted (fates t ms) ≤ ms.length := size ▸ List.countP_le_length
  obtain ⟨w', t', done⟩ := (ready.of_files rfl fewer).importFrom_done valid {}
  have outcome : lib.importFiles ms false w = (.ok (reportOn t.nextItem (fates t ms)), w') := by
    rw [importFiles, done.outcome, whole]
  have settled := not_imported_of_known done.known
  have none' : wanted (fates t' ms) ≤ 0 := by
    rw [wanted, Nat.le_zero, List.countP_eq_zero]
    exact fun entry membership => by simpa using settled entry membership
  obtain ⟨w'', t'', again⟩ := (done.ready.of_files rfl none').importFrom_done valid {}
  have repeated : lib.importFiles ms false w' = (.ok (reportOn t'.nextItem (fates t' ms)), w'') := by
    rw [importFiles, again.outcome, whole]
  refine ⟨t, _, w', content.readable isOpen, outcome, rfl, ⟨?_, ?_⟩, ?_, ?_, done.counted,
    _, congrArg Prod.fst repeated, ?_, ?_⟩
  · intro id membership
    rw [numbers_reportOn] at membership
    obtain ⟨k, -, rfl⟩ := List.mem_map.mp membership
    rw [← Bool.not_eq_true, Tables.hasItem_iff]
    rintro ⟨i, there, same⟩
    have below : i.id ≤ (t.items.map (·.id)).foldl max t.numbering.items :=
      Tables.le_foldl_max (.inr (List.mem_map_of_mem there))
    unfold Tables.nextItem at same
    omega
  · rw [numbers_reportOn]
    exact List.nodup_range.map fun k l same => by omega
  · rw [length_reportOn, size]
  · have world := importFrom_world (congrArg Prod.fst done.outcome)
    rwa [done.outcome] at world
  · simp only [reportOn, List.map_eq_nil_iff, List.zipIdx_eq_nil_iff, List.filterMap_eq_nil_iff]
    rintro ⟨path, f⟩ membership
    cases f with
    | imported => exact absurd rfl (settled _ membership)
    | conflict | failed => rfl
  · rw [repeated]
    exact again.unchanged settled

end Importing

def tom : Metadata :=
  { Metadata.empty with
    md5 := some "0123456789abcdef0123456789abcdef"
    path := some "tom.wav"
    name := some "tom" }

/-- The same sample under another name. -/
def tomAgain : Metadata := { tom with path := some "again.wav", name := some "again" }

/-- A record without a checksum. -/
def nameless : Metadata := { Metadata.empty with path := some "nameless.wav" }

/-- Four records: one of them lacks something, and two have the same checksum. -/
def fourRecords : List Metadata := [tom, nameless, tomAgain, clap]

theorem bareWorld_writable :
    (match (openAt "lib" bareWorld).1 with
      | .ok lib => lib.isWritable (openAt "lib" bareWorld).2.files
      | .error _ => false) = true := by
  decide +kernel

theorem tom_imported_once :
    ∃ lib, Reached lib (openAt "lib" bareWorld).2 ∧ lib.isClosed = false ∧
      HasRoom lib (openAt "lib" bareWorld).2 fourRecords.length ∧
      (∀ m ∈ fourRecords, m.TagsValid) ∧
      ∃ t report w', lib.tables (openAt "lib" bareWorld).2.files = .ok t ∧
        Batch lib (openAt "lib" bareWorld).2 t fourRecords report w' ∧
        report =
          { imported := [("tom.wav", 1), ("clap.wav", 2)]
            conflicts := [⟨"again.wav", "0123456789abcdef0123456789abcdef", "tom"⟩]
            failed := [⟨"nameless.wav", "Invalid item: md5 is required for import"⟩] } := by
  have writable := bareWorld_writable
  cases opened : (openAt "lib" bareWorld).1 with
  | error e => simp [opened] at writable
  | ok lib =>
      rw [opened] at writable
      have reached : Reached lib (openAt "lib" bareWorld).2 := .created bareWorld_absent opened
      obtain ⟨-, isOpen, ⟨there, -⟩ | ⟨-, content⟩⟩ := openAt_ok opened
      · simp [bareWorld_absent] at there
      · have isFresh {t : Tables} (holds : Holds lib (openAt "lib" bareWorld).2 t) : t = .fresh :=
          holds.eq content
        have room : HasRoom lib (openAt "lib" bareWorld).2 fourRecords.length :=
          ⟨writable, fun t holds => by rw [isFresh holds]; decide⟩
        have valid : ∀ m ∈ fourRecords, m.TagsValid := by
          simp only [fourRecords, List.forall_mem_cons]
          exact ⟨Metadata.tagsValid_empty, Metadata.tagsValid_empty, Metadata.tagsValid_empty,
            clap_tagsValid, fun _ membership => absurd membership List.not_mem_nil⟩
        obtain ⟨t, report, w', tables, batch⟩ := reached.batch_accounted isOpen room valid
        refine ⟨lib, reached, isOpen, room, valid, t, report, w', tables, batch, ?_⟩
        rw [batch.told, isFresh (tables_eq_ok tables)]
        decide

end Library

end SampleLibrary
