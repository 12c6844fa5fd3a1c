import SampleLibrary.Proofs.Library.CustomValues
import SampleLibrary.Proofs.Library.Searching
import SampleLibrary.Proofs.Library.TagSearch

/-!
# The hierarchy of tags in searches

A search tests for one name exactly, but an item that is imported carries with each tag the paths above it.
So a tag finds the items that were imported with it or with a path that goes on from it (`Tag.Covers`), and
the question for its absence finds the others (`Reached.tag_found_iff`). Where an item comes from is told
by its history: every item of a library was imported at some time and has been there since
(`Reached.accounted`).
-/

namespace SampleLibrary

/-! ## Where items come from -/

namespace Library

open Tables (Retains Orderly)
open Query

variable {lib lib' : Library} {w w' : World} {t t' : Tables} {id : Int} {m : Metadata}

/-- The item was imported from the record and has been in the library since. -/
def ImportedFrom (m : Metadata) (id : Int) (lib : Library) (w : World) : Prop :=
  ∃ lib₀ w₀ copy, Reached lib₀ w₀ ∧ m.TagsValid ∧ (lib₀.importFile m copy w₀).1 = .ok id ∧
    Since id lib₀ (lib₀.importFile m copy w₀).2 lib w

theorem ImportedFrom.next (origin : ImportedFrom m id lib w) (event : Event Proper lib w lib' w')
    (there : lib'.hasItem w' id = true) : ImportedFrom m id lib' w' := by
  obtain ⟨lib₀, w₀, copy, reached, valid, done, since⟩ := origin
  exact ⟨lib₀, w₀, copy, reached, valid, done, since.next event there⟩

/-- Every item was imported from some record. -/
def Accounted (lib : Library) (w : World) : Prop :=
  ∀ id, lib.hasItem w id = true → ∃ m, ImportedFrom m id lib w

/-- Every item was imported from some record of a kind. -/
def AccountedBy (kind : Metadata → Prop) (lib : Library) (w : World) : Prop :=
  ∀ id, lib.hasItem w id = true → ∃ m, kind m ∧ ImportedFrom m id lib w

section AccountedBy

variable {allowed : Metadata → Bool → Prop} {kind : Metadata → Prop}

/-- What may happen to a library may also happen to it if more is allowed. -/
theorem Event.mono {allowed' : Metadata → Bool → Prop}
    (weaker : ∀ m copy, allowed m copy → allowed' m copy) (event : Event allowed lib w lib' w') :
    Event allowed' lib w lib' w' := by
  cases event with
  | imported m copy isAllowed => exact .imported m copy (weaker m copy isAllowed)
  | importedAll ms copy allAllowed =>
      exact .importedAll ms copy fun m membership => weaker m copy (allAllowed m membership)
  | closed => exact .closed
  | reopened isClosed opened own => exact .reopened isClosed opened own
  | changed _ kept => exact .changed w' kept
  | verified observer => exact .verified observer

/-- Nothing has to be accounted for anew if no item is added. -/
theorem AccountedBy.next (accounted : AccountedBy kind lib w) (event : Event Proper lib w lib' w')
    (old : ∀ id, lib'.hasItem w' id = true → lib.hasItem w id = true) : AccountedBy kind lib' w' := by
  intro id there
  obtain ⟨m, isKind, origin⟩ := accounted id (old id there)
  exact ⟨m, isKind, origin.next event there⟩

theorem AccountedBy.imported (reached : Reached lib w) (accounted : AccountedBy kind lib w)
    (copy : Bool) (isKind : kind m) (valid : m.TagsValid) :
    AccountedBy kind lib (lib.importFile m copy w).2 := by
  intro id there
  have event : Event Proper lib w lib (lib.importFile m copy w).2 := .imported m copy valid
  obtain ⟨t, content, -, -⟩ := reached.orderly
  rcases importFile_cases m copy content with
    ⟨new, t', done, content', addition⟩ | ⟨e, -, content'⟩
  · rcases addition.source with ⟨md5, path, -, -, rfl⟩
    have present := content'.hasItem ▸ there
    obtain ⟨i, row, rfl⟩ := Tables.hasItem_iff.mp present
    rw [Tables.addItem_items, List.mem_append, List.mem_singleton] at row
    rcases row with old | rfl
    · obtain ⟨m', isKind', origin⟩ :=
        accounted i.id (content.hasItem ▸ Tables.hasItem_iff.mpr ⟨i, old, rfl⟩)
      exact ⟨m', isKind', origin.next event there⟩
    · refine ⟨m, isKind, lib, w, copy, reached, valid, ?_, .start there⟩
      rw [done, addition.number]
      rfl
  · obtain ⟨m', isKind', origin⟩ := accounted id (content.hasItem ▸ content'.hasItem ▸ there)
    exact ⟨m', isKind', origin.next event there⟩

theorem AccountedBy.importedFrom {copy : Bool} {report : ImportReport} {ms : List Metadata}
    (reached : Reached lib w) (accounted : AccountedBy kind lib w)
    (kinds : ∀ m ∈ ms, kind m ∧ m.TagsValid) :
    AccountedBy kind lib (lib.importFrom copy report ms w).2 := by
  induction ms generalizing report w with
  | nil => exact accounted
  | cons m ms inductionHypothesis =>
      obtain ⟨isKind, valid⟩ := kinds m List.mem_cons_self
      have first := accounted.imported reached copy isKind valid
      unfold importFrom
      dsimp only
      split
      · exact inductionHypothesis (.imported m copy reached valid) first
          fun other later => kinds other (List.mem_cons_of_mem _ later)
      · exact first

/-- If all records that are imported are of a kind, then every item was imported from one of the kind. -/
theorem History.accounted (history : History allowed lib w)
    (kinds : ∀ m copy, allowed m copy → kind m ∧ m.TagsValid) : AccountedBy kind lib w := by
  have proper : ∀ m copy, allowed m copy → m.TagsValid := fun m copy isAllowed =>
    (kinds m copy isAllowed).2
  induction history with
  | created absent opened =>
      intro id there
      rcases openAt_ok opened with ⟨-, -, ⟨found, -⟩ | ⟨-, content⟩⟩
      · exact absurd found (by simp [absent])
      · rw [Holds.hasItem content] at there
        cases there
  | @next lib lib' w w' before event accounted =>
      have reached := before.reached proper
      have proper' := event.mono proper
      cases event with
      | imported m copy isAllowed =>
          obtain ⟨isKind, valid⟩ := kinds m copy isAllowed
          exact accounted.imported reached copy isKind valid
      | importedAll ms copy allAllowed =>
          exact accounted.importedFrom reached
            fun m membership => kinds m copy (allAllowed m membership)
      | closed =>
          refine accounted.next proper' fun id there => ?_
          obtain ⟨database, data⟩ := close_data lib w
          rw [hasItem, database, Files.dataOf_congr data] at there
          exact there
      | reopened isClosed opened own =>
          refine accounted.next proper' fun id there => ?_
          rcases openAt_ok opened with ⟨-, -, ⟨found, data⟩ | ⟨-, content⟩⟩
          · rw [hasItem, own found, Files.dataOf_congr data] at there
            exact there
          · rw [Holds.hasItem content] at there
            cases there
      | changed _ kept =>
          refine accounted.next proper' fun id there => ?_
          rw [hasItem, kept] at there
          exact there
      | verified observer =>
          refine accounted.next proper' fun id there => ?_
          obtain ⟨t, content, consistent, -⟩ := reached.orderly
          cases isOpen : lib.tables w.files with
          | error e =>
              rw [Verifier.verify, isOpen] at there
              exact there
          | ok t₀ =>
              obtain rfl : t₀ = t := Holds.eq (tables_eq_ok isOpen) content
              obtain ⟨t', content', repairs⟩ := Verifier.verify_repairs isOpen
              rw [Holds.hasItem content'] at there
              rw [Holds.hasItem content]
              exact (Tables.retains_of_repairs repairs consistent.whole.rooted there).1

end AccountedBy

theorem Reached.accounted (reached : Reached lib w) : Accounted lib w := by
  intro id there
  have accounted : AccountedBy (fun _ => True) lib w :=
    reached.history.accounted fun m copy valid => ⟨trivial, valid⟩
  obtain ⟨m, -, origin⟩ := accounted id there
  exact ⟨m, origin⟩

/-! ## Tags of items -/

theorem tagged_iff {i : Item} {tag : String} : Tagged t i tag ↔ tag ∈ t.tagsOf i.id := by
  simp only [Tagged, Tables.tagsOf, List.mem_flatMap, List.mem_filter, List.mem_map, beq_iff_eq]
  constructor
  · rintro ⟨l, link, sameItem, r, row, sameTag, named⟩
    exact ⟨l, ⟨link, sameItem⟩, r, ⟨row, sameTag⟩, named⟩
  · rintro ⟨l, ⟨link, sameItem⟩, r, ⟨row, sameTag⟩, named⟩
    exact ⟨l, link, sameItem, r, row, sameTag, named⟩

/-- An item carries the tags of its record and the paths above them, whatever has happened since. -/
theorem ImportedFrom.tagsOf (origin : ImportedFrom m id lib w) (content : Holds lib w t) :
    t.tagsOf id = (Tag.expand m.tags.toList).toList := by
  obtain ⟨lib₀, w₀, copy, reached, valid, done, since⟩ := origin
  obtain ⟨t₀, content₀, consistent, orderly⟩ := reached.orderly
  obtain ⟨t₁, content₁, addition⟩ := importFile_ok content₀ done
  obtain ⟨-, t₂, t₃, content₂, content₃, -, retains⟩ :=
    since.retains (.imported m copy reached valid)
  obtain rfl := content₂.eq content₁
  obtain rfl := content₃.eq content
  obtain ⟨md5, path, -, -, result⟩ := addition.adds consistent orderly valid
  rw [retains.tags, addition.number, result.tags]

theorem ImportedFrom.tagged_iff (origin : ImportedFrom m id lib w) (content : Holds lib w t)
    {i : Item} (same : i.id = id) {tag : String} :
    Tagged t i tag ↔ ∃ other ∈ m.tags, Tag.Covers tag other := by
  rw [Library.tagged_iff, same, origin.tagsOf content, Std.ExtTreeSet.mem_toList,
    Tag.mem_expand_iff_covers]
  simp only [Std.ExtTreeSet.mem_toList]

/-! ## The search -/

theorem matches_tagged_iff {i : Item} {tag : String} (notRoot : tag ≠ Tag.root) :
    Matches t .library [.tagged tag] i ↔ i.inLibrary = true ∧ Tagged t i tag := by
  constructor
  · intro isMatch
    obtain ⟨other, listed, tagged⟩ :=
      isMatch.tagged ⟨tag, List.mem_singleton_self _⟩ (by simpa using notRoot.symm)
    cases List.mem_singleton.mp listed
    exact ⟨beq_iff_eq.mpr isMatch.inScope, tagged⟩
  · rintro ⟨inLibrary, tagged⟩
    exact
      { inScope := beq_iff_eq.mp inLibrary
        compared := by simp
        tagged := fun _ _ => ⟨tag, List.mem_singleton_self _, tagged⟩
        notAllUntagged := by simp
        untagged := by simp
        worded := fun some => absurd rfl some }

theorem matches_untagged_iff {i : Item} {tag : String} (notRoot : tag ≠ Tag.root) :
    Matches t .library [.untagged tag] i ↔ i.inLibrary = true ∧ ¬ Tagged t i tag := by
  constructor
  · intro isMatch
    exact ⟨beq_iff_eq.mpr isMatch.inScope, isMatch.untagged tag (List.mem_singleton_self _)⟩
  · rintro ⟨inLibrary, notTagged⟩
    exact
      { inScope := beq_iff_eq.mp inLibrary
        compared := by simp
        tagged := by simp
        notAllUntagged := by simpa using notRoot.symm
        untagged := by simpa using notTagged
        worded := fun some => absurd rfl some }

/-- A query without words to look for finds the items that it asks for, once each. -/
theorem Reached.exists_search (reached : Reached lib w) (isOpen : lib.tables w.files = .ok t)
    (conditions : List Condition) (wordless : texts conditions = []) :
    ∃ found : List Item, (lib.search conditions unlimited w).1 = .ok (found.map t.record) ∧
      found.Nodup ∧ ∀ i, i ∈ found ↔ i ∈ t.items ∧ Matches t .library conditions i := by
  obtain ⟨t₀, content, -, orderly⟩ := reached.orderly
  obtain rfl : t₀ = t := content.eq (tables_eq_ok isOpen)
  obtain ⟨_, done, -⟩ := exists_search_ok conditions isOpen orderly wordless
  obtain ⟨t₁, found, rows, isOpen', nodup, membership, -, whole, records, -⟩ :=
    reached.search_exact rfl done
  obtain rfl : t₁ = t₀ := Except.ok.inj (isOpen'.symm.trans isOpen)
  rw [whole rfl] at records
  exact ⟨found, records ▸ done, nodup, membership⟩

/-- A valid tag finds the items that were imported with it or with a path that goes on from it, and the
question for its absence finds the others. -/
theorem Reached.tag_found_iff (reached : Reached lib w) (isOpen : lib.isClosed = false) {tag : String}
    (valid : Tag.isValid tag = true) :
    ∃ (t : Tables) (found others : List Item), lib.tables w.files = .ok t ∧
      (lib.search (parse ("?" ++ tag)) unlimited w).1 = .ok (found.map t.record) ∧
      (lib.search (parse ("-" ++ tag)) unlimited w).1 = .ok (others.map t.record) ∧
      (found ++ others).Nodup ∧ (found ++ others).Perm t.libraryItems ∧
      ∀ i ∈ t.items, (∃ m, ImportedFrom m i.id lib w) ∧
        ∀ m, ImportedFrom m i.id lib w → (i ∈ found ↔ ∃ other ∈ m.tags, Tag.Covers tag other) := by
  have notRoot := Tag.ne_root_of_isValid valid
  obtain ⟨t, content, consistent, -⟩ := reached.orderly
  have readable := content.readable isOpen
  have inLibrary : ∀ i ∈ t.items, i.inLibrary = true := by
    obtain ⟨t₀, content₀, placed⟩ := reached.inLibrary
    obtain rfl := content₀.eq content
    exact placed
  obtain ⟨found, searched, nodup, isFound⟩ :=
    reached.exists_search readable [.tagged tag] rfl
  obtain ⟨others, searched', nodup', isOther⟩ :=
    reached.exists_search readable [.untagged tag] rfl
  simp only [matches_tagged_iff notRoot] at isFound
  simp only [matches_untagged_iff notRoot] at isOther
  have distinct : (found ++ others).Nodup := by
    refine List.Nodup.append nodup nodup' fun i first second => ?_
    exact ((isOther i).mp second).2.2 ((isFound i).mp first).2.2
  refine ⟨t, found, others, readable, ?_, ?_, distinct, ?_, fun i there => ⟨?_, fun m origin => ?_⟩⟩
  · exact parse_tagged valid ▸ searched
  · exact parse_untagged valid ▸ searched'
  · refine (List.perm_ext_iff_of_nodup distinct consistent.keyed.libraryItems_nodup).mpr fun i => ?_
    rw [List.mem_append, isFound, isOther, Tables.mem_libraryItems]
    tauto
  · exact reached.accounted i.id (content.hasItem ▸ Tables.hasItem_iff.mpr ⟨i, there, rfl⟩)
  · rw [isFound, ← origin.tagged_iff content rfl]
    simp [there, inLibrary i there]

/-- The snare and the clap are imported and looked for as drums. -/
theorem drums_found :
    ∃ lib w, Reached lib w ∧ lib.isClosed = false ∧ Tag.isValid "/drums" = true ∧
      lib.hasItem w 1 = true ∧
      ∃ (t : Tables) (found others : List Item), lib.tables w.files = .ok t ∧
        (lib.search (parse ("?" ++ "/drums")) unlimited w).1 = .ok (found.map t.record) ∧
        (lib.search (parse ("-" ++ "/drums")) unlimited w).1 = .ok (others.map t.record) ∧
        (found ++ others).Nodup ∧ (found ++ others).Perm t.libraryItems ∧
        ∀ i ∈ t.items, (∃ m, ImportedFrom m i.id lib w) ∧
          ∀ m, ImportedFrom m i.id lib w →
            (i ∈ found ↔ ∃ other ∈ m.tags, Tag.Covers "/drums" other) := by
  obtain ⟨lib, opened, there⟩ := snare_there
  have isOpen := (openAt_ok opened).2.1
  have valid : Tag.isValid "/drums" = true := by decide
  have reached : Reached lib (snareWorlds lib).2.1 :=
    .imported clap false (.imported snare false (.created bareWorld_absent opened) snare_valid.tags)
      clap_tagsValid
  exact ⟨lib, _, reached, isOpen, valid, there, reached.tag_found_iff isOpen valid⟩

end Library

end SampleLibrary
