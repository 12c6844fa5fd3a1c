import SampleLibrary.Proofs.Storage.Schema
import SampleLibrary.Proofs.Tags

/-!
# Adding an item

A new item takes the next number, which nothing refers to yet. Its row comes with one more in the
counter of the library (`Tables.addRow`), each of its tags with one more in the counter of the tag and
a link, and each of its custom values with a key. After every one of these steps all counters are
right.
-/

namespace SampleLibrary.Tables

/-- The tables with the row of a record and with the library counted one higher. -/
def addRow (t : Tables) (m : Metadata) : Tables :=
  ({ t with
    items := t.items ++ [rowOf t.nextItem m]
    numbering := { t.numbering with items := t.nextItem } }.countTag Tag.root).2

/-- What the counter of a tag says; nothing is said of a tag that is not there. -/
def said (t : Tables) (name : String) : Int := ((t.tag? name).map (·.count)).getD 0

/-! ## Counting a tag -/

section CountTag

variable {t : Tables} {name : String}

@[simp]
theorem countTag_items : (t.countTag name).2.items = t.items := by
  unfold countTag
  dsimp only
  split <;> rfl

@[simp]
theorem countTag_links : (t.countTag name).2.links = t.links := by
  unfold countTag
  dsimp only
  split <;> rfl

@[simp]
theorem countTag_customs : (t.countTag name).2.customs = t.customs := by
  unfold countTag
  dsimp only
  split <;> rfl

@[simp]
theorem countTag_keys : (t.countTag name).2.keys = t.keys := by
  unfold countTag
  dsimp only
  split <;> rfl

theorem countTag_of_mem (keyed : t.Keyed) {row : TagRow} (present : row ∈ t.tags) :
    (t.countTag row.name).1 = row.id ∧
      (t.countTag row.name).2.tags = t.tags.map fun r =>
        if r.name == row.name then { r with count := r.count + 1 } else r := by
  have found : ({ t with numbering :=
      { t.numbering with tags := t.numbering.tags + 1 } } : Tables).tag? row.name = some row :=
    keyed.tag?_of_mem present
  unfold countTag
  dsimp only
  rw [found]
  exact ⟨rfl, rfl⟩

theorem countTag_of_absent (absent : name ∉ t.tags.map (·.name)) :
    (t.countTag name).1 = t.numbering.tags + 1 ∧
      (t.countTag name).2.tags = t.tags ++ [⟨t.numbering.tags + 1, name, 1⟩] := by
  have missing : ({ t with numbering :=
      { t.numbering with tags := t.numbering.tags + 1 } } : Tables).tag? name = none :=
    tag?_eq_none_iff.mpr absent
  unfold countTag
  dsimp only
  rw [missing]
  exact ⟨rfl, rfl⟩

theorem said_of_mem (keyed : t.Keyed) {row : TagRow} (present : row ∈ t.tags) :
    t.said row.name = row.count := by
  simp [said, keyed.tag?_of_mem present]

theorem said_of_absent (absent : name ∉ t.tags.map (·.name)) : t.said name = 0 := by
  simp [said, tag?_eq_none_iff.mpr absent]

/-- Afterwards there is one row for the tag, with one more than before, and the other rows are as they
were. -/
theorem mem_countTag_tags (keyed : t.Keyed) {r : TagRow} :
    r ∈ (t.countTag name).2.tags ↔
      r ∈ t.tags ∧ r.name ≠ name ∨ r = ⟨(t.countTag name).1, name, t.said name + 1⟩ := by
  by_cases present : name ∈ t.tags.map (·.name)
  · rcases List.mem_map.mp present with ⟨row, membership, rfl⟩
    rcases countTag_of_mem keyed membership with ⟨number, tags⟩
    rw [number, tags, said_of_mem keyed membership, List.mem_map]
    constructor
    · rintro ⟨s, old, rfl⟩
      by_cases same : s.name = row.name
      · rw [keyed.tag_eq_of_name old membership same]
        simp
      · simp [same, old]
    · rintro (⟨old, other⟩ | rfl)
      · exact ⟨r, old, by simp [other]⟩
      · exact ⟨row, membership, by simp⟩
  · rcases countTag_of_absent present with ⟨number, tags⟩
    rw [number, tags, said_of_absent present, List.mem_append, List.mem_singleton, Int.zero_add]
    constructor
    · rintro (old | new)
      · exact .inl ⟨old, fun same => present (same ▸ List.mem_map_of_mem old)⟩
      · exact .inr new
    · rintro (⟨old, -⟩ | new)
      · exact .inl old
      · exact .inr new

theorem countTag_hasTag (keyed : t.Keyed) : (t.countTag name).2.hasTag (t.countTag name).1 = true :=
  hasTag_iff.mpr ⟨_, (mem_countTag_tags keyed).mpr (.inr rfl), rfl⟩

theorem hasTag_countTag (keyed : t.Keyed) {id : Int} (present : t.hasTag id = true) :
    (t.countTag name).2.hasTag id = true := by
  rcases hasTag_iff.mp present with ⟨r, membership, rfl⟩
  by_cases same : r.name = name
  · subst same
    rw [← (countTag_of_mem keyed membership).1]
    exact countTag_hasTag keyed
  · exact hasTag_iff.mpr ⟨r, (mem_countTag_tags keyed).mpr (.inl ⟨membership, same⟩), rfl⟩

theorem mem_names_countTag (keyed : t.Keyed) {other : String} :
    other ∈ (t.countTag name).2.tags.map (·.name) ↔
      other ∈ t.tags.map (·.name) ∨ other = name := by
  simp only [List.mem_map, mem_countTag_tags keyed]
  constructor
  · rintro ⟨r, ⟨old, -⟩ | rfl, rfl⟩
    · exact .inl ⟨r, old, rfl⟩
    · exact .inr rfl
  · rintro (⟨r, old, rfl⟩ | rfl)
    · by_cases same : r.name = name
      · exact ⟨_, .inr rfl, same.symm⟩
      · exact ⟨r, .inl ⟨old, same⟩, rfl⟩
    · exact ⟨_, .inr rfl, rfl⟩

/-- The number for a tag that was there already is that of its row, and any other one is new. -/
theorem countTag_id_ne (keyed : t.Keyed) {r : TagRow} (old : r ∈ t.tags) (other : r.name ≠ name) :
    r.id ≠ (t.countTag name).1 := by
  by_cases present : name ∈ t.tags.map (·.name)
  · rcases List.mem_map.mp present with ⟨row, membership, rfl⟩
    rw [(countTag_of_mem keyed membership).1]
    exact fun same => other (congrArg TagRow.name (keyed.tag_eq old membership same))
  · rw [(countTag_of_absent present).1]
    exact fun same => keyed.next_tag_fresh (same ▸ List.mem_map_of_mem old)

theorem Keyed.countTag (keyed : t.Keyed) (name : String) : (t.countTag name).2.Keyed := by
  unfold Tables.countTag
  dsimp only
  split
  · refine keyed.skipNumber.congr_tags (fun r => ?_) (fun r => ?_) <;> split <;> rfl
  · rename_i missing
    exact keyed.appendTag (tag?_eq_none_iff.mp missing) 1

end CountTag

/-! ## The row of an item -/

section AddRow

variable {t : Tables} {m : Metadata}

theorem le_foldl_max {numbers : List Int} {start number : Int}
    (bound : number ≤ start ∨ number ∈ numbers) : number ≤ numbers.foldl max start := by
  induction numbers generalizing start with
  | nil => simpa using bound
  | cons head tail inductionHypothesis =>
      apply inductionHypothesis
      rcases bound with below | membership
      · exact .inl (Int.le_trans below (Int.le_max_left _ _))
      · rcases List.mem_cons.mp membership with rfl | inTail
        · exact .inl (Int.le_max_right _ _)
        · exact .inr inTail

/-- No item has the next number. -/
theorem nextItem_fresh : t.nextItem ∉ t.items.map (·.id) := by
  intro membership
  have bound : t.nextItem ≤ (t.items.map (·.id)).foldl max t.numbering.items :=
    le_foldl_max (.inr membership)
  unfold nextItem at bound
  omega

theorem hasItem_nextItem : t.hasItem t.nextItem = false := by
  rw [← Bool.not_eq_true, hasItem_iff]
  rintro ⟨i, membership, same⟩
  exact nextItem_fresh (List.mem_map.mpr ⟨i, membership, same⟩)

theorem ne_nextItem_of_hasItem {id : Int} (present : t.hasItem id = true) : id ≠ t.nextItem := by
  rintro rfl
  rw [hasItem_nextItem] at present
  cases present

theorem rowOf_inLibrary (id : Int) : (rowOf id m).inLibrary = true := rfl

theorem rowOf_checksum {id : Int} {md5 : String} (checksum : m.md5 = some md5) :
    (rowOf id m).cell .md5 = .text md5 := by
  simp [rowOf, Metadata.get?, checksum, Cell.ofValue, Cell.toColumn, Field.kind, Cell.toTextColumn]

/-- The tables with only the row: the counter of the library is one behind. -/
theorem keyed_appendRow (keyed : t.Keyed) {md5 : String} (checksum : m.md5 = some md5)
    (unknown : t.libraryItem? md5 = none) :
    ({ t with
      items := t.items ++ [rowOf t.nextItem m]
      numbering := { t.numbering with items := t.nextItem } } : Tables).Keyed :=
  { keyed with
    itemIds := nodup_map_append_singleton keyed.itemIds nextItem_fresh
    checksums := by
      simp only [libraryItems, List.filter_append, List.filter_singleton, rowOf_inLibrary]
      apply nodup_map_append_singleton keyed.checksums
      rw [rowOf_checksum checksum]
      intro membership
      rcases List.mem_map.mp membership with ⟨i, old, same⟩
      exact List.find?_eq_none.mp unknown i old (by simp [same])
    checksumTexts := fun i membership => by
      rcases List.mem_append.mp membership with old | new
      · exact keyed.checksumTexts i old
      · rw [List.mem_singleton.mp new]
        exact ⟨md5, rowOf_checksum checksum⟩ }

theorem addRow_items : (t.addRow m).items = t.items ++ [rowOf t.nextItem m] := countTag_items

theorem addRow_links : (t.addRow m).links = t.links := countTag_links

theorem addRow_customs : (t.addRow m).customs = t.customs := countTag_customs

theorem addRow_keys : (t.addRow m).keys = t.keys := countTag_keys

theorem addRow_libraryItems :
    (t.addRow m).libraryItems = t.libraryItems ++ [rowOf t.nextItem m] := by
  simp [libraryItems, addRow_items, rowOf_inLibrary]

theorem rowOf_mem_addRow : rowOf t.nextItem m ∈ (t.addRow m).libraryItems := by
  rw [addRow_libraryItems]
  exact List.mem_append_right _ (List.mem_singleton_self _)

theorem Keyed.addRow (keyed : t.Keyed) {md5 : String} (checksum : m.md5 = some md5)
    (unknown : t.libraryItem? md5 = none) : (t.addRow m).Keyed :=
  (keyed_appendRow keyed checksum unknown).countTag Tag.root

theorem hasItem_addRow {id : Int} (present : t.hasItem id = true) :
    (t.addRow m).hasItem id = true := by
  rcases hasItem_iff.mp present with ⟨i, membership, rfl⟩
  exact hasItem_iff.mpr ⟨i, addRow_items ▸ List.mem_append_left _ membership, rfl⟩

theorem Anchored.addRow (anchored : t.Anchored) (keyed : t.Keyed) {md5 : String}
    (checksum : m.md5 = some md5) (unknown : t.libraryItem? md5 = none) :
    (t.addRow m).Anchored where
  linkItems l membership := hasItem_addRow (anchored.linkItems l (addRow_links ▸ membership))
  linkTags l membership :=
    hasTag_countTag (keyed_appendRow keyed checksum unknown)
      (anchored.linkTags l (addRow_links ▸ membership))
  customs c membership := by
    rcases isAnchored_iff.mp (anchored.customs c (addRow_customs ▸ membership)) with ⟨item, key⟩
    refine isAnchored_iff.mpr ⟨hasItem_addRow item, ?_⟩
    rw [hasKey, addRow_keys]
    exact key

/-- Nothing refers to the new item yet, so that only the counter of the library has to change. -/
theorem carriers_addRow (anchored : t.Anchored) (tag : Int) :
    (t.addRow m).carriers tag = t.carriers tag := by
  unfold carriers
  rw [addRow_links, addRow_libraryItems]
  apply List.flatMap_congr
  intro l membership
  have present := anchored.linkItems l (List.mem_of_mem_filter membership)
  have differs : t.nextItem ≠ l.item := (ne_nextItem_of_hasItem present).symm
  simp [List.filter_append, rowOf, differs]

theorem Counted.addRow (counted : t.Counted) (keyed : t.Keyed) (anchored : t.Anchored)
    {md5 : String} (checksum : m.md5 = some md5) (unknown : t.libraryItem? md5 = none) :
    (t.addRow m).Counted := by
  have keyedRow := keyed_appendRow keyed checksum unknown
  refine ⟨(mem_names_countTag keyedRow).mpr (.inr rfl), ?_⟩
  intro r membership
  rcases (mem_countTag_tags keyedRow).mp membership with ⟨old, notRoot⟩ | rfl
  · rw [counted.counts r old, actualCount_of_ne_root notRoot, actualCount_of_ne_root notRoot,
      carriers_addRow anchored]
  · rw [actualCount_root rfl, addRow_libraryItems]
    rcases List.mem_map.mp counted.rooted with ⟨root, present, isRoot⟩
    have before : t.said Tag.root = t.libraryItems.length := by
      rw [← isRoot, said_of_mem keyed present, counted.counts root present, actualCount_root isRoot]
    have unchanged : said { t with
        items := t.items ++ [rowOf t.nextItem m]
        numbering := { t.numbering with items := t.nextItem } } Tag.root = t.said Tag.root := rfl
    simp [unchanged, before]

end AddRow

/-! ## The tags of an item -/

section AddTag

variable {t : Tables} {item : Int} {name : String}

@[simp]
theorem addTag_items : (addTag item t name).items = t.items := countTag_items

@[simp]
theorem addTag_customs : (addTag item t name).customs = t.customs := countTag_customs

@[simp]
theorem addTag_keys : (addTag item t name).keys = t.keys := countTag_keys

@[simp]
theorem addTag_tags : (addTag item t name).tags = (t.countTag name).2.tags := rfl

theorem addTag_links :
    (addTag item t name).links = t.links ++ [⟨item, (t.countTag name).1⟩] := by
  simp [addTag]

theorem addTag_libraryItems : (addTag item t name).libraryItems = t.libraryItems := by
  simp [libraryItems]

/-- The item carries none of these tags yet. -/
def CarriesNone (t : Tables) (item : Int) (names : List String) : Prop :=
  ∀ l ∈ t.links, l.item = item → ∀ r ∈ t.tags, r.id = l.tag → r.name ∉ names

theorem Keyed.addTag (keyed : t.Keyed) (anchored : t.Anchored) {names : List String}
    (free : t.CarriesNone item (name :: names)) : (addTag item t name).Keyed := by
  have fresh : (⟨item, (t.countTag name).1⟩ : Link) ∉ (t.countTag name).2.links := by
    intro old
    rw [countTag_links] at old
    rcases hasTag_iff.mp (anchored.linkTags _ old) with ⟨r, row, sameTag⟩
    by_cases sameName : r.name = name
    · exact free _ old rfl r row sameTag (sameName ▸ List.mem_cons_self)
    · exact countTag_id_ne keyed row sameName sameTag
  exact (keyed.countTag name).appendLink fresh

theorem Anchored.addTag (anchored : t.Anchored) (keyed : t.Keyed)
    (present : t.hasItem item = true) : (addTag item t name).Anchored where
  linkItems l membership := by
    rw [addTag_links] at membership
    rw [hasItem, addTag_items]
    rcases List.mem_append.mp membership with old | new
    · exact anchored.linkItems l old
    · rw [List.mem_singleton.mp new]
      exact present
  linkTags l membership := by
    rw [addTag_links] at membership
    rw [hasTag, addTag_tags]
    rcases List.mem_append.mp membership with old | new
    · exact hasTag_countTag keyed (anchored.linkTags l old)
    · rw [List.mem_singleton.mp new]
      exact countTag_hasTag keyed
  customs c membership := by
    rw [addTag_customs] at membership
    rw [isAnchored, hasItem, hasKey, addTag_items, addTag_keys]
    exact anchored.customs c membership

/-- One more carrier for the tag that is added, and no more for any other one. -/
theorem length_carriers_addTag (keyed : t.Keyed) {i : Item} (present : i ∈ t.libraryItems)
    (tag : Int) :
    ((addTag i.id t name).carriers tag).length =
      (t.carriers tag).length + if (t.countTag name).1 = tag then 1 else 0 := by
  have once : (t.libraryItems.filter fun j => j.id == i.id).length = 1 := by
    have ids : (t.libraryItems.map (·.id)).Nodup :=
      keyed.itemIds.sublist (List.filter_sublist.map _)
    rw [← List.countP_eq_length_filter]
    have counted := List.count_eq_one_of_mem ids (List.mem_map_of_mem present)
    rw [List.count, List.countP_map] at counted
    exact counted
  unfold carriers
  rw [addTag_links, addTag_libraryItems, List.filter_append, List.flatMap_append, List.length_append]
  by_cases same : (t.countTag name).1 = tag
  · simp [same, once]
  · simp [same]

theorem said_eq_length_carriers (keyed : t.Keyed) (anchored : t.Anchored) (counted : t.Counted)
    (notRoot : name ≠ Tag.root) : t.said name = (t.carriers (t.countTag name).1).length := by
  by_cases present : name ∈ t.tags.map (·.name)
  · rcases List.mem_map.mp present with ⟨row, membership, rfl⟩
    rw [said_of_mem keyed membership, (countTag_of_mem keyed membership).1,
      counted.counts row membership, actualCount_of_ne_root notRoot]
  · -- the number is new, so that no link has it
    have unlinked : (t.links.filter fun l => l.tag == t.numbering.tags + 1) = [] := by
      rw [List.filter_eq_nil_iff]
      intro l membership same
      rcases hasTag_iff.mp (anchored.linkTags l membership) with ⟨r, row, sameTag⟩
      rw [beq_iff_eq] at same
      exact keyed.next_tag_fresh (same ▸ sameTag ▸ List.mem_map_of_mem row)
    rw [said_of_absent present, (countTag_of_absent present).1, carriers, unlinked]
    rfl

theorem Counted.addTag (counted : t.Counted) (keyed : t.Keyed) (anchored : t.Anchored)
    {i : Item} (present : i ∈ t.libraryItems) (notRoot : name ≠ Tag.root) :
    (addTag i.id t name).Counted := by
  refine ⟨?_, ?_⟩
  · rw [addTag_tags, mem_names_countTag keyed]
    exact .inl counted.rooted
  · intro r membership
    rw [addTag_tags] at membership
    rcases (mem_countTag_tags keyed).mp membership with ⟨old, other⟩ | rfl
    · rw [counted.counts r old]
      by_cases isRoot : r.name = Tag.root
      · rw [actualCount_root isRoot, actualCount_root isRoot, addTag_libraryItems]
      · rw [actualCount_of_ne_root isRoot, actualCount_of_ne_root isRoot,
          length_carriers_addTag keyed present, if_neg (Ne.symm (countTag_id_ne keyed old other))]
        rfl
    · rw [actualCount_of_ne_root notRoot, length_carriers_addTag keyed present, if_pos rfl,
        said_eq_length_carriers keyed anchored counted notRoot]
      rfl

theorem CarriesNone.addTag {names : List String} (free : t.CarriesNone item (name :: names))
    (keyed : t.Keyed) (distinct : name ∉ names) :
    (addTag item t name).CarriesNone item names := by
  intro l membership sameItem r row sameTag
  rw [addTag_tags] at row
  rcases (mem_countTag_tags keyed).mp row with ⟨old, other⟩ | rfl
  · rw [addTag_links] at membership
    rcases List.mem_append.mp membership with oldLink | newLink
    · exact fun later => free l oldLink sameItem r old sameTag (List.mem_cons_of_mem _ later)
    · rw [List.mem_singleton.mp newLink] at sameTag
      exact absurd sameTag (countTag_id_ne keyed old other)
  · exact distinct

theorem Consistent.addTag {names : List String} {i : Item} (consistent : t.Consistent)
    (present : i ∈ t.libraryItems) (free : t.CarriesNone i.id (name :: names))
    (valid : Tag.isValid name = true) : (Tables.addTag i.id t name).Consistent where
  keyed := consistent.keyed.addTag consistent.anchored free
  anchored := consistent.anchored.addTag consistent.keyed
    (hasItem_iff.mpr ⟨i, (mem_libraryItems.mp present).1, rfl⟩)
  counted := consistent.counted.addTag consistent.keyed consistent.anchored present
    (Tag.ne_root_of_isValid valid)
  named r row := by
    rcases (mem_countTag_tags consistent.keyed).mp row with ⟨old, -⟩ | rfl
    · exact consistent.named r old
    · simp [Query.Condition.isTagName, valid]

/-- Tables stay consistent while the tags of an item are added, one after the other. -/
theorem foldl_addTag {names : List String} {i : Item} (consistent : t.Consistent)
    (present : i ∈ t.libraryItems) (free : t.CarriesNone i.id names) (distinct : names.Nodup)
    (valid : ∀ name ∈ names, Tag.isValid name = true) :
    (names.foldl (Tables.addTag i.id) t).Consistent ∧
      (names.foldl (Tables.addTag i.id) t).items = t.items := by
  induction names generalizing t with
  | nil => exact ⟨consistent, rfl⟩
  | cons name names inductionHypothesis =>
      rw [List.nodup_cons] at distinct
      have step := consistent.addTag present free (valid name List.mem_cons_self)
      have rest := inductionHypothesis step (by rw [addTag_libraryItems]; exact present)
        (free.addTag consistent.keyed distinct.1) distinct.2
        (fun other membership => valid other (List.mem_cons_of_mem _ membership))
      rw [addTag_items] at rest
      exact rest

end AddTag

/-! ## The custom values of an item -/

section AddCustom

variable {t : Tables} {item : Int} {entry : String × String}

@[simp]
theorem addCustom_items : (addCustom item t entry).items = t.items := by
  unfold addCustom keyNumber
  dsimp only
  split <;> rfl

@[simp]
theorem addCustom_links : (addCustom item t entry).links = t.links := by
  unfold addCustom keyNumber
  dsimp only
  split <;> rfl

@[simp]
theorem addCustom_tags : (addCustom item t entry).tags = t.tags := by
  unfold addCustom keyNumber
  dsimp only
  split <;> rfl

@[simp]
theorem addCustom_numbering : (addCustom item t entry).numbering.tags = t.numbering.tags := by
  unfold addCustom keyNumber
  dsimp only
  split <;> rfl

theorem keyNumber_hasKey (name : String) :
    (t.keyNumber name).2.hasKey (t.keyNumber name).1 = true ∧
      ∀ id, t.hasKey id = true → (t.keyNumber name).2.hasKey id = true := by
  unfold keyNumber
  dsimp only
  split
  · rename_i row found
    exact ⟨hasKey_iff.mpr ⟨row, List.mem_of_find?_eq_some found, rfl⟩, fun id present => present⟩
  · refine ⟨by simp [hasKey], ?_⟩
    intro id present
    rcases hasKey_iff.mp present with ⟨k, membership, rfl⟩
    exact hasKey_iff.mpr ⟨k, List.mem_append_left _ membership, rfl⟩

theorem addCustom_customs :
    (addCustom item t entry).customs =
      t.customs ++ [⟨item, (t.keyNumber entry.1).1, some entry.2⟩] := by
  have same : (t.keyNumber entry.1).2.customs = t.customs := by
    unfold keyNumber
    dsimp only
    split <;> rfl
  simp [addCustom, same]

theorem Anchored.addCustom (anchored : t.Anchored) (present : t.hasItem item = true) :
    (addCustom item t entry).Anchored where
  linkItems l membership := by
    rw [addCustom_links] at membership
    rw [hasItem, addCustom_items]
    exact anchored.linkItems l membership
  linkTags l membership := by
    rw [addCustom_links] at membership
    rw [hasTag, addCustom_tags]
    exact anchored.linkTags l membership
  customs c membership := by
    rcases keyNumber_hasKey (t := t) entry.1 with ⟨ownKey, otherKeys⟩
    rw [addCustom_customs] at membership
    rw [isAnchored_iff, hasItem, addCustom_items]
    rcases List.mem_append.mp membership with old | new
    · rcases isAnchored_iff.mp (anchored.customs c old) with ⟨hasRow, key⟩
      exact ⟨hasRow, otherKeys _ key⟩
    · rw [List.mem_singleton.mp new]
      exact ⟨present, ownKey⟩

theorem Consistent.addCustom (consistent : t.Consistent) (present : t.hasItem item = true) :
    (Tables.addCustom item t entry).Consistent where
  keyed := Fewer.keyed ⟨by simp, by simp, addCustom_tags, addCustom_numbering⟩ consistent.keyed
  anchored := consistent.anchored.addCustom present
  counted := consistent.counted.congr addCustom_items addCustom_links addCustom_tags
  named := by rw [addCustom_tags]; exact consistent.named

theorem foldl_addCustom (entries : List (String × String)) (consistent : t.Consistent)
    (present : t.hasItem item = true) :
    (entries.foldl (Tables.addCustom item) t).Consistent := by
  induction entries generalizing t with
  | nil => exact consistent
  | cons entry entries inductionHypothesis =>
      apply inductionHypothesis (consistent.addCustom present)
      rw [hasItem, addCustom_items]
      exact present

end AddCustom

/-! ## All of it -/

theorem Consistent.addRow {t : Tables} {m : Metadata} {md5 : String} (consistent : t.Consistent)
    (checksum : m.md5 = some md5) (unknown : t.libraryItem? md5 = none) :
    (t.addRow m).Consistent where
  keyed := consistent.keyed.addRow checksum unknown
  anchored := consistent.anchored.addRow consistent.keyed checksum unknown
  counted := consistent.counted.addRow consistent.keyed consistent.anchored checksum unknown
  named r row := by
    have keyedRow := keyed_appendRow consistent.keyed checksum unknown
    rcases (mem_countTag_tags keyedRow).mp row with ⟨old, -⟩ | rfl
    · exact consistent.named r old
    · simp [Query.Condition.isTagName]

/-- Nothing is linked to a new row. -/
theorem Anchored.carriesNone {t : Tables} {m : Metadata} (anchored : t.Anchored) (names : List String) :
    (t.addRow m).CarriesNone t.nextItem names := by
  intro l membership sameItem
  rw [addRow_links] at membership
  exact absurd sameItem (ne_nextItem_of_hasItem (anchored.linkItems l membership))

theorem nodup_toList (tags : TagSet) : tags.toList.Nodup :=
  tags.distinct_toList.imp fun {a b} differ same => by simp [same] at differ

/-- Adding an item whose checksum is not in the library keeps the tables consistent. -/
theorem Consistent.addItem {t : Tables} {m : Metadata} {tags : TagSet} {md5 : String}
    (consistent : t.Consistent) (checksum : m.md5 = some md5)
    (unknown : t.libraryItem? md5 = none) (valid : ∀ tag ∈ tags, Tag.isValid tag = true) :
    (t.addItem m tags).2.Consistent := by
  have present : rowOf t.nextItem m ∈ (t.addRow m).libraryItems := rowOf_mem_addRow
  have free := consistent.anchored.carriesNone (m := m) tags.toList
  rcases foldl_addTag (consistent.addRow checksum unknown) present free (nodup_toList tags)
    (fun tag membership => valid tag (Std.ExtTreeSet.mem_toList.mp membership)) with
    ⟨consistentTags, items⟩
  have hasRow : (tags.toList.foldl (Tables.addTag t.nextItem) (t.addRow m)).hasItem t.nextItem = true :=
    hasItem_iff.mpr ⟨rowOf t.nextItem m, items ▸ (mem_libraryItems.mp present).1, rfl⟩
  have all := foldl_addCustom m.custom.toList consistentTags hasRow
  -- the document of the item says nothing about rows of other tables
  have documented : Fewer (m.custom.toList.foldl (Tables.addCustom t.nextItem)
      (tags.toList.foldl (Tables.addTag t.nextItem) (t.addRow m))) (t.addItem m tags).2 :=
    ⟨.refl _, .refl _, rfl, rfl⟩
  exact
    { keyed := documented.keyed all.keyed
      anchored := ⟨all.anchored.linkItems, all.anchored.linkTags, all.anchored.customs⟩
      counted := all.counted.congr rfl rfl rfl
      named := all.named }

/-- What every step leaves alone, all steps leave alone. -/
theorem foldl_keeps {α β : Type} (part : Tables → β) {add : Tables → α → Tables}
    (same : ∀ t a, part (add t a) = part t) (as : List α) (t : Tables) :
    part (as.foldl add t) = part t := by
  induction as generalizing t with
  | nil => rfl
  | cons a as inductionHypothesis => rw [List.foldl_cons, inductionHypothesis, same]

/-- Adding an item adds one row to the items. -/
theorem addItem_items (t : Tables) (m : Metadata) (tags : TagSet) :
    (t.addItem m tags).2.items = t.items ++ [rowOf t.nextItem m] := by
  have tagged : (tags.toList.foldl (Tables.addTag t.nextItem) (t.addRow m)).items =
      t.items ++ [rowOf t.nextItem m] := by
    rw [foldl_keeps (·.items) fun _ _ => addTag_items, addRow_items]
  rw [← tagged]
  exact foldl_keeps (·.items) (fun _ _ => addCustom_items) _ _

/-- Adding an item adds custom values that have a text. -/
theorem mem_customs_addItem {t : Tables} {m : Metadata} {tags : TagSet} {c : CustomRow}
    (membership : c ∈ (t.addItem m tags).2.customs) :
    c ∈ t.customs ∨ ∃ value, c.value = some value := by
  have filled (entries : List (String × String)) (t' : Tables)
      (there : c ∈ (entries.foldl (addCustom t.nextItem) t').customs) :
      c ∈ t'.customs ∨ ∃ value, c.value = some value := by
    induction entries generalizing t' with
    | nil => exact .inl there
    | cons entry entries inductionHypothesis =>
        rcases inductionHypothesis _ there with before | valued
        · rw [addCustom_customs] at before
          rcases List.mem_append.mp before with old | new
          · exact .inl old
          · exact .inr ⟨entry.2, by rw [List.mem_singleton.mp new]⟩
        · exact .inr valued
  have tagged : (tags.toList.foldl (Tables.addTag t.nextItem) (t.addRow m)).customs = t.customs := by
    rw [foldl_keeps (·.customs) fun _ _ => addTag_customs, addRow_customs]
  rcases filled _ _ membership with old | valued
  · exact .inl (tagged ▸ old)
  · exact .inr valued

theorem fresh_consistent : fresh.Consistent where
  keyed :=
    { itemIds := List.nodup_nil
      checksums := List.nodup_nil
      checksumTexts := fun _ membership => absurd membership List.not_mem_nil
      tagIds := by decide
      tagNames := by decide
      tagNumbers := by decide
      links := List.nodup_nil }
  anchored :=
    { linkItems := fun _ membership => absurd membership List.not_mem_nil
      linkTags := fun _ membership => absurd membership List.not_mem_nil
      customs := fun _ membership => absurd membership List.not_mem_nil }
  counted := ⟨by decide, by decide⟩
  named := by decide

end SampleLibrary.Tables
