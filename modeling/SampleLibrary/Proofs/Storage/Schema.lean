import Mathlib.Data.List.Nodup
import SampleLibrary.Query.Condition
import SampleLibrary.Verifier.Links

/-!
# What holds of the tables

`Tables.Keyed` is what the database sees to by itself, whoever changes it: numbers and names are there
once only. `Tables.Anchored` says that rows refer to rows that are there, and `Tables.Counted` that
the counters of the tags are right. Only the library sees to the last two, and to the names of tags;
tables that it has made are `Tables.Consistent`.

Removing rows keeps everything but the counters, and counting anew puts them right.
-/

namespace SampleLibrary

theorem nodup_map_append_singleton {α β : Type*} {f : α → β} {rows : List α} {row : α}
    (nodup : (rows.map f).Nodup) (fresh : f row ∉ rows.map f) :
    ((rows ++ [row]).map f).Nodup := by
  rw [List.map_append, List.nodup_append]
  refine ⟨nodup, by simp, ?_⟩
  intro value old new membership same
  rw [List.map_singleton, List.mem_singleton] at membership
  exact fresh (membership ▸ same ▸ old)

/-- What has gone well to the end has gone well up to its middle. -/
theorem exists_of_bind_ok {ε α β : Type} {first : Except ε α} {second : α → Except ε β} {b : β}
    (done : first >>= second = .ok b) : ∃ a, first = .ok a ∧ second a = .ok b := by
  cases first with
  | error e => cases done
  | ok a => exact ⟨a, rfl, done⟩

theorem exists_of_map_ok {ε α β : Type} {first : Except ε α} {f : α → β} {b : β}
    (done : first.map f = .ok b) : ∃ a, first = .ok a ∧ f a = b := by
  cases first with
  | error e => cases done
  | ok a => exact ⟨a, rfl, Except.ok.inj done⟩

namespace Tables

/-- What the unique columns of the tables demand. -/
structure Keyed (t : Tables) : Prop where
  itemIds : (t.items.map (·.id)).Nodup
  checksums : (t.libraryItems.map fun i => i.cell .md5).Nodup
  checksumTexts : ∀ i ∈ t.items, ∃ md5, i.cell .md5 = .text md5
  tagIds : (t.tags.map (·.id)).Nodup
  tagNames : (t.tags.map (·.name)).Nodup
  tagNumbers : ∀ r ∈ t.tags, r.id ≤ t.numbering.tags
  links : t.links.Nodup

/-- No row refers to an item, a tag or a key that is not there. -/
structure Anchored (t : Tables) : Prop where
  linkItems : ∀ l ∈ t.links, t.hasItem l.item
  linkTags : ∀ l ∈ t.links, t.hasTag l.tag
  customs : ∀ c ∈ t.customs, t.isAnchored c

/-- Every counter is right, and there is one for the whole library. -/
structure Counted (t : Tables) : Prop where
  rooted : Tag.root ∈ t.tags.map (·.name)
  counts : ∀ r ∈ t.tags, r.count = t.actualCount r

/-- What holds of tables that nobody but the library has changed, even after items are gone: all but the
counters is right. -/
structure Whole (t : Tables) : Prop where
  keyed : t.Keyed
  anchored : t.Anchored
  rooted : Tag.root ∈ t.tags.map (·.name)
  named : ∀ r ∈ t.tags, Query.Condition.isTagName r.name = true

/-- What holds of tables that nobody but the library has changed. -/
structure Consistent (t : Tables) : Prop where
  keyed : t.Keyed
  anchored : t.Anchored
  counted : t.Counted
  named : ∀ r ∈ t.tags, Query.Condition.isTagName r.name = true

theorem Consistent.whole {t : Tables} (consistent : t.Consistent) : t.Whole :=
  ⟨consistent.keyed, consistent.anchored, consistent.counted.rooted, consistent.named⟩

/-- The library items that links give a tag to, once for each link. -/
def carriers (t : Tables) (tag : Int) : List Item :=
  (t.links.filter fun l => l.tag == tag).flatMap fun l =>
    t.libraryItems.filter fun i => i.id == l.item

section Lookup

variable {t : Tables}

theorem mem_libraryItems {i : Item} :
    i ∈ t.libraryItems ↔ i ∈ t.items ∧ i.inLibrary = true := by
  simp [libraryItems]

theorem hasItem_iff {id : Int} : t.hasItem id = true ↔ ∃ i ∈ t.items, i.id = id := by
  simp [hasItem]

theorem hasTag_iff {id : Int} : t.hasTag id = true ↔ ∃ r ∈ t.tags, r.id = id := by
  simp [hasTag]

theorem hasKey_iff {id : Int} : t.hasKey id = true ↔ ∃ k ∈ t.keys, k.id = id := by
  simp [hasKey]

theorem isAnchored_iff {c : CustomRow} :
    t.isAnchored c = true ↔ t.hasItem c.item = true ∧ t.hasKey c.key = true := by
  simp [isAnchored]

theorem tag?_isSome_iff {name : String} :
    (t.tag? name).isSome = true ↔ name ∈ t.tags.map (·.name) := by
  simp [tag?]

theorem tag?_eq_none_iff {name : String} :
    t.tag? name = none ↔ name ∉ t.tags.map (·.name) := by
  simp [tag?]

theorem tag?_eq_some {name : String} {r : TagRow} (found : t.tag? name = some r) :
    r ∈ t.tags ∧ r.name = name :=
  ⟨List.mem_of_find?_eq_some found, by simpa using List.find?_some found⟩

theorem actualCount_root {r : TagRow} (isRoot : r.name = Tag.root) :
    t.actualCount r = t.libraryItems.length := by
  simp [actualCount, isRoot]

theorem actualCount_of_ne_root {r : TagRow} (notRoot : r.name ≠ Tag.root) :
    t.actualCount r = (t.carriers r.id).length := by
  simp [actualCount, carriers, notRoot]

theorem wrongCounts_eq_nil_iff :
    t.wrongCounts = [] ↔ ∀ r ∈ t.tags, r.count = t.actualCount r := by
  simp [wrongCounts, sortedTags, List.filter_eq_nil_iff]

namespace Keyed

theorem item_eq (keyed : t.Keyed) {i j : Item} (hi : i ∈ t.items) (hj : j ∈ t.items)
    (same : i.id = j.id) : i = j :=
  List.inj_on_of_nodup_map keyed.itemIds hi hj same

theorem tag_eq (keyed : t.Keyed) {r s : TagRow} (hr : r ∈ t.tags) (hs : s ∈ t.tags)
    (same : r.id = s.id) : r = s :=
  List.inj_on_of_nodup_map keyed.tagIds hr hs same

theorem tag_eq_of_name (keyed : t.Keyed) {r s : TagRow} (hr : r ∈ t.tags) (hs : s ∈ t.tags)
    (same : r.name = s.name) : r = s :=
  List.inj_on_of_nodup_map keyed.tagNames hr hs same

theorem tag?_of_mem (keyed : t.Keyed) {r : TagRow} (hr : r ∈ t.tags) :
    t.tag? r.name = some r := by
  cases found : t.tag? r.name with
  | none => exact absurd (List.mem_map_of_mem hr) (tag?_eq_none_iff.mp found)
  | some s =>
      rcases tag?_eq_some found with ⟨membership, sameName⟩
      rw [keyed.tag_eq_of_name membership hr sameName]

/-- The library item with a checksum is the only one. -/
theorem libraryItem?_of_mem (keyed : t.Keyed) {i : Item} (hi : i ∈ t.libraryItems)
    {md5 : String} (checksum : i.cell .md5 = .text md5) : t.libraryItem? md5 = some i := by
  cases found : t.libraryItem? md5 with
  | none =>
      have differs := List.find?_eq_none.mp found i hi
      simp [checksum] at differs
  | some j =>
      have membership := List.mem_of_find?_eq_some found
      have same := List.find?_some found
      rw [beq_iff_eq] at same
      rw [List.inj_on_of_nodup_map keyed.checksums membership hi (same.trans checksum.symm)]

/-- The next number for a tag is not taken. -/
theorem next_tag_fresh (keyed : t.Keyed) : t.numbering.tags + 1 ∉ t.tags.map (·.id) := by
  intro membership
  rcases List.mem_map.mp membership with ⟨r, row, same⟩
  have bound := keyed.tagNumbers r row
  omega

theorem libraryItems_nodup (keyed : t.Keyed) : t.libraryItems.Nodup :=
  (List.Nodup.of_map _ keyed.itemIds).filter _

end Keyed

end Lookup

/-! ## Fewer rows -/

section Fewer

variable {t t' : Tables}

/-- Rows of items and what refers to them may have gone, and nothing else. -/
structure Fewer (t t' : Tables) : Prop where
  items : t'.items.Sublist t.items
  links : t'.links.Sublist t.links
  tags : t'.tags = t.tags
  numbers : t'.numbering.tags = t.numbering.tags

namespace Fewer

theorem refl (t : Tables) : Fewer t t := ⟨.refl _, .refl _, rfl, rfl⟩

theorem trans {t'' : Tables} (first : Fewer t t') (second : Fewer t' t'') : Fewer t t'' :=
  ⟨second.items.trans first.items, second.links.trans first.links,
    second.tags.trans first.tags, second.numbers.trans first.numbers⟩

theorem deleteItems (t : Tables) (ids : List Int) : Fewer t (t.deleteItems ids) :=
  ⟨List.filter_sublist, List.filter_sublist, rfl, rfl⟩

theorem keyed (fewer : Fewer t t') (keyed : t.Keyed) : t'.Keyed where
  itemIds := keyed.itemIds.sublist (fewer.items.map _)
  checksums := keyed.checksums.sublist ((fewer.items.filter _).map _)
  checksumTexts i membership := keyed.checksumTexts i (fewer.items.subset membership)
  tagIds := fewer.tags ▸ keyed.tagIds
  tagNames := fewer.tags ▸ keyed.tagNames
  tagNumbers r membership := fewer.numbers ▸ keyed.tagNumbers r (fewer.tags ▸ membership)
  links := keyed.links.sublist fewer.links

theorem libraryItems (fewer : Fewer t t') {i : Item} (there : i ∈ t'.libraryItems) :
    i ∈ t.libraryItems :=
  (fewer.items.filter _).subset there

end Fewer

theorem Counted.congr (counted : t.Counted) (items : t'.items = t.items)
    (links : t'.links = t.links) (tags : t'.tags = t.tags) : t'.Counted where
  rooted := tags ▸ counted.rooted
  counts r membership := by
    rw [counted.counts r (tags ▸ membership)]
    simp [actualCount, libraryItems, items, links]

theorem Keyed.deleteItems (keyed : t.Keyed) (ids : List Int) : (t.deleteItems ids).Keyed :=
  (Fewer.deleteItems t ids).keyed keyed

theorem mem_deleteItems_items {ids : List Int} {i : Item} :
    i ∈ (t.deleteItems ids).items ↔ i ∈ t.items ∧ i.id ∉ ids := by
  simp only [Tables.deleteItems, List.mem_filter, Bool.not_eq_true', Bool.and_eq_false_iff,
    List.contains_eq_mem, decide_eq_false_iff_not, List.any_eq_false, beq_iff_eq]
  exact ⟨fun ⟨membership, kept⟩ =>
    ⟨membership, kept.resolve_right fun absent => absent i membership rfl⟩,
    fun ⟨membership, kept⟩ => ⟨membership, .inl kept⟩⟩

/-- An item that is not deleted keeps whatever refers to it, and a deleted one takes it along. -/
theorem hasItem_deleteItems {ids : List Int} {id : Int} (present : t.hasItem id = true)
    (kept : (!(ids.contains id && t.items.any fun i => i.id == id)) = true) :
    (t.deleteItems ids).hasItem id = true := by
  rcases hasItem_iff.mp present with ⟨i, membership, rfl⟩
  refine hasItem_iff.mpr ⟨i, ?_, rfl⟩
  exact List.mem_filter.mpr ⟨membership, kept⟩

theorem Anchored.deleteItems (anchored : t.Anchored) (ids : List Int) :
    (t.deleteItems ids).Anchored where
  linkItems l membership := by
    rcases List.mem_filter.mp membership with ⟨old, kept⟩
    exact hasItem_deleteItems (anchored.linkItems l old) kept
  linkTags l membership := anchored.linkTags l (List.mem_of_mem_filter membership)
  customs c membership := by
    rcases List.mem_filter.mp membership with ⟨old, kept⟩
    rcases isAnchored_iff.mp (anchored.customs c old) with ⟨item, key⟩
    exact isAnchored_iff.mpr ⟨hasItem_deleteItems item kept, key⟩

end Fewer

/-! ## Changing the tags -/

section Retag

variable {t : Tables}

namespace Keyed

/-- Numbers and names of tags are all that matters of them. -/
theorem congr_tags (keyed : t.Keyed) {change : TagRow → TagRow}
    (sameId : ∀ r, (change r).id = r.id) (sameName : ∀ r, (change r).name = r.name) :
    ({ t with tags := t.tags.map change } : Tables).Keyed where
  itemIds := keyed.itemIds
  checksums := keyed.checksums
  checksumTexts := keyed.checksumTexts
  tagIds := by
    have same : t.tags.map (fun r => (change r).id) = t.tags.map (·.id) :=
      List.map_congr_left fun r _ => sameId r
    rw [List.map_map]
    exact same ▸ keyed.tagIds
  tagNames := by
    have same : t.tags.map (fun r => (change r).name) = t.tags.map (·.name) :=
      List.map_congr_left fun r _ => sameName r
    rw [List.map_map]
    exact same ▸ keyed.tagNames
  tagNumbers r membership := by
    rcases List.mem_map.mp membership with ⟨s, row, rfl⟩
    rw [sameId]
    exact keyed.tagNumbers s row
  links := keyed.links

/-- A number can be used up without a tag that takes it. -/
theorem skipNumber (keyed : t.Keyed) :
    ({ t with numbering := { t.numbering with tags := t.numbering.tags + 1 } } : Tables).Keyed :=
  { keyed with
    tagNumbers := fun r row => Int.le_trans (keyed.tagNumbers r row) (Int.le_add_of_nonneg_right
      (by decide)) }

/-- A tag of a new name can be added under the next number. -/
theorem appendTag (keyed : t.Keyed) {name : String} (absent : name ∉ t.tags.map (·.name))
    (count : Int) :
    ({ t with
      tags := t.tags ++ [⟨t.numbering.tags + 1, name, count⟩]
      numbering := { t.numbering with tags := t.numbering.tags + 1 } } : Tables).Keyed :=
  { keyed with
    tagIds := nodup_map_append_singleton keyed.tagIds keyed.next_tag_fresh
    tagNames := nodup_map_append_singleton keyed.tagNames absent
    tagNumbers := fun r membership => by
      rcases List.mem_append.mp membership with old | new
      · exact keyed.skipNumber.tagNumbers r old
      · obtain rfl := List.mem_singleton.mp new
        exact Int.le_refl _ }

/-- Tags can go. -/
theorem filterTags (keyed : t.Keyed) (kept : TagRow → Bool) :
    ({ t with tags := t.tags.filter kept } : Tables).Keyed :=
  { keyed with
    tagIds := keyed.tagIds.sublist (List.filter_sublist.map _)
    tagNames := keyed.tagNames.sublist (List.filter_sublist.map _)
    tagNumbers := fun r membership => keyed.tagNumbers r (List.mem_of_mem_filter membership) }

/-- A link that is not there yet can be added. -/
theorem appendLink (keyed : t.Keyed) {l : Link} (fresh : l ∉ t.links) :
    ({ t with links := t.links ++ [l] } : Tables).Keyed :=
  { keyed with
    links := by
      have nodup : ((t.links ++ [l]).map id).Nodup :=
        nodup_map_append_singleton (by simpa using keyed.links) (by simpa using fresh)
      simpa using nodup }

end Keyed

end Retag

/-! ## Counting anew -/

section Recount

variable {t : Tables}

@[simp]
theorem recount_items : t.recount.items = t.items := by
  unfold recount
  dsimp only
  split <;> rfl

@[simp]
theorem recount_links : t.recount.links = t.links := by
  unfold recount
  dsimp only
  split <;> rfl

@[simp]
theorem recount_customs : t.recount.customs = t.customs := by
  unfold recount
  dsimp only
  split <;> rfl

@[simp]
theorem recount_keys : t.recount.keys = t.keys := by
  unfold recount
  dsimp only
  split <;> rfl

theorem actualCount_congr {t t' : Tables} (items : t'.items = t.items)
    (links : t'.links = t.links) (r : TagRow) : t'.actualCount r = t.actualCount r := by
  simp [actualCount, libraryItems, items, links]

/-- The rows of the tags after counting: the old ones, and one for the root if there was none. -/
theorem recount_tags :
    t.recount.tags = ((if (t.tag? Tag.root).isSome then t.tags
      else t.tags ++ [⟨t.numbering.tags + 1, Tag.root, 0⟩]).map fun r =>
        { r with count := t.actualCount r }) := by
  unfold recount
  dsimp only
  have sameRoot : ({ t with numbering :=
      { t.numbering with tags := t.numbering.tags + 1 } } : Tables).tag? Tag.root
        = t.tag? Tag.root := rfl
  rw [sameRoot]
  split <;> exact List.map_congr_left fun r _ => by
    rw [actualCount_congr (t := t) (by rfl) (by rfl)]

theorem recount_counted : t.recount.Counted where
  rooted := by
    rw [recount_tags, List.map_map]
    split
    · rename_i present
      exact tag?_isSome_iff.mp present
    · simp
  counts r membership := by
    rw [recount_tags] at membership
    rcases List.mem_map.mp membership with ⟨s, -, rfl⟩
    rw [actualCount_congr recount_items recount_links]
    simp [actualCount]

theorem recount_hasItem {id : Int} : t.recount.hasItem id = t.hasItem id := by
  simp [hasItem]

theorem recount_hasKey {id : Int} : t.recount.hasKey id = t.hasKey id := by
  simp [hasKey]

theorem recount_hasTag {id : Int} (present : t.hasTag id = true) : t.recount.hasTag id = true := by
  rcases hasTag_iff.mp present with ⟨r, membership, rfl⟩
  rw [hasTag_iff, recount_tags]
  refine ⟨{ r with count := t.actualCount r }, List.mem_map.mpr ⟨r, ?_, rfl⟩, rfl⟩
  split
  · exact membership
  · exact List.mem_append_left _ membership

theorem Anchored.recount (anchored : t.Anchored) : t.recount.Anchored where
  linkItems l membership := by
    rw [recount_links] at membership
    rw [recount_hasItem, anchored.linkItems l membership]
  linkTags l membership := recount_hasTag (anchored.linkTags l (recount_links ▸ membership))
  customs c membership := by
    rw [recount_customs] at membership
    rw [isAnchored, recount_hasItem, recount_hasKey]
    exact anchored.customs c membership

theorem Keyed.recount (keyed : t.Keyed) : t.recount.Keyed := by
  unfold Tables.recount
  dsimp only
  refine Keyed.congr_tags ?_ (fun _ => rfl) (fun _ => rfl)
  split
  · exact keyed.skipNumber
  · rename_i absent
    rw [tag?_isSome_iff] at absent
    exact keyed.appendTag absent 0

/-- Items can go, as long as the counters are put right afterwards. -/
theorem Whole.deleteItems (whole : t.Whole) (ids : List Int) : (t.deleteItems ids).Whole :=
  ⟨whole.keyed.deleteItems ids, whole.anchored.deleteItems ids, whole.rooted, whole.named⟩

theorem Whole.recount (whole : t.Whole) : t.recount.Consistent where
  keyed := whole.keyed.recount
  anchored := whole.anchored.recount
  counted := recount_counted
  named r membership := by
    rw [recount_tags, if_pos (tag?_isSome_iff.mpr whole.rooted)] at membership
    rcases List.mem_map.mp membership with ⟨s, row, rfl⟩
    exact whole.named s row

end Recount

end Tables

end SampleLibrary
