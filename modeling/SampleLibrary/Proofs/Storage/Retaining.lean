import Mathlib.Logic.Relation
import SampleLibrary.Proofs.Storage.Adding

/-!
# What items keep

The record of an item is spread over the tables. While other items come and go, and while the verifier
repairs the tables, an item that is there before and afterwards keeps its row, its tags and its custom
values (`Tables.Retains`). Adding an item only adds rows about that item (`Tables.Grown`), and numbers of
tags and keys that are in use keep their names.
-/

namespace SampleLibrary.Tables

variable {t t' t'' : Tables} {id item : Int}

/-- The names of the tags with a number: there is one at most if the tables are in order. -/
def namesOfTag (t : Tables) (tag : Int) : List String :=
  (t.tags.filter fun r => r.id == tag).map (·.name)

def namesOfKey (t : Tables) (key : Int) : List String :=
  (t.keys.filter fun k => k.id == key).map (·.name)

theorem tagsOf_eq (t : Tables) (item : Int) :
    t.tagsOf item =
      (t.links.filter fun l => l.item == item).flatMap fun l => t.namesOfTag l.tag := rfl

theorem customsOf_eq (t : Tables) (item : Int) :
    t.customsOf item = (t.customs.filter fun c => c.item == item).flatMap fun c =>
      (t.namesOfKey c.key).map fun name => (name, c.value.getD "") := by
  simp [customsOf, namesOfKey, Function.comp_def]

theorem hasTag_iff_namesOfTag {tag : Int} : t.hasTag tag = true ↔ t.namesOfTag tag ≠ [] := by
  simp [namesOfTag, hasTag, List.filter_eq_nil_iff]

theorem hasKey_iff_namesOfKey {key : Int} : t.hasKey key = true ↔ t.namesOfKey key ≠ [] := by
  simp [namesOfKey, hasKey, List.filter_eq_nil_iff]

/-- A row whose key is there once is the only one that is found by it. -/
theorem filter_key_eq {α β : Type*} [BEq β] [LawfulBEq β] {key : α → β} {rows : List α}
    (distinct : (rows.map key).Nodup) {row : α} (membership : row ∈ rows) :
    (rows.filter fun r => key r == key row) = [row] := by
  induction rows with
  | nil => exact absurd membership List.not_mem_nil
  | cons first rows inductionHypothesis =>
      rw [List.map_cons, List.nodup_cons] at distinct
      rcases List.mem_cons.mp membership with rfl | later
      · have others : (rows.filter fun r => key r == key row) = [] := by
          rw [List.filter_eq_nil_iff]
          intro r inRows same
          exact distinct.1 (List.mem_map.mpr ⟨r, inRows, by simpa using same⟩)
        rw [List.filter_cons_of_pos (by simp), others]
      · have differs : key first ≠ key row :=
          fun same => distinct.1 (same ▸ List.mem_map_of_mem later)
        rw [List.filter_cons_of_neg (by simpa using differs), inductionHypothesis distinct.2 later]

/-- Rows that add nothing can be left out. -/
theorem flatMap_filter_and {α β : Type*} {rows : List α} {own kept : α → Bool} {f : α → List β}
    (nothing : ∀ row, own row = true → kept row = false → f row = []) :
    (rows.filter fun row => own row && kept row).flatMap f = (rows.filter own).flatMap f := by
  induction rows with
  | nil => rfl
  | cons row rows inductionHypothesis =>
      by_cases isOwn : own row = true
      · by_cases isKept : kept row = true
        · simp [isOwn, isKept, inductionHypothesis]
        · rw [Bool.not_eq_true] at isKept
          simp [isOwn, isKept, inductionHypothesis, nothing row isOwn isKept]
      · simp [isOwn, inductionHypothesis]

theorem Keyed.namesOfTag (keyed : t.Keyed) {r : TagRow} (row : r ∈ t.tags) :
    t.namesOfTag r.id = [r.name] := by
  rw [Tables.namesOfTag, filter_key_eq keyed.tagIds row]
  rfl

/-- Items have numbers that the database can give out, and numbers of custom keys are there once. -/
structure Orderly (t : Tables) : Prop where
  items : ∀ i ∈ t.items, 0 < i.id ∧ i.id ≤ maxNumber
  numbers : 0 ≤ t.numbering.items
  keyIds : (t.keys.map (·.id)).Nodup
  keyNumbers : ∀ k ∈ t.keys, k.id ≤ t.numbering.keys

theorem fresh_orderly : fresh.Orderly where
  items _ membership := absurd membership List.not_mem_nil
  numbers := Int.le_refl _
  keyIds := List.nodup_nil
  keyNumbers _ membership := absurd membership List.not_mem_nil

theorem Orderly.namesOfKey (orderly : t.Orderly) {k : KeyRow} (row : k ∈ t.keys) :
    t.namesOfKey k.id = [k.name] := by
  rw [Tables.namesOfKey, filter_key_eq orderly.keyIds row]
  rfl

/-- The item has the row, the tags and the custom values that it had. -/
structure Retains (id : Int) (t t' : Tables) : Prop where
  row : ∀ i : Item, i.id = id → (i ∈ t'.items ↔ i ∈ t.items)
  tags : t'.tagsOf id = t.tagsOf id
  customs : t'.customsOf id = t.customsOf id

namespace Retains

theorem refl (id : Int) (t : Tables) : Retains id t t := ⟨fun _ _ => .rfl, rfl, rfl⟩

theorem trans (first : Retains id t t') (second : Retains id t' t'') : Retains id t t'' :=
  ⟨fun i same => (second.row i same).trans (first.row i same), second.tags.trans first.tags,
    second.customs.trans first.customs⟩

theorem record {i : Item} (retains : Retains i.id t t') : t'.record i = t.record i := by
  unfold Tables.record
  rw [retains.tags, retains.customs]

end Retains

/-! ## Repairs -/

/-- What the verifier does to the tables. -/
inductive Repaired : Tables → Tables → Prop where
  | deleted (t : Tables) (ids : List Int) : Repaired t (t.deleteItems ids)
  | untagged (t : Tables) : Repaired t t.dropLinksWithoutTag
  | unlinked (t : Tables) : Repaired t t.dropLinksWithoutItem
  | untangled (t : Tables) : Repaired t t.dropStrayCustoms
  | recounted (t : Tables) : Repaired t t.recount

namespace Repaired

theorem items (repaired : Repaired t t') : t'.items.Sublist t.items := by
  cases repaired with
  | deleted ids => exact List.filter_sublist
  | untagged => exact .refl _
  | unlinked => exact .refl _
  | untangled => exact .refl _
  | recounted => rw [recount_items]

theorem customs (repaired : Repaired t t') : t'.customs.Sublist t.customs := by
  cases repaired with
  | deleted ids => exact List.filter_sublist
  | untagged => exact .refl _
  | unlinked => exact .refl _
  | untangled => exact List.filter_sublist
  | recounted => rw [recount_customs]

theorem rooted (repaired : Repaired t t') (rooted : Tag.root ∈ t.tags.map (·.name)) :
    Tag.root ∈ t'.tags.map (·.name) := by
  cases repaired with
  | deleted ids => exact rooted
  | untagged => exact rooted
  | unlinked => exact rooted
  | untangled => exact rooted
  | recounted => exact recount_counted.rooted

theorem hasItem (repaired : Repaired t t') (there : t'.hasItem id = true) : t.hasItem id = true := by
  rcases hasItem_iff.mp there with ⟨i, membership, same⟩
  exact hasItem_iff.mpr ⟨i, repaired.items.subset membership, same⟩

theorem keys (repaired : Repaired t t') : t'.keys = t.keys := by
  cases repaired with
  | deleted ids => rfl
  | untagged => rfl
  | unlinked => rfl
  | untangled => rfl
  | recounted => exact recount_keys

theorem numbering (repaired : Repaired t t') :
    t'.numbering.items = t.numbering.items ∧ t'.numbering.keys = t.numbering.keys := by
  cases repaired with
  | deleted ids => exact ⟨rfl, rfl⟩
  | untagged => exact ⟨rfl, rfl⟩
  | unlinked => exact ⟨rfl, rfl⟩
  | untangled => exact ⟨rfl, rfl⟩
  | recounted =>
      unfold Tables.recount
      dsimp only
      split <;> exact ⟨rfl, rfl⟩

theorem orderly (repaired : Repaired t t') (orderly : t.Orderly) : t'.Orderly where
  items i membership := orderly.items i (repaired.items.subset membership)
  numbers := repaired.numbering.1 ▸ orderly.numbers
  keyIds := repaired.keys ▸ orderly.keyIds
  keyNumbers k membership :=
    repaired.numbering.2 ▸ orderly.keyNumbers k (repaired.keys ▸ membership)

/-- With a row for the root, counting anew changes no names. -/
theorem namesOfTag_recount (rooted : Tag.root ∈ t.tags.map (·.name)) (tag : Int) :
    t.recount.namesOfTag tag = t.namesOfTag tag := by
  rw [namesOfTag, recount_tags, if_pos (tag?_isSome_iff.mpr rooted), List.filter_map, List.map_map]
  rfl

/-- If no link and no custom value of an item is dropped that adds anything, the item keeps all. -/
theorem retains_of_filter {keepsLink : Link → Bool} {keepsCustom : CustomRow → Bool}
    (row : ∀ i : Item, i.id = id → (i ∈ t'.items ↔ i ∈ t.items))
    (tags : t'.tags = t.tags) (keys : t'.keys = t.keys)
    (links : t'.links = t.links.filter keepsLink) (customs : t'.customs = t.customs.filter keepsCustom)
    (linksAdd : ∀ l, l.item = id → keepsLink l = false → t.hasTag l.tag = false)
    (customsAdd : ∀ c, c.item = id → keepsCustom c = false → t.hasKey c.key = false) :
    Retains id t t' := by
  refine ⟨row, ?_, ?_⟩
  · rw [tagsOf_eq, tagsOf_eq, links, List.filter_filter]
    simp only [namesOfTag, tags]
    apply flatMap_filter_and
    intro l own dropped
    have untagged := linksAdd l (by simpa using own) dropped
    rw [← Bool.not_eq_true, hasTag_iff_namesOfTag, not_not] at untagged
    exact untagged
  · rw [customsOf_eq, customsOf_eq, customs, List.filter_filter]
    simp only [namesOfKey, keys]
    apply flatMap_filter_and
    intro c own dropped
    have keyless := customsAdd c (by simpa using own) dropped
    rw [← Bool.not_eq_true, hasKey_iff_namesOfKey, not_not, namesOfKey] at keyless
    rw [keyless]
    rfl

/-- No repair touches what belongs to an item that stays. -/
theorem retains (repaired : Repaired t t') (rooted : Tag.root ∈ t.tags.map (·.name))
    (kept : t'.hasItem id = true) : Retains id t t' := by
  have all {α : Type} (rows : List α) : rows = rows.filter fun _ => true := by simp
  cases repaired with
  | deleted ids =>
      have stays : (!(ids.contains id && t.items.any fun i => i.id == id)) = true := by
        rcases hasItem_iff.mp kept with ⟨i, membership, rfl⟩
        exact (List.mem_filter.mp membership).2
      refine retains_of_filter (fun i same => ?_) rfl rfl rfl rfl (fun l own dropped => ?_)
        fun c own dropped => ?_
      · subst same
        simp only [Tables.deleteItems, List.mem_filter, stays, and_true]
      · rw [own, stays] at dropped
        cases dropped
      · rw [own, stays] at dropped
        cases dropped
  | untagged =>
      exact retains_of_filter (fun _ _ => .rfl) rfl rfl rfl (all _) (fun l _ dropped => dropped)
        fun c _ dropped => by cases dropped
  | unlinked =>
      have present : t.hasItem id = true := kept
      refine retains_of_filter (fun _ _ => .rfl) rfl rfl rfl (all _) (fun l own dropped => ?_)
        fun c _ dropped => by cases dropped
      rw [own, present] at dropped
      cases dropped
  | untangled =>
      have present : t.hasItem id = true := kept
      refine retains_of_filter (fun _ _ => .rfl) rfl rfl (all _) rfl
        (fun l _ dropped => by cases dropped) fun c own dropped => ?_
      rw [isAnchored, own, present, Bool.true_and] at dropped
      exact dropped
  | recounted =>
      refine ⟨fun i _ => by rw [recount_items], ?_, ?_⟩
      · rw [tagsOf_eq, tagsOf_eq, recount_links]
        exact List.flatMap_congr fun l _ => namesOfTag_recount rooted l.tag
      · rw [customsOf_eq, customsOf_eq, recount_customs]
        simp only [namesOfKey, recount_keys]

end Repaired

/-- Several repairs, one after the other. -/
theorem retains_of_repairs (repairs : Relation.ReflTransGen Repaired t t')
    (rooted : Tag.root ∈ t.tags.map (·.name)) (kept : t'.hasItem id = true) :
    t.hasItem id = true ∧ Retains id t t' := by
  induction repairs using Relation.ReflTransGen.head_induction_on with
  | refl => exact ⟨kept, .refl id t'⟩
  | head repaired later inductionHypothesis =>
      rcases inductionHypothesis (repaired.rooted rooted) with ⟨present, retains⟩
      exact ⟨repaired.hasItem present, (repaired.retains rooted present).trans retains⟩

/-! ## Growing -/

/-- There is more about one item, and everything else is as it was. -/
structure Grown (item : Int) (t t' : Tables) : Prop where
  items : t'.items = t.items
  links : ∃ more, t'.links = t.links ++ more ∧ ∀ l ∈ more, l.item = item
  customs : ∃ more, t'.customs = t.customs ++ more ∧ ∀ c ∈ more, c.item = item
  tagNames : ∀ tag, t.hasTag tag = true → t'.namesOfTag tag = t.namesOfTag tag
  keyNames : ∀ key, t.hasKey key = true → t'.namesOfKey key = t.namesOfKey key

namespace Grown

theorem refl (item : Int) (t : Tables) : Grown item t t :=
  ⟨rfl, ⟨[], by simp, by simp⟩, ⟨[], by simp, by simp⟩, fun _ _ => rfl, fun _ _ => rfl⟩

theorem trans (first : Grown item t t') (second : Grown item t' t'') : Grown item t t'' := by
  rcases first.links with ⟨links, links_eq, ownLinks⟩
  rcases second.links with ⟨links', links_eq', ownLinks'⟩
  rcases first.customs with ⟨customs, customs_eq, ownCustoms⟩
  rcases second.customs with ⟨customs', customs_eq', ownCustoms'⟩
  refine ⟨second.items.trans first.items, ⟨links ++ links', ?_, ?_⟩, ⟨customs ++ customs', ?_, ?_⟩,
    fun tag present => ?_, fun key present => ?_⟩
  · rw [links_eq', links_eq, List.append_assoc]
  · exact fun l membership => (List.mem_append.mp membership).elim (ownLinks l) (ownLinks' l)
  · rw [customs_eq', customs_eq, List.append_assoc]
  · exact fun c membership => (List.mem_append.mp membership).elim (ownCustoms c) (ownCustoms' c)
  · have named := first.tagNames tag present
    have present' : t'.hasTag tag = true := by
      rw [hasTag_iff_namesOfTag, named]
      exact hasTag_iff_namesOfTag.mp present
    rw [second.tagNames tag present', named]
  · have named := first.keyNames key present
    have present' : t'.hasKey key = true := by
      rw [hasKey_iff_namesOfKey, named]
      exact hasKey_iff_namesOfKey.mp present
    rw [second.keyNames key present', named]

/-- The tags that an item had, followed by those that were added. -/
theorem tagsOf (grown : Grown item t t') (anchored : t.Anchored) {more : List Link}
    (links : t'.links = t.links ++ more) (id : Int) :
    t'.tagsOf id = t.tagsOf id ++
      (more.filter fun l => l.item == id).flatMap fun l => t'.namesOfTag l.tag := by
  rw [tagsOf_eq, tagsOf_eq, links, List.filter_append, List.flatMap_append]
  congr 1
  exact List.flatMap_congr fun l membership =>
    grown.tagNames l.tag (anchored.linkTags l (List.mem_of_mem_filter membership))

theorem customsOf (grown : Grown item t t') (anchored : t.Anchored) {more : List CustomRow}
    (customs : t'.customs = t.customs ++ more) (id : Int) :
    t'.customsOf id = t.customsOf id ++ (more.filter fun c => c.item == id).flatMap fun c =>
      (t'.namesOfKey c.key).map fun name => (name, c.value.getD "") := by
  rw [customsOf_eq, customsOf_eq, customs, List.filter_append, List.flatMap_append]
  congr 1
  refine List.flatMap_congr fun c membership => ?_
  have anchor := isAnchored_iff.mp (anchored.customs c (List.mem_of_mem_filter membership))
  rw [grown.keyNames c.key anchor.2]

theorem retains (grown : Grown item t t') (anchored : t.Anchored) (other : id ≠ item) :
    Retains id t t' := by
  rcases grown.links with ⟨links, links_eq, ownLinks⟩
  rcases grown.customs with ⟨customs, customs_eq, ownCustoms⟩
  refine ⟨fun i _ => by rw [grown.items], ?_, ?_⟩
  · have none' : (links.filter fun l => l.item == id) = [] := by
      rw [List.filter_eq_nil_iff]
      intro l membership same
      exact other ((ownLinks l membership) ▸ (by simpa using same : l.item = id).symm)
    rw [grown.tagsOf anchored links_eq, none']
    simp
  · have none' : (customs.filter fun c => c.item == id) = [] := by
      rw [List.filter_eq_nil_iff]
      intro c membership same
      exact other ((ownCustoms c membership) ▸ (by simpa using same : c.item = id).symm)
    rw [grown.customsOf anchored customs_eq, none']
    simp

end Grown

section Tags

variable {name : String}

theorem namesOfTag_countTag_self (keyed : t.Keyed) :
    (t.countTag name).2.namesOfTag (t.countTag name).1 = [name] :=
  (keyed.countTag name).namesOfTag ((mem_countTag_tags keyed).mpr (.inr rfl))

theorem namesOfTag_countTag (keyed : t.Keyed) {tag : Int} (present : t.hasTag tag = true) :
    (t.countTag name).2.namesOfTag tag = t.namesOfTag tag := by
  rcases hasTag_iff.mp present with ⟨r, row, rfl⟩
  rw [keyed.namesOfTag row]
  by_cases same : r.name = name
  · subst same
    rw [← (countTag_of_mem keyed row).1]
    exact namesOfTag_countTag_self keyed
  · exact (keyed.countTag name).namesOfTag ((mem_countTag_tags keyed).mpr (.inl ⟨row, same⟩))

theorem grown_countTag (keyed : t.Keyed) (item : Int) (name : String) :
    Grown item t (t.countTag name).2 where
  items := countTag_items
  links := ⟨[], by simp, by simp⟩
  customs := ⟨[], by simp, by simp⟩
  tagNames _ present := namesOfTag_countTag keyed present
  keyNames key _ := by rw [namesOfKey, countTag_keys, namesOfKey]

theorem grown_addTag (keyed : t.Keyed) (item : Int) (name : String) :
    Grown item t (addTag item t name) :=
  (grown_countTag keyed item name).trans
    ⟨rfl, ⟨[⟨item, (t.countTag name).1⟩], rfl, by simp⟩, ⟨[], by simp [addTag], by simp⟩,
      fun _ _ => rfl, fun _ _ => rfl⟩

theorem tagsOf_addTag (keyed : t.Keyed) (anchored : t.Anchored) :
    (addTag item t name).tagsOf item = t.tagsOf item ++ [name] := by
  rw [(grown_addTag keyed item name).tagsOf anchored addTag_links]
  simp only [BEq.rfl, List.filter_cons_of_pos, List.filter_nil, List.flatMap_singleton]
  exact congrArg _ (namesOfTag_countTag_self keyed)

theorem Orderly.countTag (orderly : t.Orderly) (name : String) : (t.countTag name).2.Orderly := by
  unfold Tables.countTag
  dsimp only
  split <;> exact ⟨orderly.items, orderly.numbers, orderly.keyIds, orderly.keyNumbers⟩

theorem Orderly.addTag (orderly : t.Orderly) (item : Int) (name : String) :
    (addTag item t name).Orderly := by
  have counted := orderly.countTag name
  exact ⟨counted.items, counted.numbers, counted.keyIds, counted.keyNumbers⟩

/-- Adding tags to an item adds just these, in order. -/
theorem foldl_addTag_grown {names : List String} {i : Item} (consistent : t.Consistent)
    (present : i ∈ t.libraryItems) (free : t.CarriesNone i.id names) (distinct : names.Nodup)
    (valid : ∀ name ∈ names, Tag.isValid name = true) :
    Grown i.id t (names.foldl (addTag i.id) t) ∧
      (names.foldl (addTag i.id) t).tagsOf i.id = t.tagsOf i.id ++ names := by
  induction names generalizing t with
  | nil => exact ⟨.refl _ _, by simp⟩
  | cons name names inductionHypothesis =>
      rw [List.nodup_cons] at distinct
      have step := consistent.addTag present free (valid name List.mem_cons_self)
      rcases inductionHypothesis step (by rw [addTag_libraryItems]; exact present)
        (free.addTag consistent.keyed distinct.1) distinct.2
        (fun other membership => valid other (List.mem_cons_of_mem _ membership)) with
        ⟨grown, tags⟩
      refine ⟨(grown_addTag consistent.keyed i.id name).trans grown, ?_⟩
      rw [List.foldl_cons, tags, tagsOf_addTag consistent.keyed consistent.anchored]
      simp

end Tags

section Customs

variable {entry : String × String} {name : String}

/-- The number of a key is in use afterwards, and numbers that are in use keep their names. -/
theorem keyNumber_keys (orderly : t.Orderly) :
    (t.keyNumber name).2.namesOfKey (t.keyNumber name).1 = [name] ∧
      (∀ key, t.hasKey key = true → (t.keyNumber name).2.namesOfKey key = t.namesOfKey key) ∧
      (t.keyNumber name).2.Orderly := by
  unfold keyNumber
  dsimp only
  split
  · rename_i row found
    have row' : row ∈ t.keys := List.mem_of_find?_eq_some found
    have sameName : row.name = name := by simpa using List.find?_some found
    refine ⟨?_, fun _ _ => rfl, ⟨orderly.items, orderly.numbers, orderly.keyIds, ?_⟩⟩
    · rw [← sameName]
      exact orderly.namesOfKey row'
    · intro k membership
      have bound := orderly.keyNumbers k membership
      dsimp only
      omega
  · have unused : ∀ k ∈ t.keys, k.id ≠ t.numbering.keys + 1 := by
      intro k membership same
      have bound := orderly.keyNumbers k membership
      omega
    have nameless : (t.keys.filter fun k => k.id == t.numbering.keys + 1) = [] := by
      rw [List.filter_eq_nil_iff]
      exact fun k membership => by simpa using unused k membership
    refine ⟨?_, fun key present => ?_, ⟨orderly.items, orderly.numbers, ?_, ?_⟩⟩
    · simp [namesOfKey, List.filter_append, nameless]
    · rcases hasKey_iff.mp present with ⟨k, membership, rfl⟩
      simp [namesOfKey, List.filter_append, Ne.symm (unused k membership)]
    · refine nodup_map_append_singleton orderly.keyIds fun membership => ?_
      rcases List.mem_map.mp membership with ⟨k, row, same⟩
      exact unused k row same
    · intro k membership
      rcases List.mem_append.mp membership with old | new
      · have bound := orderly.keyNumbers k old
        dsimp only
        omega
      · cases List.mem_singleton.mp new
        exact Int.le_refl _

theorem grown_addCustom (orderly : t.Orderly) (item : Int) (entry : String × String) :
    Grown item t (addCustom item t entry) where
  items := addCustom_items
  links := ⟨[], by simp, by simp⟩
  customs := ⟨_, addCustom_customs, by simp⟩
  tagNames tag _ := by rw [namesOfTag, addCustom_tags, namesOfTag]
  keyNames key present := (keyNumber_keys orderly).2.1 key present

theorem Orderly.addCustom (orderly : t.Orderly) (item : Int) (entry : String × String) :
    (addCustom item t entry).Orderly := by
  have numbered : (t.keyNumber entry.1).2.Orderly := (keyNumber_keys orderly).2.2
  exact ⟨numbered.items, numbered.numbers, numbered.keyIds, numbered.keyNumbers⟩

theorem customsOf_addCustom (orderly : t.Orderly) (anchored : t.Anchored) :
    (addCustom item t entry).customsOf item = t.customsOf item ++ [entry] := by
  have named : (addCustom item t entry).namesOfKey (t.keyNumber entry.1).1 = [entry.1] :=
    (keyNumber_keys orderly).1
  rw [(grown_addCustom orderly item entry).customsOf anchored addCustom_customs]
  simp [named]

/-- Adding custom values to an item adds just these, in order. -/
theorem foldl_addCustom_grown (entries : List (String × String)) (orderly : t.Orderly)
    (anchored : t.Anchored) (present : t.hasItem item = true) :
    Grown item t (entries.foldl (addCustom item) t) ∧
      (entries.foldl (addCustom item) t).customsOf item = t.customsOf item ++ entries ∧
      (entries.foldl (addCustom item) t).Orderly := by
  induction entries generalizing t with
  | nil => exact ⟨.refl _ _, by simp, orderly⟩
  | cons entry entries inductionHypothesis =>
      have present' : (addCustom item t entry).hasItem item = true := by
        rw [hasItem, addCustom_items]
        exact present
      rcases inductionHypothesis (orderly.addCustom item entry) (anchored.addCustom present) present'
        with ⟨grown, customs, orderly'⟩
      refine ⟨(grown_addCustom orderly item entry).trans grown, ?_, orderly'⟩
      rw [List.foldl_cons, customs, customsOf_addCustom orderly anchored]
      simp

theorem foldl_addCustom_tagsOf (t : Tables) (item : Int) (entries : List (String × String))
    (id : Int) :
    (entries.foldl (addCustom item) t).tagsOf id = t.tagsOf id := by
  induction entries generalizing t with
  | nil => rfl
  | cons entry entries inductionHypothesis =>
      rw [List.foldl_cons, inductionHypothesis, tagsOf_eq, tagsOf_eq, addCustom_links]
      simp only [namesOfTag, addCustom_tags]

end Customs

theorem foldl_addTag_customsOf (t : Tables) (item : Int) (names : List String) (id : Int) :
    (names.foldl (addTag item) t).customsOf id = t.customsOf id ∧
      (t.Orderly → (names.foldl (addTag item) t).Orderly) := by
  induction names generalizing t with
  | nil => exact ⟨rfl, fun orderly => orderly⟩
  | cons name names inductionHypothesis =>
      rcases inductionHypothesis (addTag item t name) with ⟨customs, orderly⟩
      refine ⟨?_, fun before => orderly (before.addTag item name)⟩
      rw [List.foldl_cons, customs, customsOf_eq, customsOf_eq, addTag_customs]
      simp only [namesOfKey, addTag_keys]

/-! ## Adding an item -/

/-- What comes of adding an item: a row, the tags and the custom values of the record, and no change for
the items that were there. -/
structure Stored (t : Tables) (m : Metadata) (tags : TagSet) (t' : Tables) : Prop where
  items : t'.items = t.items ++ [rowOf t.nextItem m]
  tags : t'.tagsOf t.nextItem = tags.toList
  customs : t'.customsOf t.nextItem = m.custom.toList
  orderly : t'.Orderly
  retains : ∀ id, t.hasItem id = true → Retains id t t'

section Stored

variable {m : Metadata} {md5 : String}

/-- Nothing refers to the next item. -/
theorem nextItem_blank (anchored : t.Anchored) :
    t.tagsOf t.nextItem = [] ∧ t.customsOf t.nextItem = [] := by
  have links : (t.links.filter fun l => l.item == t.nextItem) = [] := by
    rw [List.filter_eq_nil_iff]
    intro l membership same
    exact ne_nextItem_of_hasItem (anchored.linkItems l membership) (beq_iff_eq.mp same)
  have customs : (t.customs.filter fun c => c.item == t.nextItem) = [] := by
    rw [List.filter_eq_nil_iff]
    intro c membership same
    have present := (isAnchored_iff.mp (anchored.customs c membership)).1
    exact ne_nextItem_of_hasItem present (beq_iff_eq.mp same)
  exact ⟨by rw [tagsOf_eq, links]; rfl, by rw [customsOf_eq, customs]; rfl⟩

theorem retains_addRow (consistent : t.Consistent) (checksum : m.md5 = some md5)
    (unknown : t.libraryItem? md5 = none) (id : Int) :
    (t.hasItem id = true → Retains id t (t.addRow m)) ∧
      (t.addRow m).tagsOf id = t.tagsOf id ∧ (t.addRow m).customsOf id = t.customsOf id := by
  have keyed := keyed_appendRow consistent.keyed checksum unknown
  have tags : (t.addRow m).tagsOf id = t.tagsOf id := by
    rw [tagsOf_eq, tagsOf_eq, addRow_links]
    refine List.flatMap_congr fun l membership => ?_
    exact namesOfTag_countTag keyed
      (consistent.anchored.linkTags l (List.mem_of_mem_filter membership))
  have customs : (t.addRow m).customsOf id = t.customsOf id := by
    rw [customsOf_eq, customsOf_eq, addRow_customs]
    simp only [namesOfKey, addRow_keys]
  refine ⟨fun present => ⟨fun i same => ?_, tags, customs⟩, tags, customs⟩
  rw [addRow_items, List.mem_append, List.mem_singleton]
  constructor
  · rintro (old | rfl)
    · exact old
    · exact absurd same.symm (ne_nextItem_of_hasItem present)
  · exact fun old => .inl old

theorem Orderly.addRow (orderly : t.Orderly) (bound : t.nextItem ≤ maxNumber) :
    (t.addRow m).Orderly := by
  have positive : 0 < t.nextItem := by
    have above : t.numbering.items ≤ (t.items.map (·.id)).foldl max t.numbering.items :=
      le_foldl_max (.inl (Int.le_refl _))
    have start := orderly.numbers
    unfold nextItem
    omega
  have row : Orderly { t with
      items := t.items ++ [rowOf t.nextItem m]
      numbering := { t.numbering with items := t.nextItem } } := by
    refine ⟨fun i membership => ?_, Int.le_of_lt positive, orderly.keyIds, orderly.keyNumbers⟩
    rcases List.mem_append.mp membership with old | new
    · exact orderly.items i old
    · rw [List.mem_singleton.mp new]
      exact ⟨positive, bound⟩
  exact row.countTag Tag.root

theorem stored_addItem {tags : TagSet} (consistent : t.Consistent) (orderly : t.Orderly)
    (checksum : m.md5 = some md5) (unknown : t.libraryItem? md5 = none)
    (valid : ∀ tag ∈ tags, Tag.isValid tag = true) (bound : t.nextItem ≤ maxNumber) :
    Stored t m tags (t.addItem m tags).2 := by
  have row := retains_addRow consistent checksum unknown
  have consistentRow := consistent.addRow checksum unknown
  have present : rowOf t.nextItem m ∈ (t.addRow m).libraryItems := rowOf_mem_addRow
  have free := consistent.anchored.carriesNone (m := m) tags.toList
  have distinct := nodup_toList tags
  have valid' : ∀ tag ∈ tags.toList, Tag.isValid tag = true :=
    fun tag membership => valid tag (Std.ExtTreeSet.mem_toList.mp membership)
  rcases foldl_addTag consistentRow present free distinct valid' with ⟨consistentTags, -⟩
  rcases foldl_addTag_grown consistentRow present free distinct valid' with ⟨tagged, hasTags⟩
  rcases foldl_addTag_customsOf (t.addRow m) t.nextItem tags.toList t.nextItem with
    ⟨noCustoms, orderlyTags⟩
  have present' : (tags.toList.foldl (addTag t.nextItem) (t.addRow m)).hasItem t.nextItem = true :=
    hasItem_iff.mpr ⟨_, tagged.items ▸ (mem_libraryItems.mp present).1, rfl⟩
  rcases foldl_addCustom_grown m.custom.toList (orderlyTags (orderly.addRow bound))
    consistentTags.anchored present' with ⟨filled, hasCustoms, orderlyCustoms⟩
  rcases nextItem_blank consistent.anchored with ⟨tagless, valueless⟩
  -- the document of the item says nothing about rows of other tables
  refine
    { items := (filled.items.trans tagged.items).trans addRow_items
      tags := ?_
      customs := ?_
      orderly := ⟨orderlyCustoms.items, orderlyCustoms.numbers, orderlyCustoms.keyIds,
        orderlyCustoms.keyNumbers⟩
      retains := fun id there => ?_ }
  · have read := foldl_addCustom_tagsOf (tags.toList.foldl (addTag t.nextItem) (t.addRow m))
      t.nextItem m.custom.toList t.nextItem
    have hasTags' : (tags.toList.foldl (addTag t.nextItem) (t.addRow m)).tagsOf t.nextItem =
        (t.addRow m).tagsOf t.nextItem ++ tags.toList := hasTags
    rw [hasTags', (row t.nextItem).2.1, tagless, List.nil_append] at read
    exact read
  · rw [noCustoms, (row t.nextItem).2.2, valueless, List.nil_append] at hasCustoms
    exact hasCustoms
  · have other := ne_nextItem_of_hasItem there
    have all := (((row id).1 there).trans (tagged.retains consistentRow.anchored other)).trans
      (filled.retains consistentTags.anchored other)
    exact ⟨all.row, all.tags, all.customs⟩

end Stored

end SampleLibrary.Tables
