import SampleLibrary.Library.Search
import SampleLibrary.Proofs.Rewrite.Confinement

/-!
# All records there are

A record is made of fields, of what an analyzer tells or of the rows of a database, and it is changed one
part at a time (`Metadata.Made`). Tags and keys are checked on each of these ways, whoever wrote the
database. So no record ever has an invalid one, and what is said with its tags and keys can be taken apart
again: each key of the flat view names one value, and the tags are the words of the text that joins them
(`Metadata.Made.always_sound`).
-/

namespace SampleLibrary

/-- What is read from the tables is checked again, whatever they hold. -/
theorem Tables.valid_record (t : Tables) (i : Item) : (t.record i).Valid := by
  have fixed (fields : List Field) (m : Metadata) (valid : m.Valid) :
      (fields.foldl (fun m f => m.set f (i.cell f).toValue) m).Valid := by
    induction fields generalizing m with
    | nil => exact valid
    | cons f fields inductionHypothesis => exact inductionHypothesis _ (valid.set f _)
  have custom (entries : List (String × String)) (m : Metadata) (valid : m.Valid) :
      (entries.foldl (fun m entry => m.setCustom entry.1 entry.2) m).Valid := by
    induction entries generalizing m with
    | nil => exact valid
    | cons entry entries inductionHypothesis =>
        exact inductionHypothesis _ (valid.setCustom entry.1 entry.2)
  unfold record
  apply custom
  apply Metadata.Valid.setTags
  apply fixed
  exact Metadata.valid_empty

/-- Whatever a statement finds has been read from rows. -/
theorem Library.find_records {lib : Library} {s : Query.Statement} {fs : Files} {records : List Metadata}
    (found : lib.find s fs = .ok records) :
    ∃ (t : Tables) (rows : List Item), records = rows.map t.record := by
  unfold find at found
  rcases exists_of_bind_ok found with ⟨t, -, searched⟩
  split at searched
  · rename_i records' outcome
    cases searched
    rcases exists_of_bind_ok outcome with ⟨items, -, read⟩
    rcases exists_of_bind_ok read with ⟨rows, -, read⟩
    cases read
    exact ⟨t, rows, rfl⟩
  · cases searched

namespace Metadata

/-- The records that can be made, starting from the empty one. -/
inductive Made : Metadata → Prop where
  | empty : Made empty
  | ofFields (fields : List (String × Value)) (tags : List String) : Made (ofFields fields tags)
  | ofFileInfo (info : FileInfo) : Made (ofFileInfo info)
  | found {lib : Library} {s : Query.Statement} {fs : Files} {records : List Metadata} {m : Metadata} :
      lib.find s fs = .ok records → m ∈ records → Made m
  | set {m : Metadata} (f : Field) (v : Option Value) : Made m → Made (m.set f v)
  | setName {m : Metadata} (name : Option String) : Made m → Made { m with name }
  | setPath {m : Metadata} (path : Option String) : Made m → Made { m with path }
  | setSource {m : Metadata} (source : Option String) : Made m → Made { m with source }
  | setCustom {m : Metadata} (key value : String) : Made m → Made (m.setCustom key value)
  | removeCustom {m : Metadata} (key : String) : Made m → Made (m.removeCustom key)
  | setKey {m m' : Metadata} {key value : String} : Made m → m.setKey key value = .ok m' → Made m'
  | setTags {m : Metadata} (tags : List String) : Made m → Made (m.setTags tags)
  | addTags {m : Metadata} (tags : List String) : Made m → Made (m.addTags tags)
  | removeTags {m : Metadata} (tags : List String) : Made m → Made (m.removeTags tags)
  | rewrite {m : Metadata} (rules : List Rule) (root : Option String) :
      Made m → Made (m.rewrite rules root)

variable {m : Metadata}

theorem Made.valid (made : m.Made) : m.Valid := by
  induction made with
  | empty => exact valid_empty
  | ofFields fields tags => exact valid_ofFields fields tags
  | ofFileInfo info => exact valid_ofFileInfo info
  | found found membership =>
      rcases Library.find_records found with ⟨t, rows, rfl⟩
      rcases List.mem_map.mp membership with ⟨i, -, rfl⟩
      exact t.valid_record i
  | set f v _ before => exact before.set f v
  | setName _ _ before | setPath _ _ before | setSource _ _ before => exact ⟨before.tags, before.keys⟩
  | setCustom key value _ before => exact before.setCustom key value
  | removeCustom key _ before => exact before.removeCustom key
  | setKey _ done before => exact before.setKey done
  | setTags tags _ before => exact before.setTags tags
  | addTags tags _ before => exact before.addTags tags
  | removeTags tags _ before => exact before.removeTags tags
  | rewrite rules root _ _ => exact valid_rewrite _ rules root

/-! ## What valid records say -/

theorem ne_underscore_of_isValid {key : String} (valid : CustomKey.isValid key = true) :
    key.toList.head? ≠ some '_' := by
  intro starts
  unfold CustomKey.isValid at valid
  split at valid
  · rename_i first second rest characters
    rw [characters, List.head?_cons, Option.some_inj] at starts
    rw [starts] at valid
    exact absurd valid (by simp [show Text.isAlphanumeric '_' = false by decide])
  · cases valid

/-- The keys of fields and of custom values are all different. -/
theorem Valid.nodup_keys (valid : m.Valid) : ((m.fixedTexts ++ m.custom.toList).map Prod.fst).Nodup := by
  have fixed : (m.fixedTexts.map Prod.fst).Sublist (Field.all.map Field.key) := by
    rw [fixedTexts, List.map_filterMap]
    induction Field.all with
    | nil => exact .slnil
    | cons f fields inductionHypothesis =>
        cases there : m.get? f with
        | none => simpa [there] using inductionHypothesis.cons f.key
        | some v => simpa [there] using inductionHypothesis.cons_cons f.key
  rw [List.map_append, List.nodup_append]
  refine ⟨fixed.nodup (by decide), ?_, ?_⟩
  · rw [Std.ExtTreeMap.map_fst_toList_eq_keys]
    exact Std.ExtTreeMap.nodup_keys
  · intro key isField other isCustom same
    rcases List.mem_map.mp (fixed.mem isField) with ⟨f, -, rfl⟩
    rw [Std.ExtTreeMap.map_fst_toList_eq_keys, Std.ExtTreeMap.mem_keys, ← same] at isCustom
    exact f.not_isValid_key (valid.keys _ isCustom)

/-- A map that is made of entries with different keys has just these entries. -/
theorem toList_ofList_perm {entries : List (String × String)} (keys : (entries.map Prod.fst).Nodup) :
    (Std.ExtTreeMap.ofList entries).toList.Perm entries := by
  have apart : (Std.ExtTreeMap.ofList entries).toList.Nodup := by
    apply List.Nodup.of_map Prod.fst
    rw [Std.ExtTreeMap.map_fst_toList_eq_keys]
    exact Std.ExtTreeMap.nodup_keys
  refine (List.perm_ext_iff_of_nodup apart keys.of_map).mpr fun (key, text) => ?_
  rw [Std.ExtTreeMap.mem_toList_iff_getElem?_eq_some, Std.ExtTreeMap.ofList_eq_insertMany_empty]
  have only (text other : String) (first : (key, text) ∈ entries) (second : (key, other) ∈ entries) :
      other = text :=
    congrArg Prod.snd (List.inj_on_of_nodup_map keys second first rfl)
  constructor
  · intro there
    by_contra absent
    by_cases other : ∃ text', (key, text') ∈ entries
    · rcases other with ⟨text', present⟩
      rw [getElem?_insertMany_of_mem present fun third => only text' third present] at there
      cases there
      exact absent present
    · rw [not_exists] at other
      rw [getElem?_insertMany_of_not_mem other, Std.ExtTreeMap.getElem?_empty] at there
      cases there
  · intro present
    exact getElem?_insertMany_of_mem present fun other => only text other present

/-- The flat view shows every value of a field and every custom value, and nothing else. -/
theorem Valid.texts_perm (valid : m.Valid) : m.texts.toList.Perm (m.fixedTexts ++ m.custom.toList) := by
  have made : m.texts = .ofList (m.fixedTexts ++ m.custom.toList) := by
    rw [texts, Std.ExtTreeMap.ofList_eq_insertMany_empty, Std.ExtTreeMap.ofList_eq_insertMany_empty,
      insertMany_eq_foldl, insertMany_eq_foldl, insertMany_eq_foldl, List.foldl_append]
  rw [made]
  exact toList_ofList_perm valid.nodup_keys

/-- What can be relied on wherever a record comes from. -/
structure Sound (m : Metadata) : Prop where
  tags : ∀ tag ∈ m.tags, Tag.isValid tag = true
  keys : ∀ key ∈ m.custom, CustomKey.isValid key = true
  /-- No tag is that of the whole library, and tags are words. -/
  sharp : ∀ tag ∈ m.tags, tag ≠ Tag.root ∧ tag ≠ "" ∧ ∀ c ∈ tag.toList, Text.isBlank c = false
  unmarked : ∀ key ∈ m.custom, key.toList.head? ≠ some '_'
  /-- The flat view has different keys for all values, and it has all of them. -/
  apart : ((m.fixedTexts ++ m.custom.toList).map Prod.fst).Nodup
  shown : m.texts.toList.Perm (m.fixedTexts ++ m.custom.toList)
  /-- The tags can be read off the text that joins them. -/
  words : Text.blankWords (Text.join " " m.tags.toList) = m.tags.toList

/-- Every record there is has valid tags and keys only, and so all that follows from it. -/
theorem Made.always_sound (made : m.Made) : m.Sound where
  tags := made.valid.tags
  keys := made.valid.keys
  sharp := by
    intro tag membership
    have valid := made.valid.tags tag membership
    have word := Tag.sharp_of_isValid valid
    refine ⟨Tag.ne_root_of_isValid valid, ?_, word.2⟩
    rintro rfl
    exact word.1 rfl
  unmarked := fun key membership => ne_underscore_of_isValid (made.valid.keys key membership)
  apart := made.valid.nodup_keys
  shown := made.valid.texts_perm
  words := made.valid.blankWords_tags

/-- The kick with tags and custom values of which not all are valid, and retitled. -/
def editedKick : Metadata :=
  (((kick.addTags ["/", "loud", "two words"]).setCustom "_key" "C").setCustom "bpm" "120").rewrite retitling
    (some "/music")

theorem editedKick_sound :
    editedKick.Made ∧ editedKick.tags.toList = ["/808", "drums", "loud"] ∧
    editedKick.custom.toList = [("bpm", "120"), ("mood", "dark kick")] ∧ editedKick.Sound := by
  have made : editedKick.Made :=
    ((((Made.ofFields _ _).addTags _).setCustom _ _).setCustom _ _).rewrite _ _
  exact ⟨made, by decide +kernel, by decide +kernel, made.always_sound⟩

end Metadata

end SampleLibrary
