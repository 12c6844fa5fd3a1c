import SampleLibrary.Metadata.Basic
import SampleLibrary.Rewrite.Rule

/-!
# Records are valid

Tags and custom keys of a record are checked when they are put into it. Whatever makes a record or
changes one leaves it with valid tags and keys only (`Metadata.Valid`), so that no custom value has the key
of a field.
-/

namespace SampleLibrary

namespace Field

theorem key_of_ofKey? {key : String} {f : Field} (named : ofKey? key = some f) : f.key = key := by
  simpa using List.find?_some named

theorem key_inj {f g : Field} (same : f.key = g.key) : f = g := by
  have named := ofKey?_key f
  rw [same, ofKey?_key g] at named
  exact (Option.some.inj named).symm

/-- No custom key is the key of a field. -/
theorem not_isValid_key (f : Field) : ¬CustomKey.isValid f.key = true := by
  cases f <;> decide

theorem ofKey?_of_isValid {key : String} (valid : CustomKey.isValid key = true) :
    ofKey? key = none := by
  cases named : ofKey? key with
  | none => rfl
  | some f => exact absurd (key_of_ofKey? named ▸ valid) f.not_isValid_key

end Field

namespace Metadata

/-- Every tag of a record is valid, as records leave out other ones. -/
def TagsValid (m : Metadata) : Prop := ∀ tag ∈ m.tags, Tag.isValid tag = true

theorem TagsValid.addTags {m : Metadata} (valid : m.TagsValid) (tags : List String) :
    (m.addTags tags).TagsValid := by
  intro tag membership
  simp only [Metadata.addTags, Std.ExtTreeSet.mem_insertMany_list] at membership
  rcases membership with old | new
  · exact valid tag old
  · exact (List.mem_filter.mp (List.contains_iff_mem.mp new)).2

theorem tagsValid_empty : Metadata.empty.TagsValid :=
  fun _ membership => absurd membership Std.ExtTreeSet.not_mem_empty

/-- What holds of a set, and still holds when a tag is taken away, holds when several are. -/
theorem eraseMany_induction {motive : TagSet → Prop} {set : TagSet} (tags : List String)
    (start : motive set) (step : ∀ set tag, motive set → motive (set.erase tag)) :
    motive (set.eraseMany tags) := by
  -- the loop that takes tags away hands on a proof of just this
  unfold Std.ExtTreeSet.eraseMany Std.ExtTreeMap.eraseMany Std.ExtDTreeMap.eraseMany
  simp only [bind, pure, Id.run]
  generalize (forIn tags _ _ : Id _) = rest
  exact rest.property (fun inner => motive ⟨⟨inner⟩⟩) start
    fun inner tag before => step ⟨⟨inner⟩⟩ tag before

/-- Tags and custom keys of a record are valid. -/
structure Valid (m : Metadata) : Prop where
  tags : m.TagsValid
  keys : ∀ key ∈ m.custom, CustomKey.isValid key = true

theorem valid_empty : empty.Valid :=
  ⟨tagsValid_empty, fun _ membership => absurd membership Std.ExtTreeMap.not_mem_empty⟩

theorem valid_ofFileInfo (info : FileInfo) : (ofFileInfo info).Valid :=
  ⟨fun _ membership => absurd membership Std.ExtTreeSet.not_mem_empty,
    fun _ membership => absurd membership Std.ExtTreeMap.not_mem_empty⟩

namespace Valid

variable {m : Metadata}

theorem addTags (valid : m.Valid) (tags : List String) : (m.addTags tags).Valid :=
  ⟨valid.tags.addTags tags, valid.keys⟩

theorem setTags (valid : m.Valid) (tags : List String) : (m.setTags tags).Valid :=
  addTags (m := { m with tags := ∅ })
    ⟨fun _ membership => absurd membership Std.ExtTreeSet.not_mem_empty, valid.keys⟩ tags

theorem removeTags (valid : m.Valid) (tags : List String) : (m.removeTags tags).Valid := by
  refine ⟨?_, valid.keys⟩
  refine eraseMany_induction (motive := fun set => ∀ tag ∈ set, Tag.isValid tag = true) _
    valid.tags ?_
  intro set tag before other membership
  exact before other (Std.ExtTreeSet.mem_erase.mp membership).2

theorem insertCustom (valid : m.Valid) {key : String} (isValid : CustomKey.isValid key = true)
    (value : String) : Valid { m with custom := m.custom.insert key value } := by
  refine ⟨valid.tags, fun other membership => ?_⟩
  rcases Std.ExtTreeMap.mem_insert.mp membership with same | old
  · rw [← Std.LawfulEqCmp.eq_of_compare same]
    exact isValid
  · exact valid.keys other old

theorem setCustom (valid : m.Valid) (key value : String) : (m.setCustom key value).Valid := by
  unfold Metadata.setCustom
  split
  · rename_i isValid
    exact valid.insertCustom isValid value
  · exact valid

theorem removeCustom (valid : m.Valid) (key : String) : (m.removeCustom key).Valid := by
  refine ⟨valid.tags, fun other membership => ?_⟩
  exact valid.keys other (Std.ExtTreeMap.mem_erase.mp membership).2

theorem put (valid : m.Valid) (f : Field) (v : Option Value) : (m.put f v).Valid := by
  cases f <;> exact ⟨valid.tags, valid.keys⟩

theorem set (valid : m.Valid) (f : Field) (v : Option Value) : (m.set f v).Valid :=
  valid.put f _

theorem setKey (valid : m.Valid) {key value : String} {m' : Metadata}
    (done : m.setKey key value = .ok m') : m'.Valid := by
  unfold Metadata.setKey at done
  split at done
  · split at done
    · cases done
      exact valid.put _ _
    · cases done
  · split at done
    · rename_i isValid
      cases done
      exact valid.insertCustom isValid value
    · cases done

theorem addEntry (valid : m.Valid) (key : String) (value : Value) : (m.addEntry key value).Valid := by
  unfold Metadata.addEntry
  split
  · exact valid.set _ _
  · exact valid.setCustom _ _

end Valid

theorem valid_ofFields (fields : List (String × Value)) (tags : List String) :
    (ofFields fields tags).Valid := by
  suffices general : ∀ m : Metadata, m.Valid →
      (fields.foldl (fun m field => m.addEntry field.1 field.2) m).Valid from
    (general empty valid_empty).addTags tags
  induction fields with
  | nil => exact fun m valid => valid
  | cons field fields inductionHypothesis =>
      intro m valid
      exact inductionHypothesis _ (valid.addEntry field.1 field.2)

theorem valid_rewrite (m : Metadata) (rules : List Rule) (root : Option String) :
    (m.rewrite rules root).Valid :=
  valid_ofFields _ _

end Metadata

end SampleLibrary
