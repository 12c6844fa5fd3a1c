import SampleLibrary.Proofs.Storage.ReadingBack

/-!
# The documents of items

An item gets its document when it is added, from the record that came in and from all tags that the item
is to carry. Documents go when their items go and are left alone otherwise, so that items and documents
stand side by side (`Tables.Indexed`). What is read back of an item later has the leaves of its tags only
and floats as the columns keep them, and yet it makes the same document, as long as the duration has not
become another number (`Metadata.document_readBack`).
-/

namespace SampleLibrary

/-! ## Documents stand beside items -/

namespace Tables

variable {t t' : Tables} {m : Metadata} {tags : TagSet} {id : Int}

@[simp]
theorem countTag_documents {name : String} : (t.countTag name).2.documents = t.documents := by
  unfold countTag
  dsimp only
  split <;> rfl

theorem addTag_documents {name : String} : (addTag id t name).documents = t.documents := countTag_documents

theorem addCustom_documents {entry : String × String} :
    (addCustom id t entry).documents = t.documents := by
  unfold addCustom keyNumber
  dsimp only
  split <;> rfl

theorem recount_documents : t.recount.documents = t.documents := by
  unfold recount
  dsimp only
  split <;> rfl

/-- Adding an item adds one document, which has the number of the item. -/
theorem addItem_documents (t : Tables) (m : Metadata) (tags : TagSet) :
    (t.addItem m tags).2.documents = t.documents ++ [⟨t.nextItem, FullText.document m tags⟩] := by
  have tagged : (tags.toList.foldl (addTag t.nextItem) (t.addRow m)).documents = t.documents := by
    rw [foldl_keeps (·.documents) fun _ _ => addTag_documents]
    exact countTag_documents
  rw [← tagged]
  exact congrArg (· ++ _) (foldl_keeps (·.documents) (fun _ _ => addCustom_documents) _ _)

/-- There is one document for each item, and they stand in the same order. -/
def Indexed (t : Tables) : Prop := t.documents.map (·.item) = t.items.map (·.id)

theorem fresh_indexed : fresh.Indexed := rfl

theorem Indexed.addItem (indexed : t.Indexed) (m : Metadata) (tags : TagSet) :
    (t.addItem m tags).2.Indexed := by
  unfold Indexed
  rw [addItem_documents, addItem_items, List.map_append, List.map_append, indexed]
  rfl

theorem Repaired.indexed (repaired : Repaired t t') (indexed : t.Indexed) : t'.Indexed := by
  cases repaired with
  | deleted ids =>
      -- whether a row goes depends on the number of its item alone
      have filtered (gone : Int → Bool) : (t.documents.filter fun d => !gone d.item).map (·.item) =
          (t.items.filter fun i => !gone i.id).map (·.id) := by
        have numbers := congrArg (List.filter fun id => !gone id) indexed
        rwa [List.filter_map, List.filter_map] at numbers
      exact filtered fun id => ids.contains id && t.items.any fun i => i.id == id
  | untagged => exact indexed
  | unlinked => exact indexed
  | untangled => exact indexed
  | recounted =>
      unfold Indexed
      rw [recount_documents, recount_items]
      exact indexed

/-- What the documents of an item say. -/
def contentsOf (t : Tables) (id : Int) : List String :=
  (t.documents.filter fun d => d.item == id).map (·.content)

theorem contentsOf_addItem_self (indexed : t.Indexed) :
    (t.addItem m tags).2.contentsOf t.nextItem = [FullText.document m tags] := by
  have none' : (t.documents.filter fun d => d.item == t.nextItem) = [] := by
    rw [List.filter_eq_nil_iff]
    intro d membership same
    have number : d.item ∈ t.items.map (·.id) := indexed ▸ List.mem_map_of_mem membership
    exact nextItem_fresh (beq_iff_eq.mp same ▸ number)
  rw [contentsOf, addItem_documents, List.filter_append, none']
  simp

theorem contentsOf_addItem_of_hasItem (present : t.hasItem id = true) :
    (t.addItem m tags).2.contentsOf id = t.contentsOf id := by
  have differs : t.nextItem ≠ id := (ne_nextItem_of_hasItem present).symm
  simp [contentsOf, addItem_documents, List.filter_append, differs]

/-- A repair that leaves an item leaves its document as it was. -/
theorem Repaired.contentsOf (repaired : Repaired t t') (there : t'.hasItem id = true) :
    t'.contentsOf id = t.contentsOf id := by
  cases repaired with
  | deleted ids =>
      rcases hasItem_iff.mp there with ⟨i, row, rfl⟩
      have kept := (List.mem_filter.mp row).2
      unfold Tables.contentsOf
      change ((t.documents.filter _).filter _).map _ = _
      rw [List.filter_filter]
      refine congrArg _ (List.filter_congr fun d _ => ?_)
      by_cases same : d.item = i.id
      · simpa [same] using kept
      · simp [same]
  | untagged => rfl
  | unlinked => rfl
  | untangled => rfl
  | recounted => rw [Tables.contentsOf, recount_documents, Tables.contentsOf]

end Tables

/-! ## Documents of records that are read back -/

/-- The zero with a sign, which is written in another way than the other zero. -/
def Binary64.negativeZero : Binary64 := .ofRank true 0

/-- Any other number is kept as it is. -/
theorem Cell.keptFloat_eq_self {x : Binary64} (unsigned : x ≠ .negativeZero) : keptFloat x = x := by
  unfold keptFloat
  split
  · rename_i isZero
    rcases Binary64.sameNumber_iff.mp isZero with ⟨n, place, ofZero⟩
    have zero : n = 0 := by
      rw [show (Binary64.ofInt 0).place? = some 0 by decide +kernel] at ofZero
      exact (Option.some.inj ofZero).symm
    cases x with
    | nan => cases place
    | signed negative rank =>
        have lowest : rank = 0 := by
          rw [zero, Binary64.place?, Option.some_inj] at place
          apply Fin.ext
          rw [Fin.val_zero]
          split at place <;> omega
        cases negative with
        | true => exact absurd (by rw [lowest]; rfl) unsigned
        | false => rw [lowest]; decide +kernel
  · rfl

namespace Metadata

variable {m : Metadata}

/-- The record without floats that are no numbers, as there are no cells for these. -/
def withoutNan (m : Metadata) : Metadata :=
  { m with
    duration := m.duration.filter (· ≠ .nan)
    peakLevel := m.peakLevel.filter (· ≠ .nan) }

theorem filter_ne_nan (x : Option Binary64) : x.filter (· ≠ .nan) ≠ some .nan := by
  intro isNan
  simpa using (Option.filter_eq_some_iff.mp isNan).2

theorem ofValue_filter_ne_nan (x : Option Binary64) :
    Cell.ofValue ((x.filter (· ≠ .nan)).map .float) = Cell.ofValue (x.map .float) := by
  rcases x with _ | _ | ⟨negative, rank⟩
  · rfl
  · rfl
  · rfl

theorem rowOf_withoutNan (id : Int) (m : Metadata) : Tables.rowOf id m.withoutNan = Tables.rowOf id m := by
  unfold Tables.rowOf
  congr 1
  funext f
  cases f with
  | duration | peakLevel => exact congrArg (Cell.toColumn _) (ofValue_filter_ne_nan _)
  | md5 | path | source | name | format | formatSubtype | sampleRate | channels => rfl

/-- Whatever record was stored, this is what is read back. -/
theorem record_rowOf_any {t : Tables} {id : Int} (valid : m.Valid)
    (tags : t.tagsOf id = (Tag.expand m.tags.toList).toList)
    (customs : t.customsOf id = m.custom.toList) :
    t.record (Tables.rowOf id m) = m.withoutNan.readBack := by
  rw [← rowOf_withoutNan]
  exact Tables.record_rowOf (m := m.withoutNan) ⟨valid.tags, valid.keys⟩ (filter_ne_nan _)
    (filter_ne_nan _) tags customs

/-- The values that documents are made of are read back, unless the duration is no number or the zero with a
sign. -/
theorem indexedValues_readBack (isNumber : m.duration ≠ some .nan)
    (unsigned : m.duration ≠ some .negativeZero) :
    m.withoutNan.readBack.indexedValues = m.indexedValues := by
  have duration : (m.duration.filter (· ≠ .nan)).map Cell.keptFloat = m.duration := by
    cases there : m.duration with
    | none => rfl
    | some x =>
        rw [there] at isNumber unsigned
        rw [Option.filter_some_pos (by simpa using isNumber), Option.map_some,
          Cell.keptFloat_eq_self fun same => unsigned (congrArg some same)]
  unfold indexedValues
  refine congrArg (· ++ _) (List.filterMap_congr fun f indexable => ?_)
  rw [List.mem_filter] at indexable
  cases f with
  | duration => exact congrArg (fun x : Option Binary64 => (x.map Value.float).map Value.toText) duration
  | name | format | formatSubtype | sampleRate => rfl
  | md5 | path | source | channels | peakLevel => cases indexable.2

/-- The record that is read back makes the document that was stored. -/
theorem document_readBack (valid : m.Valid) (isNumber : m.duration ≠ some .nan)
    (unsigned : m.duration ≠ some .negativeZero) :
    FullText.document m.withoutNan.readBack (Tag.expand m.withoutNan.readBack.tags.toList) =
      FullText.document m (Tag.expand m.tags.toList) := by
  have implied : Tag.expand m.withoutNan.readBack.tags.toList = Tag.expand m.tags.toList :=
    Tag.expand_leaves valid.tags
  rw [FullText.document, implied, indexedValues_readBack isNumber unsigned, FullText.document]

end Metadata

end SampleLibrary
