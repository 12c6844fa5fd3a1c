import SampleLibrary.Proofs.Library.TagHierarchy
import SampleLibrary.Proofs.Storage.Documents

/-!
# The full-text index mirrors the items

Each item of a library has one document at all times, and the document is the one that would be made of the
record that a search returns for the item (`History.mirrored`). It was made long before, of the record that
came in: it has stayed what it was ever since the import (`Since.contentsOf`), and so has the record.
-/

namespace SampleLibrary.Library

open Tables (Imported Repaired Indexed)
open Query

variable {allowed : Metadata → Bool → Prop} {lib lib' : Library} {w w' : World} {t t' : Tables}
  {id : Int} {m : Metadata}

/-- Only records whose tags and keys are valid are imported. No other ones can be made. -/
def Validated (m : Metadata) (_ : Bool) : Prop := m.Valid

/-! ## One document for each item -/

theorem History.indexed (history : History allowed lib w) : ∃ t, Holds lib w t ∧ t.Indexed := by
  apply history.keeps (P := Indexed) Tables.fresh_indexed
  · intro t t' imported indexed
    cases imported with
    | added _ _ _ _ => exact indexed.addItem _ _
  · exact fun t t' repaired indexed => repaired.indexed indexed

/-! ## Documents stay as they are -/

/-- Imports leave the items that are there, and their documents. -/
theorem contentsOf_of_grown (grown : Relation.ReflTransGen (Imported allowed) t t')
    (present : t.hasItem id = true) :
    t'.hasItem id = true ∧ t'.contentsOf id = t.contentsOf id := by
  induction grown with
  | refl => exact ⟨present, rfl⟩
  | tail _ imported inductionHypothesis =>
      rcases inductionHypothesis with ⟨present', same⟩
      cases imported with
      | added _ _ _ _ =>
          rw [Tables.contentsOf_addItem_of_hasItem present', same]
          rcases Tables.hasItem_iff.mp present' with ⟨i, row, number⟩
          refine ⟨Tables.hasItem_iff.mpr ⟨i, ?_, number⟩, rfl⟩
          rw [Tables.addItem_items]
          exact List.mem_append_left _ row

/-- Repairs leave the documents of items that they leave. -/
theorem contentsOf_of_repairs (repairs : Relation.ReflTransGen Repaired t t')
    (there : t'.hasItem id = true) : t'.contentsOf id = t.contentsOf id := by
  induction repairs with
  | refl => rfl
  | tail _ repaired inductionHypothesis =>
      rw [repaired.contentsOf there]
      exact inductionHypothesis (repaired.hasItem there)

theorem Since.holds (since : Since id lib w lib' w') :
    ∃ t', Holds lib' w' t' ∧ t'.hasItem id = true := by
  have there : lib'.hasItem w' id = true := by
    cases since with
    | start there => exact there
    | next _ _ there => exact there
  unfold Library.hasItem at there
  split at there
  · rename_i t' content
    exact ⟨t', content, there⟩
  · cases there

/-- An item that stays in the database keeps its document. -/
theorem Since.contentsOf (since : Since id lib w lib' w') (content : Holds lib w t)
    (content' : Holds lib' w' t') : t'.contentsOf id = t.contentsOf id := by
  induction since generalizing t' with
  | start => rw [content'.eq content]
  | next before event there inductionHypothesis =>
      rcases before.holds with ⟨t₁, content₁, present⟩
      rw [← inductionHypothesis content content₁]
      rcases event.evolves content₁ with ⟨t₂, content₂, evolves⟩
      obtain rfl := content₂.eq content'
      rw [content₂.hasItem] at there
      cases evolves with
      | grown grown => exact (contentsOf_of_grown grown present).2
      | repaired repairs => exact contentsOf_of_repairs repairs there
      | renewed => cases there

/-! ## Documents of records -/

/-- The document of an item is that of the record from which it was imported, as it was stored, and this is
the record that is read back. -/
theorem ImportedFrom.document (origin : ImportedFrom m id lib w) (content : Holds lib w t)
    (valid : m.Valid) {i : Item} (row : i ∈ t.items) (number : i.id = id) :
    ∃ path copy,
      t.contentsOf id = [FullText.document (stored m path copy) (Tag.expand m.tags.toList)] ∧
      t.record i = (stored m path copy).withoutNan.readBack := by
  obtain ⟨lib₀, w₀, copy, reached, tagsValid, done, since⟩ := origin
  rcases reached.orderly with ⟨t₀, content₀, consistent, orderly⟩
  rcases reached.history.indexed with ⟨t₀', content₀', indexed⟩
  obtain rfl := content₀'.eq content₀
  rcases importFile_ok content₀ done with ⟨t₁, content₁, addition⟩
  rcases since.retains (.imported m copy reached tagsValid) with
    ⟨-, t₂, t₃, content₂, content₃, -, retains⟩
  obtain rfl := content₂.eq content₁
  obtain rfl := content₃.eq content
  rcases addition.adds consistent orderly tagsValid with ⟨md5, path, -, source, result⟩
  refine ⟨path, copy, ?_, ?_⟩
  · rw [since.contentsOf content₁ content, addition.number]
    rcases addition.source with ⟨md5', path', required, -, rfl⟩
    obtain rfl : path' = path := Option.some.inj ((path_of_requireSource required).symm.trans source)
    exact Tables.contentsOf_addItem_self indexed
  · -- of the rows that are there after the import, only the new one has the number
    have isRow : i = Tables.rowOf t₀'.nextItem (stored m path copy) := by
      have before := (retains.row i number).mp row
      rw [result.items, List.mem_append, List.mem_singleton] at before
      rcases before with old | new
      · exact absurd (List.mem_map.mpr ⟨i, old, number.trans addition.number⟩) Tables.nextItem_fresh
      · exact new
    subst number
    rw [retains.record, isRow]
    exact Metadata.record_rowOf_any (m := stored m path copy) ⟨valid.tags, valid.keys⟩ result.tags
      result.customs

/-- The documents of a library are those of the records that are read back. -/
structure Mirrored (lib : Library) (w : World) (t : Tables) : Prop where
  /-- Documents and items stand side by side, and no number is there twice. -/
  paired : t.documents.map (·.item) = t.items.map (·.id)
  distinct : (t.items.map (·.id)).Nodup
  imported : ∀ i ∈ t.items, ∃ m, m.Valid ∧ ImportedFrom m i.id lib w
  /-- There is no cell for a duration that is no number, and none for the zero with a sign. -/
  documents : ∀ m, m.Valid → m.duration ≠ some .nan → m.duration ≠ some .negativeZero →
    ∀ i ∈ t.items, ImportedFrom m i.id lib w → ∀ d ∈ t.documents, d.item = i.id →
      d.content = FullText.document (t.record i) (Tag.expand (t.record i).tags.toList)
  /-- The records that are read back are those that a search for everything returns. -/
  found : lib.isClosed = false → ∃ found : List Item,
    (lib.search [] unlimited w).1 = .ok (found.map t.record) ∧ found.Perm t.items

/-- A query without conditions asks for all items. -/
theorem matches_nil {i : Item} (placed : i.inLibrary = true) : Matches t .library [] i where
  inScope := beq_iff_eq.mp placed
  compared _ _ _ condition := absurd condition List.not_mem_nil
  tagged some := absurd some.choose_spec List.not_mem_nil
  notAllUntagged := List.not_mem_nil
  untagged _ condition := absurd condition List.not_mem_nil
  worded some := absurd rfl some

/-- Whatever has happened to a library, the full-text index says what the items say. -/
theorem History.mirrored (history : History Validated lib w) :
    ∃ t, Holds lib w t ∧ Mirrored lib w t := by
  have proper : ∀ m copy, Validated m copy → m.TagsValid := fun m copy valid => valid.tags
  have reached := history.reached proper
  rcases reached.orderly with ⟨t, content, consistent, -⟩
  rcases history.indexed with ⟨t', content', indexed⟩
  obtain rfl := content'.eq content
  refine
    ⟨t', content,
      { paired := indexed
        distinct := consistent.keyed.itemIds
        imported := fun i row => ?_
        documents := fun m valid isNumber unsigned i row origin d document number => ?_
        found := fun isOpen => ?_ }⟩
  · exact history.accounted (fun m copy valid => ⟨valid, valid.tags⟩) i.id
      (content.hasItem ▸ Tables.hasItem_iff.mpr ⟨i, row, rfl⟩)
  · rcases origin.document content valid row rfl with ⟨path, copy, contents, record⟩
    have listed : d.content ∈ t'.contentsOf i.id :=
      List.mem_map_of_mem (List.mem_filter.mpr ⟨document, beq_iff_eq.mpr number⟩)
    rw [contents, List.mem_singleton] at listed
    rw [listed, record]
    exact (Metadata.document_readBack (m := stored m path copy) ⟨valid.tags, valid.keys⟩ isNumber
      unsigned).symm
  · rcases reached.exists_search (content.readable isOpen) [] rfl with
      ⟨found, searched, nodup, isFound⟩
    rcases reached.inLibrary with ⟨t, content', placed⟩
    obtain rfl := content'.eq content
    refine ⟨found, searched, ?_⟩
    refine (List.perm_ext_iff_of_nodup nodup consistent.keyed.itemIds.of_map).mpr fun i => ?_
    rw [isFound, and_iff_left_of_imp]
    exact fun row => matches_nil (placed i row)

theorem clap_valid : clap.Valid := by
  unfold clap
  apply Metadata.Valid.addTags
  exact ⟨Metadata.tagsValid_empty, Metadata.valid_empty.keys⟩

/-- The snare, with a path of tags that implies others, and the clap are imported. -/
theorem snare_mirrored :
    ∃ lib w, History Validated lib w ∧ lib.hasItem w 1 = true ∧ lib.isClosed = false ∧
      snare.duration ≠ some .nan ∧ snare.duration ≠ some .negativeZero ∧
      ∃ t, Holds lib w t ∧ Mirrored lib w t := by
  obtain ⟨lib, opened, there⟩ := snare_there
  have history : History Validated lib (snareWorlds lib).2.1 :=
    .next (.next (.created bareWorld_absent opened) (.imported snare false snare_valid))
      (.imported clap false clap_valid)
  exact ⟨lib, _, history, there, (openAt_ok opened).2.1, by decide, by decide, history.mirrored⟩

end SampleLibrary.Library
