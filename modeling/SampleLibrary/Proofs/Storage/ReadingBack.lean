import SampleLibrary.Proofs.Metadata
import SampleLibrary.Proofs.Storage.Retaining
import SampleLibrary.Proofs.TagSets

/-!
# Reading back what was stored

A record is taken apart when it is added to the tables and put together again when it is read. What comes
out is the record that went in, except for its tags: of these, only the leaves are left
(`Tables.record_same`). Everything else is the same, with the exception that the database knows one zero
only.
-/

namespace SampleLibrary

/-! ## Columns -/

theorem Binary64.sameNumber_iff {x y : Binary64} :
    x.sameNumber y = true ↔ ∃ n, x.place? = some n ∧ y.place? = some n := by
  unfold sameNumber compare?
  cases x.place? with
  | none => simp
  | some a =>
      cases y.place? with
      | none => simp
      | some b => simp [Std.LawfulEqCmp.compare_eq_iff_eq, @eq_comm Int b]

theorem Binary64.sameNumber_self {x : Binary64} (isNumber : x ≠ .nan) : x.sameNumber x = true := by
  cases x with
  | nan => exact absurd rfl isNumber
  | signed negative rank => exact sameNumber_iff.mpr ⟨_, rfl, rfl⟩

namespace Cell

theorem toValue_text {f : Field} (kind : f.kind = .text) (s : Option String) :
    ((ofValue (s.map .text)).toColumn f).toValue = s.map .text := by
  cases s <;> simp [ofValue, toColumn, kind, toTextColumn, toValue]

theorem toValue_integer {f : Field} (kind : f.kind = .integer) (n : Option Int64) :
    ((ofValue (n.map .integer)).toColumn f).toValue = n.map .integer := by
  cases n <;> simp [ofValue, toColumn, kind, toIntegerColumn, toNumeric, toValue]

/-- The float that a column keeps: there is one zero. -/
def keptFloat (x : Binary64) : Binary64 := if x.sameNumber (.ofInt 0) then .ofInt 0 else x

theorem sameNumber_keptFloat {x : Binary64} (isNumber : x ≠ .nan) :
    (keptFloat x).sameNumber x = true := by
  unfold keptFloat
  split
  · rename_i zero
    rcases Binary64.sameNumber_iff.mp zero with ⟨n, place, ofZero⟩
    exact Binary64.sameNumber_iff.mpr ⟨n, ofZero, place⟩
  · exact Binary64.sameNumber_self isNumber

theorem toValue_float {f : Field} (kind : f.kind = .float) {x : Option Binary64}
    (isNumber : x ≠ some .nan) :
    ((ofValue (x.map .float)).toColumn f).toValue = (x.map keptFloat).map .float := by
  cases x with
  | none => simp [ofValue, toColumn, kind, toRealColumn, toNumeric, toValue]
  | some x =>
      cases x with
      | nan => exact absurd rfl isNumber
      | signed negative rank =>
          simp [ofValue, toColumn, kind, toRealColumn, toNumeric, toValue, keptFloat]

end Cell

/-! ## Records -/

namespace Metadata

/-- The fields of the record as the columns keep them, and nothing else. -/
def keptFields (m : Metadata) : Metadata :=
  { m with
    duration := m.duration.map Cell.keptFloat
    peakLevel := m.peakLevel.map Cell.keptFloat
    custom := ∅
    tags := ∅ }

theorem set_text {f : Field} (kind : f.kind = .text) (n : Metadata) (s : Option String) :
    n.set f (s.map .text) = n.put f (s.map .text) := by
  cases s <;> simp [set, Value.coerce, kind, Value.toText, Except.toOption]

theorem set_integer {f : Field} (kind : f.kind = .integer) (n : Metadata) (k : Option Int64) :
    n.set f (k.map .integer) = n.put f (k.map .integer) := by
  cases k <;> simp [set, Value.coerce, kind, Except.toOption]

theorem set_float {f : Field} (kind : f.kind = .float) (n : Metadata) (x : Option Binary64) :
    n.set f (x.map .float) = n.put f (x.map .float) := by
  cases x <;> simp [set, Value.coerce, kind, Except.toOption]

/-- What is read from a column is what the column keeps. -/
theorem set_column {m : Metadata} (duration : m.duration ≠ some .nan)
    (peakLevel : m.peakLevel ≠ some .nan) (id : Int) (n : Metadata) (f : Field) :
    n.set f ((Tables.rowOf id m).cell f).toValue = n.put f (m.keptFields.get? f) := by
  unfold Tables.rowOf
  cases f with
  | md5 | path | source | name | format | formatSubtype =>
      dsimp only [get?]
      rw [Cell.toValue_text rfl, set_text rfl]
      rfl
  | sampleRate | channels =>
      dsimp only [get?]
      rw [Cell.toValue_integer rfl, set_integer rfl]
      rfl
  | duration =>
      dsimp only [get?]
      rw [Cell.toValue_float rfl duration, set_float rfl]
      rfl
  | peakLevel =>
      dsimp only [get?]
      rw [Cell.toValue_float rfl peakLevel, set_float rfl]
      rfl

/-- A record is what its fields are. -/
theorem foldl_put (m : Metadata) :
    Field.all.foldl (fun n f => n.put f (m.get? f)) empty = { m with custom := ∅, tags := ∅ } := by
  have texts (s : Option String) : (s.map Value.text).map Value.toText = s := by
    cases s <;> rfl
  have integers (n : Option Int64) : (n.map Value.integer).bind Value.asInteger? = n := by
    cases n <;> rfl
  have floats (x : Option Binary64) : (x.map Value.float).bind Value.asFloat? = x := by
    cases x <;> rfl
  simp only [Field.all, List.foldl_cons, List.foldl_nil, get?, put, texts, integers, floats]
  rfl

theorem insertMany_eq_foldl (found : Std.ExtTreeMap String String) (entries : List (String × String)) :
    found.insertMany entries =
      entries.foldl (fun found entry => found.insert entry.1 entry.2) found := by
  induction entries generalizing found with
  | nil => simp
  | cons entry entries inductionHypothesis =>
      rw [List.foldl_cons, ← inductionHypothesis, Std.ExtTreeMap.insertMany_cons]

theorem foldl_insert_toList (custom : Std.ExtTreeMap String String) :
    custom.toList.foldl (fun found (entry : String × String) => found.insert entry.1 entry.2)
      (∅ : Std.ExtTreeMap String String) = custom := by
  rw [← insertMany_eq_foldl, ← Std.ExtTreeMap.ofList_eq_insertMany_empty]
  apply Std.ExtTreeMap.ext_getElem?
  intro key
  cases there : custom[key]? with
  | some value =>
      exact Std.ExtTreeMap.getElem?_ofList_of_mem Std.ReflCmp.compare_self
        Std.ExtTreeMap.distinct_keys_toList
        (Std.ExtTreeMap.mem_toList_iff_getElem?_eq_some.mpr there)
  | none =>
      apply Std.ExtTreeMap.getElem?_ofList_of_contains_eq_false
      rw [← Bool.not_eq_true, List.contains_iff_mem]
      intro membership
      rcases List.mem_map.mp membership with ⟨⟨key', value⟩, entry, rfl⟩
      rw [Std.ExtTreeMap.mem_toList_iff_getElem?_eq_some.mp entry] at there
      cases there

/-- Custom values with valid keys are all put back. -/
theorem foldl_setCustom {m : Metadata} (valid : m.Valid) (n : Metadata) (none' : n.custom = ∅) :
    m.custom.toList.foldl (fun n (key, value) => n.setCustom key value) n =
      { n with custom := m.custom } := by
  have keys : ∀ entry ∈ m.custom.toList, CustomKey.isValid entry.1 = true := by
    intro entry membership
    apply valid.keys
    rw [Std.ExtTreeMap.mem_iff_isSome_getElem?,
      Std.ExtTreeMap.mem_toList_iff_getElem?_eq_some.mp membership]
    rfl
  have general (entries : List (String × String)) :
      (∀ entry ∈ entries, CustomKey.isValid entry.1 = true) → ∀ n : Metadata,
        entries.foldl (fun n (key, value) => n.setCustom key value) n =
          { n with custom :=
            entries.foldl (fun found entry => found.insert entry.1 entry.2) n.custom } := by
    induction entries with
    | nil => exact fun _ _ => rfl
    | cons entry entries inductionHypothesis =>
        intro allValid n
        rw [List.foldl_cons, inductionHypothesis fun other membership =>
          allValid other (List.mem_cons_of_mem _ membership)]
        simp [setCustom, allValid entry List.mem_cons_self]
  rw [general _ keys, none', foldl_insert_toList]

/-- Valid tags are all put back. -/
theorem setTags_toList {tags : TagSet} (valid : ∀ tag ∈ tags, Tag.isValid tag = true)
    (n : Metadata) : n.setTags tags.toList = { n with tags := tags } := by
  have all : tags.toList.filter Tag.isValid = tags.toList :=
    List.filter_eq_self.mpr fun tag membership => valid tag (Std.ExtTreeSet.mem_toList.mp membership)
  have back : (∅ : TagSet).insertMany tags.toList = tags := by
    apply Std.ExtTreeSet.ext_mem
    intro tag
    rw [Std.ExtTreeSet.mem_insertMany_list, List.contains_iff_mem, Std.ExtTreeSet.mem_toList]
    simp
  simp [setTags, addTags, all, back]

/-- The record that is read back: as it was stored, with the leaves of its tags. -/
def readBack (m : Metadata) : Metadata :=
  { m with
    duration := m.duration.map Cell.keptFloat
    peakLevel := m.peakLevel.map Cell.keptFloat
    tags := Tag.leaves m.tags }

end Metadata

namespace Tables

variable {t : Tables} {m : Metadata} {id : Int}

/-- Custom values leave the other parts of a record alone. -/
theorem foldl_setCustom_keeps {α : Type} {part : Metadata → α}
    (kept : ∀ m key value, part (m.setCustom key value) = part m) (entries : List (String × String))
    (m : Metadata) : part (entries.foldl (fun m (key, value) => m.setCustom key value) m) = part m := by
  induction entries generalizing m with
  | nil => rfl
  | cons entry entries inductionHypothesis =>
      rw [List.foldl_cons, inductionHypothesis]
      exact kept m entry.1 entry.2

theorem setCustom_keeps {α : Type} (part : Metadata → α)
    (blind : ∀ m custom, part { m with custom := custom } = part m) (m : Metadata) (key value : String) :
    part (m.setCustom key value) = part m := by
  unfold Metadata.setCustom
  split
  · exact blind m _
  · rfl

/-- The checksum of a record is the one in the row. -/
theorem record_md5 {i : Item} {md5 : String} (cell : i.cell .md5 = .text md5) :
    (t.record i).md5 = some md5 := by
  unfold record
  rw [foldl_setCustom_keeps (setCustom_keeps Metadata.md5 fun _ _ => rfl)]
  simp [Field.all, Metadata.set, Metadata.put, Metadata.setTags, Metadata.addTags, cell, Cell.toValue,
    Value.coerce, Field.kind, Value.toText, Except.toOption]

/-- The format of a record is the one in the row. -/
theorem record_format {i : Item} {format : Option String}
    (cell : (i.cell .format).toValue = format.map .text) : (t.record i).format = format := by
  unfold record
  rw [foldl_setCustom_keeps (setCustom_keeps Metadata.format fun _ _ => rfl)]
  cases format <;>
    simp [Field.all, Metadata.set, Metadata.put, Metadata.setTags, Metadata.addTags, cell,
      Value.coerce, Field.kind, Value.toText, Except.toOption]

/-- A row of the items and what the other tables say make the record again. -/
theorem record_rowOf (valid : m.Valid) (duration : m.duration ≠ some .nan)
    (peakLevel : m.peakLevel ≠ some .nan)
    (tags : t.tagsOf id = (Tag.expand m.tags.toList).toList)
    (customs : t.customsOf id = m.custom.toList) : t.record (rowOf id m) = m.readBack := by
  have leavesValid : ∀ tag ∈ Tag.leaves m.tags, Tag.isValid tag = true :=
    fun tag membership => valid.tags tag (Tag.mem_leaves.mp membership).1
  have fixed : Field.all.foldl (fun n f => n.set f ((rowOf id m).cell f).toValue) Metadata.empty =
      m.keptFields := by
    simp only [Metadata.set_column duration peakLevel]
    exact Metadata.foldl_put m.keptFields
  unfold record
  rw [fixed, show (rowOf id m).id = id from rfl, tags, customs, Tag.ofList_toList, Tag.leaves_expand]
  dsimp only
  rw [Metadata.setTags_toList leavesValid, Metadata.foldl_setCustom valid _ rfl]
  rfl

end Tables

/-- The record that is read back says the same. -/
theorem Metadata.readBack_same {m : Metadata} (duration : m.duration ≠ some .nan)
    (peakLevel : m.peakLevel ≠ some .nan) :
    m.readBack.same { m with tags := Tag.leaves m.tags } = true := by
  have floats (x : Option Binary64) (isNumber : x ≠ some .nan) :
      sameFloat (x.map Cell.keptFloat) x = true := by
    cases x with
    | none => rfl
    | some x => exact Cell.sameNumber_keptFloat fun isNan => isNumber (congrArg some isNan)
  simp [same, readBack, floats, duration, peakLevel]

end SampleLibrary
