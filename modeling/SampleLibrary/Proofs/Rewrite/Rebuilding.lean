import SampleLibrary.Metadata.View
import SampleLibrary.Proofs.Decimal.Texts
import SampleLibrary.Proofs.Metadata
import SampleLibrary.Proofs.Splitting
import SampleLibrary.Proofs.Storage.ReadingBack

/-!
# Records from texts

A record is taken apart into texts, one for each of its keys, and made again from texts. What the texts of
a record say is read off them again: the text of every value reads as that value, and the tags are the
words between blanks. So the parts of a record can be told by single texts.
-/

namespace SampleLibrary

/-! ## Folds over entries -/

section Folds

variable {α β : Type} {step : α → String × String → α} (part : α → β) {key : String}
  {value : String → β} {entries : List (String × String)}

/-- Entries with other keys leave a part alone. -/
theorem part_foldl_of_not_mem
    (decided : ∀ a entry, part (step a entry) = if entry.1 = key then value entry.2 else part a)
    (absent : ∀ text, (key, text) ∉ entries) (a : α) : part (entries.foldl step a) = part a := by
  induction entries generalizing a with
  | nil => rfl
  | cons entry entries inductionHypothesis =>
      have other : entry.1 ≠ key := by
        rintro rfl
        exact absent entry.2 List.mem_cons_self
      rw [List.foldl_cons, inductionHypothesis fun text membership =>
        absent text (List.mem_cons_of_mem _ membership), decided, if_neg other]

/-- The only text under a key decides its part. -/
theorem part_foldl_of_mem {text : String}
    (decided : ∀ a entry, part (step a entry) = if entry.1 = key then value entry.2 else part a)
    (present : (key, text) ∈ entries) (only : ∀ other, (key, other) ∈ entries → other = text) (a : α) :
    part (entries.foldl step a) = value text := by
  induction entries generalizing a with
  | nil => exact absurd present List.not_mem_nil
  | cons entry entries inductionHypothesis =>
      by_cases later : (key, text) ∈ entries
      · exact inductionHypothesis later
          (fun other membership => only other (List.mem_cons_of_mem _ membership)) _
      · obtain rfl : (key, text) = entry := (List.mem_cons.mp present).resolve_right later
        have absent : ∀ other, (key, other) ∉ entries := by
          intro other membership
          exact later (only other (List.mem_cons_of_mem _ membership) ▸ membership)
        rw [List.foldl_cons, part_foldl_of_not_mem part decided absent, decided, if_pos rfl]

/-- What is put together from the entries of a map has the part that the map has a text for. -/
theorem part_foldl_toList
    (decided : ∀ a entry, part (step a entry) = if entry.1 = key then value entry.2 else part a)
    (texts : Std.ExtTreeMap String String) (a : α) :
    part (texts.toList.foldl step a) = (texts[key]?).elim (part a) value := by
  cases there : texts[key]? with
  | none =>
      refine part_foldl_of_not_mem part decided (fun text membership => ?_) a
      rw [Std.ExtTreeMap.mem_toList_iff_getElem?_eq_some, there] at membership
      cases membership
  | some text =>
      refine part_foldl_of_mem part decided (Std.ExtTreeMap.mem_toList_iff_getElem?_eq_some.mpr there)
        (fun other membership => ?_) a
      rw [Std.ExtTreeMap.mem_toList_iff_getElem?_eq_some, there] at membership
      exact (Option.some.inj membership).symm

end Folds

theorem getElem?_insert_entry {key : String} (texts : Std.ExtTreeMap String String)
    (entry : String × String) :
    (texts.insert entry.1 entry.2)[key]? = if entry.1 = key then some entry.2 else texts[key]? := by
  rw [Std.ExtTreeMap.getElem?_insert]
  simp only [Std.LawfulEqCmp.compare_eq_iff_eq]

section Inserting

variable {texts : Std.ExtTreeMap String String} {entries : List (String × String)} {key text : String}

theorem getElem?_insertMany_of_not_mem (absent : ∀ text, (key, text) ∉ entries) :
    (texts.insertMany entries)[key]? = texts[key]? := by
  rw [Metadata.insertMany_eq_foldl]
  exact part_foldl_of_not_mem (fun texts : Std.ExtTreeMap String String => texts[key]?)
    getElem?_insert_entry absent texts

theorem getElem?_insertMany_of_mem (present : (key, text) ∈ entries)
    (only : ∀ other, (key, other) ∈ entries → other = text) :
    (texts.insertMany entries)[key]? = some text := by
  rw [Metadata.insertMany_eq_foldl]
  exact part_foldl_of_mem (fun texts : Std.ExtTreeMap String String => texts[key]?)
    getElem?_insert_entry present only texts

theorem getElem?_insertMany_toList {others : Std.ExtTreeMap String String} :
    (texts.insertMany others.toList)[key]? = (others[key]?).or texts[key]? := by
  have folded := part_foldl_toList (fun texts : Std.ExtTreeMap String String => texts[key]?)
    getElem?_insert_entry others texts
  rw [Metadata.insertMany_eq_foldl]
  refine folded.trans ?_
  cases others[key]? <;> rfl

end Inserting

/-! ## Values -/

theorem Value.toOption_coerce_text (f : Field) (text : String) :
    ((Value.text text).coerce f).toOption = Value.read? f.kind text := by
  unfold Value.coerce
  cases kind : f.kind with
  | text => rfl
  | integer =>
      dsimp only
      cases Value.read? .integer text <;> rfl
  | float =>
      dsimp only
      cases Value.read? .float text <;> rfl

namespace Metadata

variable {m n : Metadata}

/-- A field that is set to what a text says has just that value. -/
theorem get?_set_text (n : Metadata) (f g : Field) (text : String) :
    (n.set f (some (.text text))).get? g =
      if f = g then Value.read? g.kind text else n.get? g := by
  rw [set, Option.bind_some, Value.toOption_coerce_text]
  split
  · rename_i same
    subst same
    cases f with
    | md5 | path | source | name | format | formatSubtype => rfl
    | sampleRate | channels =>
        simp only [put, get?, Field.kind, Value.read?, Option.bind_map]
        cases Decimal.readInt64? _ <;> rfl
    | duration | peakLevel =>
        simp only [put, get?, Field.kind, Value.read?, Option.bind_map]
        cases Decimal.readFloat? _ <;> rfl
  · rename_i other
    cases f <;> cases g <;> first | rfl | exact absurd rfl other

/-- The text of a value of a record reads as that value. -/
theorem read?_toText (duration : m.duration ≠ some .nan) (peakLevel : m.peakLevel ≠ some .nan)
    {f : Field} {v : Value} (there : m.get? f = some v) : Value.read? f.kind v.toText = some v := by
  cases f with
  | md5 | path | source | name | format | formatSubtype =>
      obtain ⟨text, -, rfl⟩ := Option.map_eq_some_iff.mp there
      rfl
  | sampleRate | channels =>
      obtain ⟨n, -, rfl⟩ := Option.map_eq_some_iff.mp there
      change (Decimal.readInt64? (Text.trim (toString n.toInt).toList)).map Value.integer = _
      rw [Decimal.readInt64?_toString, Option.map_some]
  | duration =>
      obtain ⟨x, field, rfl⟩ := Option.map_eq_some_iff.mp there
      have isNumber : x ≠ .nan := fun isNan => duration (isNan ▸ field)
      simp [Value.read?, Field.kind, Value.toText, Binary64.readFloat?_toText isNumber]
  | peakLevel =>
      obtain ⟨x, field, rfl⟩ := Option.map_eq_some_iff.mp there
      have isNumber : x ≠ .nan := fun isNan => peakLevel (isNan ▸ field)
      simp [Value.read?, Field.kind, Value.toText, Binary64.readFloat?_toText isNumber]

/-- Records with the same values, custom values and tags are equal. -/
theorem ext_get? (fields : ∀ f, m.get? f = n.get? f) (custom : m.custom = n.custom)
    (tags : m.tags = n.tags) : m = n := by
  have texts {s t : Option String} (same : s.map Value.text = t.map Value.text) : s = t :=
    Option.map_injective (fun _ _ => Value.text.inj) same
  have integers {k l : Option Int64} (same : k.map Value.integer = l.map Value.integer) : k = l :=
    Option.map_injective (fun _ _ => Value.integer.inj) same
  have floats {x y : Option Binary64} (same : x.map Value.float = y.map Value.float) : x = y :=
    Option.map_injective (fun _ _ => Value.float.inj) same
  cases m
  cases n
  simp only [mk.injEq]
  exact ⟨texts (fields .md5), texts (fields .path), texts (fields .source), texts (fields .name),
    texts (fields .format), texts (fields .formatSubtype), integers (fields .sampleRate),
    integers (fields .channels), floats (fields .duration), floats (fields .peakLevel), custom, tags⟩

/-! ## Records made of texts -/

theorem get?_setCustom (n : Metadata) (key value : String) (f : Field) :
    (n.setCustom key value).get? f = n.get? f := by
  unfold setCustom
  split
  · cases f <;> rfl
  · rfl

theorem get?_addEntry (f : Field) (n : Metadata) (entry : String × String) :
    (n.addEntry entry.1 (.text entry.2)).get? f =
      if entry.1 = f.key then Value.read? f.kind entry.2 else n.get? f := by
  unfold addEntry
  split
  · rename_i g named
    rw [get?_set_text, ← Field.key_of_ofKey? named]
    exact if_congr ⟨congrArg Field.key, Field.key_inj⟩ rfl rfl
  · rename_i unnamed
    rw [get?_setCustom, if_neg]
    intro isField
    rw [isField, Field.ofKey?_key] at unnamed
    cases unnamed

theorem custom_addEntry {key : String} (valid : CustomKey.isValid key = true) (n : Metadata)
    (entry : String × String) : (n.addEntry entry.1 (.text entry.2)).custom[key]? =
      if entry.1 = key then some entry.2 else n.custom[key]? := by
  unfold addEntry
  split
  · rename_i g named
    rw [if_neg]
    · cases g <;> rfl
    · intro same
      rw [same, Field.ofKey?_of_isValid valid] at named
      cases named
  · unfold setCustom
    split
    · exact getElem?_insert_entry n.custom entry
    · rename_i invalid
      rw [if_neg]
      rintro rfl
      exact invalid valid

theorem tags_addEntry (n : Metadata) (key : String) (value : Value) :
    (n.addEntry key value).tags = n.tags := by
  unfold addEntry
  split
  · rename_i f _
    cases f <;> rfl
  · unfold setCustom
    split <;> rfl

/-- The record made of the texts of a map and of the words for tags. -/
def ofTexts (texts : Std.ExtTreeMap String String) (words : List String) : Metadata :=
  ofFields (texts.toList.map fun (key, text) => (key, .text text)) words

section OfTexts

variable (texts : Std.ExtTreeMap String String) (words : List String)

theorem ofTexts_eq : ofTexts texts words =
    (texts.toList.foldl (fun n entry => n.addEntry entry.1 (.text entry.2)) empty).addTags words := by
  rw [ofTexts, ofFields, List.foldl_map]

theorem get?_ofTexts (f : Field) :
    (ofTexts texts words).get? f = (texts[f.key]?).bind (Value.read? f.kind) := by
  have folded := part_foldl_toList (fun n : Metadata => n.get? f)
    (get?_addEntry f) texts empty
  have untagged (n : Metadata) : (n.addTags words).get? f = n.get? f := by cases f <;> rfl
  rw [ofTexts_eq, untagged, folded]
  cases texts[f.key]? with
  | none => cases f <;> rfl
  | some text => rfl

theorem custom_ofTexts {key : String} (valid : CustomKey.isValid key = true) :
    (ofTexts texts words).custom[key]? = texts[key]? := by
  have folded := part_foldl_toList (fun n : Metadata => n.custom[key]?)
    (custom_addEntry valid) texts empty
  rw [ofTexts_eq]
  refine folded.trans ?_
  cases texts[key]? with
  | none => exact Std.ExtTreeMap.getElem?_empty
  | some text => rfl

theorem tags_ofTexts : (ofTexts texts words).tags =
    (∅ : TagSet).insertMany (words.filter Tag.isValid) := by
  have untouched (entries : List (String × String)) (n : Metadata) :
      (entries.foldl (fun n entry => n.addEntry entry.1 (.text entry.2)) n).tags = n.tags := by
    induction entries generalizing n with
    | nil => rfl
    | cons entry entries inductionHypothesis =>
        rw [List.foldl_cons, inductionHypothesis, tags_addEntry]
  rw [ofTexts_eq, addTags, untouched]
  rfl

end OfTexts

end Metadata

end SampleLibrary
