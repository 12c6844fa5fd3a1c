import SampleLibrary.Proofs.Rewrite.Rebuilding
import SampleLibrary.Proofs.Tags

/-!
# What rules may touch

Rules change the tags, the name and custom values that they name as targets, and nothing else
(`Metadata.rewrite_confined`). The record is rebuilt from the texts that the rules have seen, so this rests
on records being what their texts say.
-/

namespace SampleLibrary

/-! ## Tags between spaces -/

namespace Text

/-- Words that are joined with spaces come apart again. -/
theorem blankWords_join {words : List String}
    (sharp : ∀ word ∈ words, word.toList ≠ [] ∧ ∀ c ∈ word.toList, isBlank c = false) :
    blankWords (join " " words) = words := by
  induction words with
  | nil => rfl
  | cons word words inductionHypothesis =>
      obtain ⟨nonempty, unblank⟩ := sharp word List.mem_cons_self
      have alone : wordsBetween isBlank word.toList = [word.toList] :=
        wordsBetween_of_forall nonempty unblank
      cases words with
      | nil => rw [join, String.intercalate_singleton, blankWords, alone, List.map_singleton,
          String.ofList_toList]
      | cons next words =>
          have rest := inductionHypothesis fun other membership =>
            sharp other (List.mem_cons_of_mem _ membership)
          have text : (join " " (word :: next :: words)).toList =
              word.toList ++ ' ' :: (join " " (next :: words)).toList := by
            rw [join, String.intercalate_cons_cons]
            simp [join]
          rw [blankWords, text, wordsBetween_append_cons (by decide), alone, List.map_append]
          exact congrArg₂ _ (congrArg (·::[]) String.ofList_toList) rest

end Text

namespace Tag

theorem not_isBlank_of_isTagChar {c : Char} (tagChar : isTagChar c = true) :
    Text.isBlank c = false := by
  simp only [isTagChar, Text.isWord, Bool.or_eq_true, beq_iff_eq] at tagChar
  rcases tagChar with (alphanumeric | rfl) | rfl
  · exact Text.not_isBlank_of_isAlphanumeric alphanumeric
  · decide
  · decide

/-- A valid tag is a word. -/
theorem sharp_of_isValid {tag : String} (valid : isValid tag = true) :
    tag.toList ≠ [] ∧ ∀ c ∈ tag.toList, Text.isBlank c = false := by
  refine ⟨?_, fun c membership => ?_⟩
  · intro empty
    simp [isValid, empty, isSegment] at valid
  · rcases isTagChar_of_isValid valid membership with rfl | tagChar
    · decide
    · exact not_isBlank_of_isTagChar tagChar

end Tag

/-! ## What rules see -/

namespace Rule

variable {m : Metadata} {root : Option String} {key : String}

theorem mem_fixedTexts {text : String} :
    (key, text) ∈ m.fixedTexts ↔ ∃ f v, f.key = key ∧ m.get? f = some v ∧ v.toText = text := by
  rw [Metadata.fixedTexts, List.mem_filterMap]
  constructor
  · rintro ⟨f, -, there⟩
    obtain ⟨v, value, equality⟩ := Option.map_eq_some_iff.mp there
    rw [Prod.mk.injEq] at equality
    exact ⟨f, v, equality.1, value, equality.2⟩
  · rintro ⟨f, v, rfl, value, rfl⟩
    exact ⟨f, Field.mem_all f, by rw [value, Option.map_some]⟩

/-- Custom values hide fixed ones, but no valid key is that of a field. -/
theorem getElem?_texts :
    m.texts[key]? = (m.custom[key]?).or (Std.ExtTreeMap.ofList m.fixedTexts)[key]? :=
  getElem?_insertMany_toList

theorem getElem?_texts_field (valid : m.Valid) (f : Field) :
    m.texts[f.key]? = (m.get? f).map Value.toText := by
  have noCustom : m.custom[f.key]? = none := by
    apply Std.ExtTreeMap.getElem?_eq_none
    intro there
    exact f.not_isValid_key (valid.keys _ there)
  rw [getElem?_texts, noCustom, Option.none_or, Std.ExtTreeMap.ofList_eq_insertMany_empty]
  cases there : m.get? f with
  | none =>
      refine (getElem?_insertMany_of_not_mem fun text membership => ?_).trans
        Std.ExtTreeMap.getElem?_empty
      obtain ⟨g, v, same, value, -⟩ := mem_fixedTexts.mp membership
      rw [Field.key_inj same, there] at value
      cases value
  | some v =>
      refine getElem?_insertMany_of_mem (mem_fixedTexts.mpr ⟨f, v, rfl, there, rfl⟩)
        fun other membership => ?_
      obtain ⟨g, w, same, value, rfl⟩ := mem_fixedTexts.mp membership
      rw [Field.key_inj same, there] at value
      rw [Option.some.inj value]

theorem getElem?_texts_custom (isValid : CustomKey.isValid key = true) :
    m.texts[key]? = m.custom[key]? := by
  have noField : (Std.ExtTreeMap.ofList m.fixedTexts)[key]? = none := by
    rw [Std.ExtTreeMap.ofList_eq_insertMany_empty]
    refine (getElem?_insertMany_of_not_mem fun text membership => ?_).trans
      Std.ExtTreeMap.getElem?_empty
    obtain ⟨f, v, rfl, -, -⟩ := mem_fixedTexts.mp membership
    exact f.not_isValid_key isValid
  rw [getElem?_texts, noField, Option.or_none]

theorem getElem?_visible (noTags : key ≠ tagsKey) (noCategory : key ≠ categoryKey) :
    (visible m root)[key]? = m.texts[key]? := by
  unfold visible
  dsimp only
  split <;> simp [Std.ExtTreeMap.getElem?_insert, noTags.symm, noCategory.symm]

theorem visible_tags : (visible m root)[tagsKey]? = some (Text.join " " m.tags.toList) := by
  have apart : compare categoryKey tagsKey ≠ .eq := by decide
  unfold visible
  dsimp only
  split
  · rw [Std.ExtTreeMap.getElem?_insert, if_neg apart, Std.ExtTreeMap.getElem?_insert_self]
  · rw [Std.ExtTreeMap.getElem?_insert_self]

/-! ## What rules write -/

section Writing

variable {rule : Rule} {rules : List Rule} {texts : Texts}

/-- A rule changes its targets only, and only those that are allowed. -/
theorem target_of_apply_ne (changed : (rule.apply texts)[key]? ≠ texts[key]?) :
    isTarget key = true ∧ ∃ template, (key, template) ∈ rule.substitutions := by
  unfold apply at changed
  split at changed
  · exact absurd rfl changed
  · rename_i groups _
    have written : ∃ text, (key, text) ∈ rule.written texts groups := by
      by_contra absent
      push Not at absent
      exact changed (getElem?_insertMany_of_not_mem absent)
    obtain ⟨text, membership⟩ := written
    obtain ⟨⟨target, template⟩, allowed, filled⟩ := List.mem_filterMap.mp membership
    obtain ⟨value, -, equality⟩ := Option.map_eq_some_iff.mp filled
    obtain rfl : target = key := congrArg Prod.fst equality
    rw [List.mem_filter] at allowed
    exact ⟨allowed.2, template, allowed.1⟩

/-- What several rules change is a target of one of them. -/
theorem target_of_foldl_ne
    (changed : (rules.foldl (fun texts rule => rule.apply texts) texts)[key]? ≠ texts[key]?) :
    isTarget key = true ∧ ∃ rule ∈ rules, ∃ template, (key, template) ∈ rule.substitutions := by
  induction rules generalizing texts with
  | nil => exact absurd rfl changed
  | cons rule rules inductionHypothesis =>
      by_cases later : (rules.foldl (fun texts rule => rule.apply texts) (rule.apply texts))[key]? =
          (rule.apply texts)[key]?
      · rw [List.foldl_cons, later] at changed
        obtain ⟨allowed, target⟩ := target_of_apply_ne changed
        exact ⟨allowed, rule, List.mem_cons_self, target⟩
      · obtain ⟨allowed, other, membership, target⟩ := inductionHypothesis later
        exact ⟨allowed, other, List.mem_cons_of_mem _ membership, target⟩

/-- Rules that do not match change nothing. -/
theorem foldl_apply_of_no_match
    (unmatched : ∀ rule ∈ rules, ∀ text, texts[rule.field]? = some text →
      rule.pattern.matchStart? text = none) :
    rules.foldl (fun texts rule => rule.apply texts) texts = texts := by
  induction rules with
  | nil => rfl
  | cons rule rules inductionHypothesis =>
      have idle : rule.apply texts = texts := by
        unfold apply
        cases there : texts[rule.field]? with
        | none => rfl
        | some text =>
            rw [Option.bind_some, unmatched rule List.mem_cons_self text there]
      rw [List.foldl_cons, idle]
      exact inductionHypothesis fun other membership =>
        unmatched other (List.mem_cons_of_mem _ membership)

end Writing

/-- Of the fields only the name is a target. -/
theorem isTarget_key {f : Field} (allowed : isTarget f.key = true) : f = .name := by
  cases f with
  | name => rfl
  | md5 | path | source | format | formatSubtype | sampleRate | channels | duration | peakLevel =>
      exact absurd allowed (by decide)

end Rule

/-! ## Rewritten records -/

namespace Metadata

open Rule (Texts)

variable {m : Metadata}

/-- The texts after the rules. -/
def textsAfter (m : Metadata) (rules : List Rule) (root : Option String) : Texts :=
  rules.foldl (fun texts rule => rule.apply texts) (Rule.visible m root)

theorem rewrite_eq (m : Metadata) (rules : List Rule) (root : Option String) :
    m.rewrite rules root =
      ofTexts (((m.textsAfter rules root).erase Rule.categoryKey).erase Rule.tagsKey)
        (Text.blankWords ((m.textsAfter rules root)[Rule.tagsKey]?.getD "")) := rfl

theorem ne_keys_of_field (f : Field) : f.key ≠ Rule.tagsKey ∧ f.key ≠ Rule.categoryKey := by
  cases f <;> decide

theorem ne_keys_of_isValid {key : String} (isValid : CustomKey.isValid key = true) :
    key ≠ Rule.tagsKey ∧ key ≠ Rule.categoryKey := by
  constructor <;>
  · rintro rfl
    exact absurd isValid (by decide)

theorem Valid.custom_of_invalid (valid : m.Valid) {key : String}
    (invalid : ¬CustomKey.isValid key = true) : m.custom[key]? = none :=
  Std.ExtTreeMap.getElem?_eq_none fun there => invalid (valid.keys key there)

theorem Valid.isValid_of_mem_tags (valid : m.Valid) {tag : String} (membership : tag ∈ m.tags.toList) :
    Tag.isValid tag = true :=
  valid.tags tag (Std.ExtTreeSet.mem_toList.mp membership)

/-- The tags are the words of the text that joins them. -/
theorem Valid.blankWords_tags (valid : m.Valid) :
    Text.blankWords (Text.join " " m.tags.toList) = m.tags.toList :=
  Text.blankWords_join fun _ membership => Tag.sharp_of_isValid (valid.isValid_of_mem_tags membership)

section Kept

variable {rules : List Rule} {root : Option String}

theorem get?_rewrite_eq (f : Field) :
    (m.rewrite rules root).get? f = ((m.textsAfter rules root)[f.key]?).bind (Value.read? f.kind) := by
  obtain ⟨noTags, noCategory⟩ := ne_keys_of_field f
  rw [rewrite_eq, get?_ofTexts]
  simp [Std.ExtTreeMap.getElem?_erase, noTags.symm, noCategory.symm]

/-- A field whose text the rules keep is read back as it was. -/
theorem get?_rewrite (valid : m.Valid) (duration : m.duration ≠ some .nan)
    (peakLevel : m.peakLevel ≠ some .nan) {f : Field}
    (kept : (m.textsAfter rules root)[f.key]? = (Rule.visible m root)[f.key]?) :
    (m.rewrite rules root).get? f = m.get? f := by
  obtain ⟨noTags, noCategory⟩ := ne_keys_of_field f
  rw [get?_rewrite_eq, kept, Rule.getElem?_visible noTags noCategory, Rule.getElem?_texts_field valid]
  cases there : m.get? f with
  | none => rfl
  | some v => exact read?_toText duration peakLevel there

/-- So is a custom value. -/
theorem custom_rewrite (valid : m.Valid) {key : String}
    (kept : (m.textsAfter rules root)[key]? = (Rule.visible m root)[key]?) :
    (m.rewrite rules root).custom[key]? = m.custom[key]? := by
  by_cases isValid : CustomKey.isValid key = true
  · obtain ⟨noTags, noCategory⟩ := ne_keys_of_isValid isValid
    rw [rewrite_eq, custom_ofTexts _ _ isValid, ← Rule.getElem?_texts_custom isValid,
      ← Rule.getElem?_visible noTags noCategory, ← kept]
    simp [Std.ExtTreeMap.getElem?_erase, noTags.symm, noCategory.symm]
  · rw [(valid_rewrite m rules root).custom_of_invalid isValid, valid.custom_of_invalid isValid]

/-- The tags are read back from the words between spaces. -/
theorem tags_rewrite (valid : m.Valid)
    (kept : (m.textsAfter rules root)[Rule.tagsKey]? = (Rule.visible m root)[Rule.tagsKey]?) :
    (m.rewrite rules root).tags = m.tags := by
  rw [rewrite_eq, tags_ofTexts, kept, Rule.visible_tags, Option.getD_some, valid.blankWords_tags,
    List.filter_eq_self.mpr fun tag => valid.isValid_of_mem_tags, ← Std.ExtTreeSet.ofList_eq_insertMany_empty,
    Tag.ofList_toList]

end Kept

/-- Rewriting leaves all fields but the name alone. The custom values that it changes have valid keys and
are targets of rules. If no rule matches where its text begins, the record stays as it is. -/
theorem rewrite_confined (valid : m.Valid) (duration : m.duration ≠ some .nan)
    (peakLevel : m.peakLevel ≠ some .nan) (rules : List Rule) (root : Option String) :
    (∀ f, f ≠ .name → (m.rewrite rules root).get? f = m.get? f) ∧
    (∀ key, (m.rewrite rules root).custom[key]? ≠ m.custom[key]? →
      CustomKey.isValid key = true ∧
        ∃ rule ∈ rules, ∃ template, (key, template) ∈ rule.substitutions) ∧
    ((∀ rule ∈ rules, ∀ text, (Rule.visible m root)[rule.field]? = some text →
      rule.pattern.matchStart? text = none) → m.rewrite rules root = m) := by
  refine ⟨fun f notName => ?_, fun key changed => ?_, fun unmatched => ?_⟩
  · apply get?_rewrite valid duration peakLevel
    by_contra changed
    exact notName (Rule.isTarget_key (Rule.target_of_foldl_ne changed).1)
  · refine ⟨?_, (Rule.target_of_foldl_ne fun kept => changed (custom_rewrite valid kept)).2⟩
    by_contra invalid
    rw [(valid_rewrite m rules root).custom_of_invalid invalid, valid.custom_of_invalid invalid] at changed
    exact changed rfl
  · have kept : m.textsAfter rules root = Rule.visible m root :=
      Rule.foldl_apply_of_no_match unmatched
    refine ext_get? (fun f => get?_rewrite valid duration peakLevel (by rw [kept])) ?_
      (tags_rewrite valid (by rw [kept]))
    exact Std.ExtTreeMap.ext_getElem? fun key => custom_rewrite valid (by rw [kept])

/-- A sample with an odd duration and no peak at all. -/
def kick : Metadata :=
  ofFields [("_md5", .text "d41d8cd98f00b204e9800998ecf8427e"), ("_path", .text "/music/loops/kick.wav"),
    ("_sample_rate", .integer 44100), ("_duration", .float (.ofFraction false 1 10)),
    ("_peak_level", .float (.infinite true)), ("mood", .text "dark")] ["drums", "/808"]

/-- A rule that would also like to change the checksum. -/
def retitling : List Rule :=
  (Rule.read "_path" "^(.*/)([^/]*?)[.]"
    [("_name", "\x7b2\x7d"), ("_md5", "0"), ("mood", "\x7bmood\x7d \x7b2\x7d")]).toOption.toList

/-- A rule that only matches further on. -/
def furtherOn : List Rule := (Rule.read "_path" "kick" [("_name", "drum")]).toOption.toList

theorem kick_confined :
    kick.Valid ∧ kick.duration ≠ some .nan ∧ kick.peakLevel ≠ some .nan ∧
    (kick.rewrite retitling (some "/music")).name ≠ kick.name ∧
    (∀ f, f ≠ .name → (kick.rewrite retitling (some "/music")).get? f = kick.get? f) ∧
    (kick.rewrite retitling (some "/music")).custom["mood"]? = some "dark kick" ∧
    (CustomKey.isValid "mood" = true ∧
      ∃ rule ∈ retitling, ∃ template, ("mood", template) ∈ rule.substitutions) ∧
    furtherOn ≠ [] ∧ kick.rewrite furtherOn none = kick := by
  have valid : kick.Valid := valid_ofFields _ _
  have duration : kick.duration ≠ some .nan := by decide +kernel
  have peakLevel : kick.peakLevel ≠ some .nan := by decide +kernel
  have mood : (kick.rewrite retitling (some "/music")).custom["mood"]? = some "dark kick" := by
    decide +kernel
  have before : kick.custom["mood"]? = some "dark" := by decide +kernel
  have path : (Rule.visible kick none)["_path"]? = some "/music/loops/kick.wav" := by decide +kernel
  have unmatched : ∀ rule ∈ furtherOn, rule.field = "_path" ∧
      rule.pattern.matchStart? "/music/loops/kick.wav" = none := by decide +kernel
  obtain ⟨fields, custom, -⟩ := rewrite_confined valid duration peakLevel retitling (some "/music")
  obtain ⟨-, -, same⟩ := rewrite_confined valid duration peakLevel furtherOn none
  refine ⟨valid, duration, peakLevel, by decide +kernel, fields, mood, ?_, by decide +kernel, ?_⟩
  · exact custom "mood" (by simp [mood, before])
  · refine same fun rule membership text there => ?_
    obtain ⟨field, idle⟩ := unmatched rule membership
    rw [field, path] at there
    exact Option.some.inj there ▸ idle

end Metadata

end SampleLibrary
