import Mathlib.Data.Finset.Max
import Mathlib.Order.Bounds.Defs
import SampleLibrary.Proofs.Tags

/-!
# Expanded sets of tags and their leaves

A path covers itself and the paths that go on from it after a slash (`Tag.Covers`). Expanding a set closes
it under what covers its tags and adds nothing else; the leaves of a set are the tags of it that cover no
other one. So expanding and collapsing undo each other (`Tag.expand_isLeast_and_leaves`): every tag of a
set covers some leaf (`Tag.exists_leaf`), and no new leaf comes in with the paths above old ones.
-/

namespace SampleLibrary

namespace Tag

theorem ofList_toList (tags : TagSet) : Std.ExtTreeSet.ofList tags.toList = tags := by
  apply Std.ExtTreeSet.ext_mem
  intro tag
  rw [Std.ExtTreeSet.mem_ofList, List.contains_iff_mem, Std.ExtTreeSet.mem_toList]

/-! ## Above and below -/

theorem isBelow_iff {tag other : String} :
    isBelow tag other = true ↔ ∃ rest, tag.toList = other.toList ++ '/' :: rest := by
  rw [isBelow, List.isPrefixOf_iff_prefix]
  constructor
  · rintro ⟨rest, same⟩
    exact ⟨rest, by simp [← same]⟩
  · rintro ⟨rest, same⟩
    exact ⟨rest, by simp [same]⟩

theorem isBelow_trans {tag other third : String} (first : isBelow tag other = true)
    (second : isBelow other third = true) : isBelow tag third = true := by
  rcases isBelow_iff.mp first with ⟨rest, same⟩
  rcases isBelow_iff.mp second with ⟨rest', same'⟩
  exact isBelow_iff.mpr ⟨rest' ++ '/' :: rest, by simp [same, same']⟩

/-- What a path implies are the paths above it. -/
theorem mem_ancestors_iff {tag other : String} :
    other ∈ ancestors tag ↔ other.toList.head? = some '/' ∧ isBelow tag other = true := by
  have listed (cs : List Char) : other ∈ (pathsAbove cs.reverse).map String.ofList ↔
      other.toList ≠ [] ∧ ∃ rest, cs = other.toList ++ '/' :: rest := by
    rw [List.mem_map]
    constructor
    · rintro ⟨above, isAbove, rfl⟩
      simpa using mem_pathsAbove_iff.mp isAbove
    · intro follows
      exact ⟨other.toList, mem_pathsAbove_iff.mpr (by simpa using follows), String.ofList_toList⟩
  rw [isBelow_iff]
  unfold ancestors
  split
  · rename_i rest path
    rw [listed, ← path, and_congr_left_iff]
    rintro ⟨below, equality⟩
    rw [path] at equality
    cases front : other.toList with
    | nil => simp
    | cons c cs =>
        rw [front, List.cons_append, List.cons.injEq] at equality
        simp [← equality.1]
  · rename_i noPath
    refine iff_of_false List.not_mem_nil ?_
    rintro ⟨slash, below, equality⟩
    cases front : other.toList with
    | nil => simp [front] at slash
    | cons c cs =>
        rw [front, List.head?_cons, Option.some_inj] at slash
        rw [front, slash] at equality
        exact noPath _ equality

/-- Of valid tags, only paths lie above others. -/
theorem head?_of_isBelow {tag other : String} (valid : isValid tag = true) (nonempty : other.toList ≠ [])
    (below : isBelow tag other = true) : other.toList.head? = some '/' := by
  rcases isBelow_iff.mp below with ⟨rest, same⟩
  unfold isValid at valid
  split at valid
  · rename_i path characters
    cases front : other.toList with
    | nil => exact absurd front nonempty
    | cons c cs =>
        rw [characters, front, List.cons_append, List.cons.injEq] at same
        rw [List.head?_cons, ← same.1]
  · rw [same, isSegment, Bool.and_eq_true, List.all_eq_true] at valid
    exact absurd (valid.2 '/' (by simp)) (by decide)

/-- What has the tag `other` also has `tag`: they are the same, or `tag` is a path from which `other` goes
on after a slash. -/
def Covers (tag other : String) : Prop :=
  other = tag ∨ tag.toList.head? = some '/' ∧ ∃ rest, other = tag ++ "/" ++ rest

theorem covers_iff {tag other : String} : Covers tag other ↔ other = tag ∨ tag ∈ ancestors other := by
  rw [Covers, mem_ancestors_iff, isBelow_iff]
  refine or_congr_right (and_congr_right fun _ => ?_)
  constructor
  · rintro ⟨rest, rfl⟩
    exact ⟨rest.toList, by simp⟩
  · rintro ⟨rest, equality⟩
    exact ⟨String.ofList rest, String.toList_inj.mp (by simp [equality])⟩

/-- A path that only starts alike is not covered. -/
example : ¬ Covers "/a" "/ab" := by
  rw [covers_iff]
  decide

namespace Covers

theorem refl (tag : String) : Covers tag tag := .inl rfl

theorem trans {above tag below : String} (first : Covers above tag) (second : Covers tag below) :
    Covers above below := by
  rcases first with rfl | ⟨path, rest, rfl⟩
  · exact second
  · refine .inr ⟨path, ?_⟩
    rcases second with rfl | ⟨-, rest', rfl⟩
    · exact ⟨rest, rfl⟩
    · exact ⟨rest ++ "/" ++ rest', by simp only [String.append_assoc]⟩

end Covers

/-- Among valid tags, what lies below a tag is covered by it. -/
theorem covers_of_isBelow {tag other : String} (validTag : isValid tag = true)
    (validOther : isValid other = true) (below : isBelow other tag = true) : Covers tag other := by
  have nonempty : tag.toList ≠ [] := by
    intro empty
    simp [isValid, empty, isSegment] at validTag
  have path : tag.toList.head? = some '/' := head?_of_isBelow validOther nonempty below
  exact covers_iff.mpr (.inr (mem_ancestors_iff.mpr ⟨path, below⟩))

/-! ## Expanding -/

theorem mem_expand {tags : List String} {tag : String} :
    tag ∈ expand tags ↔ tag ∈ tags ∨ ∃ below ∈ tags, tag ∈ ancestors below := by
  suffices general : ∀ set : TagSet,
      tag ∈ tags.foldl (fun set tag => (set.insertMany (ancestors tag)).insert tag) set ↔
        tag ∈ set ∨ tag ∈ tags ∨ ∃ below ∈ tags, tag ∈ ancestors below by
    rw [expand, general]
    simp
  induction tags with
  | nil => simp
  | cons head tail inductionHypothesis =>
      intro set
      rw [List.foldl_cons, inductionHypothesis, Std.ExtTreeSet.mem_insert,
        Std.ExtTreeSet.mem_insertMany_list, List.contains_iff_mem, Std.LawfulEqCmp.compare_eq_iff_eq]
      simp only [List.mem_cons, exists_eq_or_imp]
      tauto

theorem mem_expand_iff_covers {tags : List String} {tag : String} :
    tag ∈ expand tags ↔ ∃ other ∈ tags, Covers tag other := by
  simp only [mem_expand, covers_iff, and_or_left, exists_or, exists_eq_right]

theorem expand_mono {tags more : List String} (subset : ∀ tag ∈ tags, tag ∈ more) {tag : String}
    (there : tag ∈ expand tags) : tag ∈ expand more := by
  rcases mem_expand_iff_covers.mp there with ⟨other, listed, covers⟩
  exact mem_expand_iff_covers.mpr ⟨other, subset other listed, covers⟩

theorem expand_expand (tags : List String) : expand (expand tags).toList = expand tags := by
  apply Std.ExtTreeSet.ext_mem
  intro tag
  simp only [mem_expand_iff_covers, Std.ExtTreeSet.mem_toList]
  constructor
  · rintro ⟨above, ⟨other, listed, covers⟩, covers'⟩
    exact ⟨other, listed, covers'.trans covers⟩
  · rintro ⟨other, listed, covers⟩
    exact ⟨tag, ⟨other, listed, covers⟩, .refl tag⟩

/-- Expanding adds what has to be added, and no more. -/
theorem expand_isLeast (tags : List String) :
    IsLeast {family : Set String | (∀ tag ∈ tags, tag ∈ family) ∧
        ∀ tag ∈ family, ∀ above, Covers above tag → above ∈ family}
      {tag | tag ∈ expand tags} := by
  refine ⟨⟨fun tag listed => ?_, fun tag there above covers => ?_⟩, ?_⟩
  · exact mem_expand_iff_covers.mpr ⟨tag, listed, .refl tag⟩
  · rcases mem_expand_iff_covers.mp there with ⟨other, listed, covers'⟩
    exact mem_expand_iff_covers.mpr ⟨other, listed, covers.trans covers'⟩
  · rintro family ⟨contains, closed⟩ tag there
    rcases mem_expand_iff_covers.mp there with ⟨other, listed, covers⟩
    exact closed other (contains other listed) tag covers

/-! ## Leaves -/

theorem mem_leaves {tags : TagSet} {tag : String} :
    tag ∈ leaves tags ↔ tag ∈ tags ∧ ∀ other ∈ tags, isBelow other tag = false := by
  rw [leaves, Std.ExtTreeSet.mem_filter]
  simp [Std.ExtTreeSet.mem_toList]

/-- Adding what tags imply makes no new leaves, and every leaf stays one. -/
theorem leaves_expand (tags : TagSet) : leaves (expand tags.toList) = leaves tags := by
  apply Std.ExtTreeSet.ext_mem
  intro tag
  simp only [mem_leaves, mem_expand, Std.ExtTreeSet.mem_toList]
  constructor
  · rintro ⟨there | ⟨below, there, implied⟩, lowest⟩
    · exact ⟨there, fun other membership => lowest other (.inl membership)⟩
    · have notBelow := lowest below (.inl there)
      rw [(mem_ancestors_iff.mp implied).2] at notBelow
      cases notBelow
  · rintro ⟨there, lowest⟩
    refine ⟨.inl there, fun other membership => ?_⟩
    rcases membership with listed | ⟨below, listed, implied⟩
    · exact lowest other listed
    · rw [← Bool.not_eq_true]
      intro isBelow
      have lower := isBelow_trans ((mem_ancestors_iff.mp implied).2) isBelow
      rw [lowest below listed] at lower
      cases lower

theorem leaves_leaves (tags : TagSet) : leaves (leaves tags) = leaves tags := by
  apply Std.ExtTreeSet.ext_mem
  intro tag
  rw [mem_leaves, and_iff_left_iff_imp]
  exact fun isLeaf other otherLeaf => (mem_leaves.mp isLeaf).2 other (mem_leaves.mp otherLeaf).1

/-- A leaf covers no other leaf. -/
theorem eq_of_leaf_covers_leaf {tags : TagSet} {leaf other : String} (isLeaf : leaf ∈ leaves tags)
    (otherLeaf : other ∈ leaves tags) (covers : Covers leaf other) : leaf = other := by
  rcases covers_iff.mp covers with same | above
  · exact same.symm
  · have lowest := (mem_leaves.mp isLeaf).2 other (mem_leaves.mp otherLeaf).1
    rw [(mem_ancestors_iff.mp above).2] at lowest
    cases lowest

/-- Every tag of a set is a leaf, or a leaf lies below it. -/
theorem exists_leaf {tags : TagSet} {tag : String} (there : tag ∈ tags) :
    ∃ leaf ∈ leaves tags, leaf = tag ∨ isBelow leaf tag = true := by
  let candidates := tags.toList.toFinset.filter fun leaf => leaf = tag ∨ isBelow leaf tag = true
  have isCandidate {leaf : String} :
      leaf ∈ candidates ↔ leaf ∈ tags ∧ (leaf = tag ∨ isBelow leaf tag = true) := by
    rw [Finset.mem_filter, List.mem_toFinset, Std.ExtTreeSet.mem_toList]
  -- of the tags from `tag` on downwards, none lies below the longest one
  rcases candidates.exists_max_image (fun leaf => leaf.toList.length)
    ⟨tag, isCandidate.mpr ⟨there, .inl rfl⟩⟩ with ⟨leaf, candidate, longest⟩
  rcases isCandidate.mp candidate with ⟨inTags, below⟩
  refine ⟨leaf, mem_leaves.mpr ⟨inTags, fun other membership => ?_⟩, below⟩
  rw [← Bool.not_eq_true]
  intro lower
  have lowerCandidate : isBelow other tag = true := by
    rcases below with rfl | below
    · exact lower
    · exact isBelow_trans lower below
  have shorter := longest other (isCandidate.mpr ⟨membership, .inr lowerCandidate⟩)
  rcases isBelow_iff.mp lower with ⟨rest, same⟩
  rw [same, List.length_append, List.length_cons] at shorter
  omega

/-- The leaves of valid tags imply whatever the tags imply. -/
theorem expand_leaves {tags : TagSet} (valid : ∀ tag ∈ tags, isValid tag = true) :
    expand (leaves tags).toList = expand tags.toList := by
  apply Std.ExtTreeSet.ext_mem
  intro tag
  simp only [mem_expand_iff_covers, Std.ExtTreeSet.mem_toList]
  constructor
  · rintro ⟨leaf, isLeaf, covers⟩
    exact ⟨leaf, (mem_leaves.mp isLeaf).1, covers⟩
  · rintro ⟨other, there, covers⟩
    rcases exists_leaf there with ⟨leaf, isLeaf, rfl | below⟩
    · exact ⟨leaf, isLeaf, covers⟩
    · have lower : Covers other leaf :=
        covers_of_isBelow (valid other there) (valid leaf (mem_leaves.mp isLeaf).1) below
      exact ⟨leaf, isLeaf, covers.trans lower⟩

/-- Expanding valid tags gives the least set with everything that covers one of them, and collapsing takes
back just what expanding adds. -/
theorem expand_isLeast_and_leaves {tags : TagSet} (valid : ∀ tag ∈ tags, isValid tag = true) :
    IsLeast {family : Set String | (∀ tag ∈ tags, tag ∈ family) ∧
        ∀ tag ∈ family, ∀ above, Covers above tag → above ∈ family}
      {tag | tag ∈ expand tags.toList} ∧
    (∀ tag ∈ expand tags.toList, isValid tag = true) ∧
    leaves (expand tags.toList) = leaves tags ∧
    expand (leaves tags).toList = expand tags.toList ∧
    expand (expand tags.toList).toList = expand tags.toList ∧
    leaves (leaves tags) = leaves tags ∧
    (∀ more : TagSet, (∀ tag ∈ tags, tag ∈ more) →
      ∀ tag ∈ expand tags.toList, tag ∈ expand more.toList) ∧
    ∀ leaf ∈ leaves tags, ∀ other ∈ leaves tags, Covers leaf other → leaf = other := by
  refine ⟨?_, ?_, leaves_expand tags, expand_leaves valid, expand_expand _, leaves_leaves tags, ?_, ?_⟩
  · simpa only [Std.ExtTreeSet.mem_toList] using expand_isLeast tags.toList
  · intro tag there
    exact isValid_of_mem_expand (fun other listed => valid other (Std.ExtTreeSet.mem_toList.mp listed)) there
  · intro more subset tag there
    refine expand_mono (fun other listed => ?_) there
    exact Std.ExtTreeSet.mem_toList.mpr (subset other (Std.ExtTreeSet.mem_toList.mp listed))
  · intro leaf isLeaf other otherLeaf covers
    exact eq_of_leaf_covers_leaf isLeaf otherLeaf covers

/-- A path with a branch, a path that only starts alike, and a plain tag. -/
def kickTags : TagSet := Std.ExtTreeSet.ofList ["/a", "/a/b/c", "/a/d", "/ab", "kick"]

theorem kickTags_expanded_and_collapsed :
    (∀ tag ∈ kickTags, isValid tag = true) ∧
    (expand kickTags.toList).toList = ["/a", "/a/b", "/a/b/c", "/a/d", "/ab", "kick"] ∧
    (leaves (expand kickTags.toList)).toList = ["/a/b/c", "/a/d", "/ab", "kick"] ∧
    expand (leaves kickTags).toList = expand kickTags.toList ∧
    (∀ tag ∈ expand kickTags.toList, isValid tag = true) ∧
    (∀ leaf ∈ leaves kickTags, ∀ other ∈ leaves kickTags, Covers leaf other → leaf = other) := by
  have valid : ∀ tag ∈ kickTags, isValid tag = true := by
    intro tag there
    have listed : ∀ tag ∈ kickTags.toList, isValid tag = true := by decide +kernel
    exact listed tag (Std.ExtTreeSet.mem_toList.mpr there)
  have expanded : (expand kickTags.toList).toList = ["/a", "/a/b", "/a/b/c", "/a/d", "/ab", "kick"] := by
    decide +kernel
  have collapsed : (leaves kickTags).toList = ["/a/b/c", "/a/d", "/ab", "kick"] := by decide +kernel
  obtain ⟨-, allValid, same, same', -, -, -, apart⟩ := expand_isLeast_and_leaves valid
  exact ⟨valid, expanded, same ▸ collapsed, same', allValid, apart⟩

end Tag

end SampleLibrary
