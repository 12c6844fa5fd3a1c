import SampleLibrary.Proofs.Splitting
import SampleLibrary.Query.Condition

/-!
# Tags that valid tags imply

What a valid tag implies is a valid tag again, so that expanding the tags of a sample never makes the
tag that stands for the whole library.
-/

namespace SampleLibrary

namespace Tag

theorem ne_root_of_isValid {tag : String} (valid : isValid tag = true) : tag ≠ root := by
  rintro rfl
  revert valid
  decide

/-- A valid tag is made of characters for tags and of slashes. -/
theorem isTagChar_of_isValid {tag : String} (valid : isValid tag = true) {c : Char}
    (membership : c ∈ tag.toList) : c = '/' ∨ isTagChar c = true := by
  have ofSegment {piece : List Char} (segment : isSegment piece = true) (inPiece : c ∈ piece) :
      isTagChar c = true := by
    rw [isSegment, Bool.and_eq_true] at segment
    exact List.all_eq_true.mp segment.2 c inPiece
  unfold isValid at valid
  split at valid
  · rename_i rest path
    rw [path] at membership
    rcases List.mem_cons.mp membership with rfl | inRest
    · exact .inl rfl
    · rcases Text.exists_piece_of_mem (p := (· == '/')) inRest with slash | ⟨piece, isPiece, inPiece⟩
      · exact .inl (beq_iff_eq.mp slash)
      · exact .inr (ofSegment (List.all_eq_true.mp valid piece isPiece) inPiece)
  · exact .inr (ofSegment valid membership)

/-- The paths above another one are those that are followed by a slash there. -/
theorem mem_pathsAbove_iff {above cs : List Char} :
    above ∈ pathsAbove cs ↔ above ≠ [] ∧ ∃ rest, cs.reverse = above ++ '/' :: rest := by
  induction cs with
  | nil => simp [pathsAbove]
  | cons c cs inductionHypothesis =>
      -- the slash is the last character, or it stands before that
      have ends : (∃ rest, (c :: cs).reverse = above ++ '/' :: rest) ↔
          (c = '/' ∧ above = cs.reverse) ∨ ∃ rest, cs.reverse = above ++ '/' :: rest := by
        rw [List.reverse_cons]
        constructor
        · rintro ⟨rest, equality⟩
          rcases List.eq_nil_or_concat rest with rfl | ⟨front, last, rfl⟩
          · rcases List.append_inj' equality rfl with ⟨same, slash⟩
            exact .inl ⟨List.singleton_inj.mp slash, same.symm⟩
          · rw [List.concat_eq_append, ← List.cons_append, ← List.append_assoc] at equality
            exact .inr ⟨front, (List.append_inj' equality rfl).1⟩
        · rintro (⟨rfl, rfl⟩ | ⟨rest, equality⟩)
          · exact ⟨[], rfl⟩
          · exact ⟨rest ++ [c], by rw [equality, List.append_assoc, List.cons_append]⟩
      rw [ends, and_or_left, ← inductionHypothesis, pathsAbove]
      by_cases atSlash : (c == '/' && !cs.isEmpty) = true
      · rw [if_pos atSlash, List.mem_cons]
        simp only [Bool.and_eq_true, beq_iff_eq, Bool.not_eq_true', List.isEmpty_eq_false_iff]
          at atSlash
        refine or_congr_left ⟨?_, fun front => front.2.2⟩
        rintro rfl
        exact ⟨by simpa using atSlash.2, atSlash.1, rfl⟩
      · rw [if_neg atSlash]
        refine (or_iff_right ?_).symm
        rintro ⟨nonempty, rfl, rfl⟩
        exact atSlash (by simpa using nonempty)

theorem isValid_of_mem_ancestors {tag other : String} (valid : isValid tag = true)
    (membership : other ∈ ancestors tag) : isValid other = true := by
  unfold ancestors at membership
  split at membership
  · rename_i rest path
    rcases List.mem_map.mp membership with ⟨above, isAbove, rfl⟩
    rcases mem_pathsAbove_iff.mp isAbove with ⟨nonempty, below, equality⟩
    rw [List.reverse_reverse] at equality
    cases above with
    | nil => exact absurd rfl nonempty
    | cons c front =>
        rw [List.cons_append, List.cons.injEq] at equality
        rcases equality with ⟨rfl, rfl⟩
        rw [isValid, path] at valid
        simp only [Text.splitAtAll_append_cons (p := (· == '/')) (c := '/') rfl, List.all_append,
          Bool.and_eq_true] at valid
        rw [isValid, String.toList_ofList]
        exact valid.1
  · exact absurd membership List.not_mem_nil

/-- Only valid tags come from valid tags. -/
theorem isValid_of_mem_expand {tags : List String} (valid : ∀ tag ∈ tags, isValid tag = true)
    {tag : String} (membership : tag ∈ expand tags) : isValid tag = true := by
  suffices general : ∀ set : TagSet, (∀ other ∈ set, isValid other = true) →
      ∀ other ∈ tags.foldl (fun set tag => (set.insertMany (ancestors tag)).insert tag) set,
        isValid other = true from
    general ∅ (fun _ inEmpty => absurd inEmpty Std.ExtTreeSet.not_mem_empty) tag membership
  clear membership
  induction tags with
  | nil => exact fun set validSet => validSet
  | cons head tail inductionHypothesis =>
      intro set validSet
      have validHead := valid head List.mem_cons_self
      apply inductionHypothesis (fun other inTail => valid other (List.mem_cons_of_mem _ inTail)) _
      intro other inSet
      rw [Std.ExtTreeSet.mem_insert] at inSet
      rcases inSet with same | inSet
      · rw [Std.LawfulEqCmp.eq_of_compare same] at validHead
        exact validHead
      · rw [Std.ExtTreeSet.mem_insertMany_list] at inSet
        rcases inSet with old | implied
        · exact validSet other old
        · exact isValid_of_mem_ancestors validHead (List.contains_iff_mem.mp implied)

end Tag

end SampleLibrary
