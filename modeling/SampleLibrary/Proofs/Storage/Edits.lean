import SampleLibrary.Proofs.Storage.Schema
import SampleLibrary.Storage.Edit

/-!
# Edits from outside and the demands of the database

Whoever edits the tables, and with whatever they please, the unique columns stay unique
(`Tables.Keyed.edit`), because the database refuses any other edit.
-/

namespace SampleLibrary.Tables

theorem of_require {holds : Bool} {u : Unit} (done : require holds = .ok u) : holds = true := by
  unfold require at done
  split at done
  · rename_i isTrue
    exact isTrue
  · cases done

theorem exists_of_mem_mapM {α β : Type} {f : α → Except EditRefused β} {as : List α} {bs : List β}
    (done : as.mapM f = .ok bs) {b : β} (membership : b ∈ bs) : ∃ a ∈ as, f a = .ok b := by
  induction as generalizing bs with
  | nil =>
      cases done
      cases membership
  | cons a as inductionHypothesis =>
      rw [List.mapM_cons] at done
      rcases exists_of_bind_ok done with ⟨b', first, done⟩
      rcases exists_of_bind_ok done with ⟨bs', rest, done⟩
      cases done
      rcases List.mem_cons.mp membership with rfl | later
      · exact ⟨a, by simp, first⟩
      · rcases inductionHypothesis rest later with ⟨a', isListed, same⟩
        exact ⟨a', by simp [isListed], same⟩

/-- The column of the checksums makes a text of everything it stores. -/
theorem toColumn_md5 {value : Cell} (notEmpty : value.toColumn .md5 ≠ .empty) :
    ∃ md5, value.toColumn .md5 = .text md5 := by
  cases value with
  | empty => exact absurd rfl notEmpty
  | integer n => exact ⟨_, rfl⟩
  | real x => exact ⟨_, rfl⟩
  | text s => exact ⟨s, rfl⟩

/-- A cell of an item can be changed only to something that leaves a checksum there. -/
theorem checksumText_of_setCell {i i' : Item} {column : String} {value : Cell}
    (done : setCell i column value = .ok i') (text : ∃ md5, i.cell .md5 = .text md5) :
    ∃ md5, i'.cell .md5 = .text md5 := by
  unfold setCell at done
  split at done
  · rcases exists_of_map_ok done with ⟨id, -, rfl⟩
    exact text
  · split at done
    · cases done
      exact text
    · split at done
      · rename_i f found
        dsimp only at done
        split at done
        · cases done
        · rename_i notEmpty
          cases done
          dsimp only
          by_cases isMd5 : f = .md5
          · subst isMd5
            simp only [beq_self_eq_true, Bool.true_and, beq_iff_eq] at notEmpty
            simpa only [beq_self_eq_true, if_true] using toColumn_md5 notEmpty
          · rw [if_neg (by simpa using Ne.symm isMd5)]
            exact text
      · cases done

namespace Keyed

variable {t t' : Tables}

/-- An edit from outside keeps unique what has to be unique. -/
theorem edit {e : Edit} {touched : Nat} (keyed : t.Keyed) (done : t.edit e = .ok (touched, t')) :
    t'.Keyed := by
  have others (fewer : Fewer t t') : t'.Keyed := fewer.keyed keyed
  cases e with
  | link item tag =>
      rcases exists_of_bind_ok done with ⟨i, -, done⟩
      rcases exists_of_bind_ok done with ⟨j, -, done⟩
      rcases exists_of_bind_ok done with ⟨u, free, done⟩
      cases done
      exact keyed.appendLink (by simpa using of_require free)
  | custom item key value =>
      rcases exists_of_bind_ok done with ⟨i, -, done⟩
      rcases exists_of_bind_ok done with ⟨j, -, done⟩
      rcases exists_of_bind_ok done with ⟨u, -, done⟩
      cases done
      exact others ⟨.refl _, .refl _, rfl, rfl⟩
  | tagCount count name =>
      unfold Tables.edit at done
      dsimp only at done
      split at done
      · rcases exists_of_map_ok done with ⟨n, -, same⟩
        cases same
        refine keyed.congr_tags (fun r => ?_) (fun r => ?_) <;> split <;> rfl
      · cases done
        exact keyed
  | addTag name count =>
      rcases exists_of_bind_ok done with ⟨s, -, done⟩
      rcases exists_of_bind_ok done with ⟨n, -, done⟩
      rcases exists_of_bind_ok done with ⟨u, free, done⟩
      cases done
      have missing := of_require free
      rw [Option.isNone_iff_eq_none] at missing
      exact keyed.appendTag (tag?_eq_none_iff.mp missing) n
  | deleteTag name =>
      cases done
      exact keyed.filterTags _
  | deleteItem id =>
      cases done
      exact others ⟨List.filter_sublist, .refl _, rfl, rfl⟩
  | emptyCustoms item =>
      cases done
      exact others ⟨.refl _, .refl _, rfl, rfl⟩
  | setVersion version =>
      unfold Tables.edit at done
      dsimp only at done
      split at done
      · cases done
      · cases done
        exact keyed
      · rcases exists_of_map_ok done with ⟨n, -, same⟩
        cases same
        exact others ⟨.refl _, .refl _, rfl, rfl⟩
  | clearVersion =>
      unfold Tables.edit at done
      dsimp only at done
      split at done
      · cases done
      · cases done
        exact keyed
      · cases done
        exact others ⟨.refl _, .refl _, rfl, rfl⟩
  | dropVersion =>
      unfold Tables.edit at done
      dsimp only at done
      split at done
      · cases done
      · cases done
        exact others ⟨.refl _, .refl _, rfl, rfl⟩
  | addWorkplace name =>
      rcases exists_of_bind_ok done with ⟨s, -, done⟩
      rcases exists_of_bind_ok done with ⟨u, -, done⟩
      cases done
      exact others ⟨.refl _, .refl _, rfl, rfl⟩
  | setItem column value id =>
      rcases exists_of_bind_ok done with ⟨items, changed, done⟩
      rcases exists_of_bind_ok done with ⟨u, allowed, done⟩
      cases done
      have unique := of_require allowed
      simp only [unambiguous, Bool.and_eq_true, decide_eq_true_eq] at unique
      refine { keyed with
        itemIds := unique.1
        checksums := unique.2
        checksumTexts := fun i membership => ?_ }
      rcases exists_of_mem_mapM changed membership with ⟨j, row, same⟩
      split at same
      · exact checksumText_of_setCell same (keyed.checksumTexts j row)
      · cases same
        exact keyed.checksumTexts _ row

end Keyed

end SampleLibrary.Tables
