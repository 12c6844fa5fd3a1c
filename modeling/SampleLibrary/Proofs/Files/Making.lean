import SampleLibrary.Proofs.Files.Removing

/-!
# Making directories, and files in them

Making a directory adds directories and nothing else, however far it comes (`Files.moreDirectories_makeDirsAt`), and
a content is put into one file (`Files.written_put`). A path to a name in a directory is followed as far as the
directory first (`Files.directory?_of_resolve_below`), so that it leads to the name in that directory or to nothing. A
file that has gone is not missed on the way to anything else (`Files.LostFile.stat`).
-/

namespace SampleLibrary

namespace Files

variable {fs fs' fs'' : Files} {followLast : Bool} {path base name : String} {place location : Location}

/-! ## Directories -/

/-- Directories have been made, and nothing else has changed. -/
structure MoreDirectories (fs fs' : Files) : Prop where
  within : fs.Within fs'
  new : ∀ (location : Location) (node : Node), fs'.nodes[location]? = some node →
    fs.nodes[location]? = some node ∨ fs.nodes[location]? = none ∧ node = .directory
  data : fs'.data = fs.data
  nextId : fs'.nextId = fs.nextId

namespace MoreDirectories

theorem refl (fs : Files) : MoreDirectories fs fs :=
  ⟨.refl fs, fun _ _ found => .inl found, rfl, rfl⟩

theorem trans (first : MoreDirectories fs fs') (second : MoreDirectories fs' fs'') :
    MoreDirectories fs fs'' := by
  refine ⟨first.within.trans second.within, fun location node found => ?_,
    second.data.trans first.data, second.nextId.trans first.nextId⟩
  rcases second.new location node found with old | ⟨absent, made⟩
  · exact first.new location node old
  · exact .inr ⟨first.within.nodes_none absent, made⟩

/-- The files are those that were there before. -/
theorem file (more : MoreDirectories fs fs') {id : Nat} :
    fs'.nodes[location]? = some (.file id) ↔ fs.nodes[location]? = some (.file id) := by
  constructor
  · intro found
    rcases more.new location _ found with old | ⟨-, made⟩
    · exact old
    · cases made
  · exact more.within.nodes location _

theorem link (more : MoreDirectories fs fs') {target : String}
    (found : fs'.nodes[location]? = some (.link target)) :
    fs.nodes[location]? = some (.link target) := by
  rcases more.new location _ found with old | ⟨-, made⟩
  · exact old
  · cases made

end MoreDirectories

theorem moreDirectories_makeDir (made : fs.makeDir path = .ok fs') : MoreDirectories fs fs' := by
  unfold makeDir at made
  split at made
  · cases made
  · cases made
  · rename_i location slash resolved
    cases made
    have free := nodes_of_resolve_free resolved
    refine ⟨within_insertNode free, fun other node found => ?_, rfl, rfl⟩
    rw [insertNode, Std.ExtTreeMap.getElem?_insert] at found
    by_cases same : compare location other = .eq
    · rw [if_pos same] at found
      obtain rfl := Std.LawfulEqCmp.eq_of_compare same
      exact .inr ⟨free, (Option.some.inj found).symm⟩
    · rw [if_neg same] at found
      exact .inl found

theorem moreDirectories_ensureDir (made : fs.ensureDir path = .ok fs') : MoreDirectories fs fs' := by
  unfold ensureDir at made
  split at made
  · rename_i new
    cases made
    exact moreDirectories_makeDir new
  · split at made
    · cases made
      exact .refl fs
    · cases made

/-- The directories that have been made are still there when making another one fails. -/
theorem moreDirectories_makeDirsAt (fs : Files) (names : List String) :
    MoreDirectories fs (fs.makeDirsAt names).2 := by
  induction names generalizing fs with
  | nil => exact .refl fs
  | cons name above inductionHypothesis =>
      unfold makeDirsAt
      dsimp only
      split
      · rename_i made
        exact moreDirectories_makeDir made
      · have before := inductionHypothesis fs
        split
        · rename_i failed
          rw [failed] at before
          exact before
        · rename_i made
          rw [made] at before
          split
          · rename_i last
            exact before.trans (moreDirectories_ensureDir last)
          · exact before
      · split <;> exact .refl fs

theorem moreDirectories_makeDirs (fs : Files) (path : String) :
    MoreDirectories fs (fs.makeDirs path).2 :=
  moreDirectories_makeDirsAt fs _

/-! ## Writing to a file -/

/-- Every file has a number that has been given out. -/
def Numbered (fs : Files) : Prop :=
  ∀ (location : Location) (id : Nat), fs.nodes[location]? = some (.file id) → id < fs.nextId

theorem MoreDirectories.numbered (more : MoreDirectories fs fs') (numbered : fs.Numbered) :
    fs'.Numbered := by
  intro location id found
  rw [more.nextId]
  exact numbered location id (more.file.mp found)

/-- A content has been put into a file, which may be a new one, and nothing else has changed. -/
structure Written (location : Location) (id : Nat) (content : Content) (fs fs' : Files) : Prop where
  before : fs.nodes[location]? = some (.file id) ∨ fs.nodes[location]? = none ∧ id = fs.nextId
  there : fs'.nodes[location]? = some (.file id)
  kept : ∀ other, other ≠ location → fs'.nodes[other]? = fs.nodes[other]?
  content : (fs'.dataOf id).content = content
  others : ∀ other, other ≠ id → fs'.dataOf other = fs.dataOf other
  working : fs'.working = fs.working
  numbered : fs.Numbered → fs'.Numbered

namespace Written

variable {id : Nat} {content : Content}

theorem within (written : Written location id content fs fs') : fs.Within fs' := by
  refine ⟨fun other node found => ?_, written.working.symm⟩
  by_cases same : other = location
  · subst same
    rcases written.before with file | ⟨none', -⟩
    · rw [file] at found
      rw [written.there, ← found]
    · rw [none'] at found
      cases found
  · rw [written.kept other same, found]

/-- A file that is somewhere else and does not go by another name of the file is as it was. -/
theorem dataOf_eq (written : Written location id content fs fs') (numbered : fs.Numbered)
    (single : ∀ other, fs.nodes[location]? = some (.file id) → fs.nodes[other]? = some (.file id) →
      other = location) {other : Location} {id' : Nat} (found : fs.nodes[other]? = some (.file id'))
    (elsewhere : other ≠ location) : fs'.dataOf id' = fs.dataOf id' := by
  apply written.others
  rintro rfl
  rcases written.before with file | ⟨-, new⟩
  · exact elsewhere (single other file found)
  · exact absurd (numbered other id' found) (by omega)

end Written

theorem written_setData {id : Nat} {modified : Option Int} (content : Content)
    (there : fs.nodes[location]? = some (.file id)) :
    Written location id content fs (fs.setData id content modified) where
  before := .inl there
  there := there
  kept := fun _ _ => rfl
  content := dataOf_setData_self _ _ _
  others := fun _ differs => dataOf_setData_of_ne differs
  working := rfl
  numbered := fun numbered => numbered

theorem written_insertNode {modified : Option Int} (content : Content)
    (free : fs.nodes[location]? = none) :
    Written location fs.nextId content fs
      (({ fs with nextId := fs.nextId + 1 }.insertNode location (.file fs.nextId)).setData fs.nextId
        content modified) := by
  have self : (fs.insertNode location (.file fs.nextId)).nodes[location]? = some (.file fs.nextId) :=
    Std.ExtTreeMap.getElem?_insert_self
  have kept : ∀ other, other ≠ location →
      (fs.insertNode location (.file fs.nextId)).nodes[other]? = fs.nodes[other]? := by
    intro other differs
    rw [insertNode, Std.ExtTreeMap.getElem?_insert, if_neg]
    intro same
    exact differs (Std.LawfulEqCmp.eq_of_compare same).symm
  refine ⟨.inr ⟨free, rfl⟩, self, kept, dataOf_setData_self _ _ _,
    fun _ differs => dataOf_setData_of_ne differs, rfl, ?_⟩
  intro numbered other id found
  show id < fs.nextId + 1
  by_cases same : other = location
  · subst same
    have file := self.symm.trans found
    cases file
    omega
  · have old := numbered other id ((kept other same).symm.trans found)
    omega

theorem fileAt_eq_ok_iff {id : Nat} :
    fs.fileAt path = .ok (location, id) ↔ fs.stat path true = .ok (location, .file id) := by
  unfold fileAt
  split <;> simp_all

/-- What can be put somewhere is put where the path leads. -/
theorem written_put {content : Content} {modified : Option Int}
    (done : fs.put path content modified = .ok fs') :
    ∃ location id, Written location id content fs fs' ∧
      (fs.resolve path true = .ok (.found location (.file id)) ∨
        fs.resolve path true = .ok (.free location false)) := by
  unfold put at done
  split at done
  · cases done
  · rename_i location id resolved
    cases done
    have there := nodes_of_stat (stat_eq_ok_iff.mpr resolved) (by simp)
    exact ⟨location, id, written_setData content there, .inl resolved⟩
  · cases done
  · rename_i location slash resolved
    cases slash with
    | true => cases done
    | false =>
        cases done
        exact ⟨location, fs.nextId, written_insertNode content (nodes_of_resolve_free resolved),
          .inr resolved⟩

/-! ## Where a directory is -/

/-- Where the directory is to which a path leads. The empty path stands for the working directory. -/
def directory? (fs : Files) (path : String) : Option Location :=
  if path = "" then some fs.working
  else match fs.stat path true with
    | .ok (location, .directory) => some location
    | _ => none

theorem directory?_eq_some (nonempty : path ≠ "") :
    fs.directory? path = some place ↔ fs.stat path true = .ok (place, .directory) := by
  unfold directory?
  rw [if_neg nonempty]
  constructor
  · intro leads
    split at leads
    · rename_i location found
      cases leads
      exact found
    · cases leads
  · intro found
    rw [found]

theorem directory?_of_stat (found : fs.stat path true = .ok (place, .directory)) :
    fs.directory? path = some place :=
  (directory?_eq_some (ne_empty_of_stat found)).mpr found

/-- A directory is still where it was when there are more names than before. -/
theorem Within.directory? (within : fs.Within fs') (leads : fs.directory? path = some place) :
    fs'.directory? path = some place := by
  by_cases empty : path = ""
  · subst empty
    have working : fs.working = place := Option.some.inj leads
    rw [Files.directory?, if_pos rfl, ← working, within.working]
  · rw [directory?_eq_some empty] at leads ⊢
    exact within.stat leads

/-- If the path of a name in a directory leads somewhere, be it to a free name, then the directory is there. -/
theorem directory?_of_resolve_below {result : Place} (isName : IsName name)
    (resolved : fs.resolve (Path.below base name) followLast = .ok result) :
    ∃ place, fs.directory? base = some place := by
  by_cases empty : base = ""
  · exact ⟨fs.working, if_pos empty⟩
  · have usable := usable_of_resolve resolved
    rcases pieces_below empty isName with ⟨front, ends, names⟩
    rw [resolve_of_usable usable, isAbsolute_below empty isName, names] at resolved
    rcases (arrives_iff.mpr resolved).front (by simp) (.inl (by simp [isName.nonempty])) with
      ⟨place, left, leads, -⟩
    rw [arrives_iff] at leads
    refine ⟨place, (directory?_eq_some empty).mpr ?_⟩
    rw [stat_eq_ok_iff, resolve_of_usable (usable.of_below empty isName)]
    rcases ends with same | slash
    · exact same ▸ leads
    · exact slash ▸ follow_slash.mpr leads

theorem resolve_below_of_directory? (followLast : Bool) (isName : IsName name)
    (leads : fs.directory? base = some place) (usable : Usable (Path.below base name)) :
    ∃ left, fs.resolve (Path.below base name) followLast =
      fs.follow followLast left place [name] := by
  by_cases empty : base = ""
  · subst empty
    have working : fs.working = place := Option.some.inj leads
    have alone : Path.below "" name = name := by
      simp [Path.below, isAbsolute_of_isName isName]
    rw [alone] at usable ⊢
    rw [resolve_of_usable usable, isAbsolute_of_isName isName, pieces_of_isName isName, ← working]
    exact ⟨maxLinks, rfl⟩
  · exact resolve_below followLast isName ((directory?_eq_some empty).mp leads) usable

/-- The path of a name in a directory leads to that name, or there is no such name. -/
theorem resolve_below_cases {result : Place} (isName : IsName name)
    (leads : fs.directory? base = some place)
    (noLink : ∀ target, fs.nodes[place ++ [name]]? ≠ some (.link target))
    (resolved : fs.resolve (Path.below base name) followLast = .ok result) :
    ¬name.utf8ByteSize > maxName ∧
      ((∃ node, result = .found (place ++ [name]) node ∧ fs.nodes[place ++ [name]]? = some node) ∨
        result = .free (place ++ [name]) false ∧ fs.nodes[place ++ [name]]? = none) := by
  rcases resolve_below_of_directory? followLast isName leads (usable_of_resolve resolved) with
    ⟨left, same⟩
  exact follow_isName_inv isName (.inr noLink) (same ▸ resolved)

/-- The path of a name in a directory leads to that name if it is there. -/
theorem stat_below_of_directory? {node : Node} (isName : IsName name)
    (leads : fs.directory? base = some place) (usable : Usable (Path.below base name))
    (shortName : ¬name.utf8ByteSize > maxName) (there : fs.nodes[place ++ [name]]? = some node)
    (plain : ∀ target, node ≠ .link target) :
    fs.stat (Path.below base name) followLast = .ok (place ++ [name], node) := by
  rcases resolve_below_of_directory? followLast isName leads usable with ⟨left, resolved⟩
  rw [stat_eq_ok_iff, resolved, follow_isName isName shortName there (.inr plain)]

/-! ## One file less -/

/-- A file may have gone, and nothing else. -/
structure LostFile (spot : Location) (fs fs' : Files) : Prop where
  within : fs'.Within fs
  kept : ∀ location, location ≠ spot → fs'.nodes[location]? = fs.nodes[location]?
  file : ∀ node, fs.nodes[spot]? = some node → fs'.nodes[spot]? = some node ∨ ∃ id, node = .file id

namespace LostFile

variable {spot : Location}

theorem refl (spot : Location) (fs : Files) : LostFile spot fs fs :=
  ⟨.refl fs, fun _ _ => rfl, fun _ found => .inl found⟩

theorem eraseNode {id : Nat} (there : fs.nodes[spot]? = some (.file id)) :
    LostFile spot fs (fs.eraseNode spot) := by
  have cleared := cleared_eraseNode fs spot
  refine ⟨cleared.within, cleared.kept, fun node found => .inr ⟨id, ?_⟩⟩
  rw [there] at found
  exact (Option.some.inj found).symm

theorem nodes (lost : LostFile spot fs fs') {node : Node} (there : fs.nodes[location]? = some node)
    (other : location ≠ spot ∨ ∀ id, node ≠ .file id) : fs'.nodes[location]? = some node := by
  by_cases atSpot : location = spot
  · subst atSpot
    rcases lost.file node there with still | ⟨id, same⟩
    · exact still
    · rcases other with differs | notFile
      · exact absurd rfl differs
      · exact absurd same (notFile id)
  · rw [lost.kept location atSpot, there]

/-- No walk goes through a file, so a walk that does not come to it goes on as before. -/
theorem walk (lost : LostFile spot fs fs') {directory : Location} {names : List String} {result : Walk}
    (walked : fs.walk followLast directory names = .ok result)
    (other : ∀ node, result ≠ .ended (.found spot node)) :
    fs'.walk followLast directory names = .ok result := by
  fun_induction Files.walk fs followLast directory names with
  | case1 => exact walked
  | case2 directory name rest here inductionHypothesis =>
      rw [Files.walk, if_pos here]
      exact inductionHypothesis walked
  | case3 directory name rest here above inductionHypothesis =>
      rw [Files.walk, if_neg here, if_pos above]
      exact inductionHypothesis walked
  | case4 => cases walked
  | case5 directory name rest here above long reached entry ends =>
      rw [walk_cons_of_name here above long, lost.within.nodes_none entry]
      simpa [ends] using walked
  | case6 => cases walked
  | case7 directory name rest here above long reached entry inductionHypothesis =>
      rw [walk_cons_of_name here above long, lost.nodes entry (.inr (by simp))]
      exact inductionHypothesis walked
  | case8 directory name rest here above long reached id entry last =>
      have differs : reached ≠ spot := by
        rintro rfl
        exact other _ (Except.ok.inj walked).symm
      rw [walk_cons_of_name here above long, lost.nodes entry (.inl differs)]
      simpa [last] using walked
  | case9 => cases walked
  | case10 directory name rest here above long reached target entry last =>
      rw [walk_cons_of_name here above long, lost.nodes entry (.inr (by simp))]
      simpa [last] using walked
  | case11 directory name rest here above long reached target entry last =>
      rw [walk_cons_of_name here above long, lost.nodes entry (.inr (by simp))]
      simpa [last] using walked

/-- A path that leads to something else still leads there. -/
theorem stat (lost : LostFile spot fs fs') {node : Node}
    (found : fs.stat path followLast = .ok (location, node)) (differs : location ≠ spot) :
    fs'.stat path followLast = .ok (location, node) := by
  rw [stat_eq_ok_iff] at found ⊢
  have usable := usable_of_resolve found
  rw [resolve_of_usable usable] at found ⊢
  rw [lost.within.working]
  apply follow_of_walks (P := fun place => ∀ node, place ≠ .found spot node) _ found
  · rintro node same
    exact differs (Place.found.inj same).1
  · intro directory names result walked good
    apply lost.walk walked
    rintro node rfl
    exact good _ rfl node rfl

end LostFile

/-- What has been written can be taken away again. -/
theorem Written.lostFile {spot : Location} {id : Nat} {content : Content}
    (written : Written spot id content fs fs') : LostFile spot fs (fs'.eraseNode spot) := by
  have cleared := cleared_eraseNode fs' spot
  have kept : ∀ location, location ≠ spot →
      (fs'.eraseNode spot).nodes[location]? = fs.nodes[location]? := fun location differs =>
    (cleared.kept location differs).trans (written.kept location differs)
  refine ⟨⟨fun location node found => ?_, written.working⟩, kept, fun node found => .inr ⟨id, ?_⟩⟩
  · by_cases same : location = spot
    · rw [same, cleared.gone spot rfl] at found
      cases found
    · rw [← kept location same, found]
  · rcases written.before with file | ⟨none', -⟩
    · rw [file] at found
      exact (Option.some.inj found).symm
    · rw [none'] at found
      cases found

end Files

end SampleLibrary
