import SampleLibrary.Library.Basic
import SampleLibrary.Proofs.Files.Following

/-!
# What operations change

Removing names leaves the contents of files alone. A content that is put somewhere is found there.
-/

namespace SampleLibrary

namespace Files

variable {fs fs' : Files} {path : String}

/-! ## Contents stay -/

theorem remove_data (removed : fs.remove path = .ok fs') : fs'.data = fs.data := by
  unfold remove at removed
  split at removed <;> cases removed
  rfl

theorem removeTree_data (removed : fs.removeTree path = .ok fs') : fs'.data = fs.data := by
  unfold removeTree at removed
  split at removed <;> cases removed <;> rfl

theorem dataOf_congr (same : fs'.data = fs.data) (id : Nat) : fs'.dataOf id = fs.dataOf id := by
  simp [dataOf, same]

@[simp]
theorem dataOf_setData_self (id : Nat) (content : Content) (modified : Option Int) :
    ((fs.setData id content modified).dataOf id).content = content := by
  simp [setData, dataOf]

@[simp]
theorem setData_nodes (id : Nat) (content : Content) (modified : Option Int) :
    (fs.setData id content modified).nodes = fs.nodes := rfl

@[simp]
theorem setData_working (id : Nat) (content : Content) (modified : Option Int) :
    (fs.setData id content modified).working = fs.working := rfl

theorem dataOf_setData_of_ne {id id' : Nat} {content : Content} {modified : Option Int}
    (other : id' ≠ id) : (fs.setData id content modified).dataOf id' = fs.dataOf id' := by
  unfold setData dataOf
  dsimp only
  rw [Std.ExtTreeMap.getElem?_insert, if_neg]
  intro same
  exact other (Std.LawfulEqCmp.eq_of_compare same).symm

/-! ## A new file -/

theorem nodes_of_walk_free {followLast : Bool} {directory place : Location} {names : List String}
    {slash : Bool}
    (walked : fs.walk followLast directory names = .ok (.ended (.free place slash))) :
    fs.nodes[place]? = none := by
  fun_induction Files.walk fs followLast directory names with
  | case1 => cases walked
  | case2 directory name rest here inductionHypothesis => exact inductionHypothesis walked
  | case3 directory name rest here above inductionHypothesis => exact inductionHypothesis walked
  | case4 => cases walked
  | case5 directory name rest here above long location entry ends =>
      simp only [Except.ok.injEq, Walk.ended.injEq, Place.free.injEq] at walked
      exact walked.1 ▸ entry
  | case6 => cases walked
  | case7 directory name rest here above long location entry inductionHypothesis =>
      exact inductionHypothesis walked
  | case8 => cases walked
  | case9 => cases walked
  | case10 => cases walked
  | case11 => cases walked

theorem nodes_of_resolve_free {followLast : Bool} {place : Location} {slash : Bool}
    (resolved : fs.resolve path followLast = .ok (.free place slash)) : fs.nodes[place]? = none := by
  rw [resolve_of_usable (usable_of_resolve resolved)] at resolved
  refine follow_ended (P := fun end' => end' = .free place slash → fs.nodes[place]? = none) ?_
    resolved rfl
  rintro directory names end' walked rfl
  exact nodes_of_walk_free walked

theorem within_insertNode {place : Location} {node : Node} (free : fs.nodes[place]? = none) :
    fs.Within (fs.insertNode place node) := by
  refine ⟨fun location child found => ?_, rfl⟩
  rw [insertNode, Std.ExtTreeMap.getElem?_insert, if_neg]
  · exact found
  · intro same
    rw [Std.LawfulEqCmp.eq_of_compare same, found] at free
    cases free

/-- The walk to a free name leads to what is put there. -/
theorem walk_insertNode {directory place : Location} {names : List String} {node : Node}
    (walked : fs.walk true directory names = .ok (.ended (.free place false)))
    (isFile : ∃ id, node = .file id) :
    (fs.insertNode place node).walk true directory names =
      .ok (.ended (.found place node)) := by
  rcases isFile with ⟨id, rfl⟩
  have within : fs.Within (fs.insertNode place (.file id)) :=
    within_insertNode (nodes_of_walk_free walked)
  fun_induction Files.walk fs true directory names with
  | case1 => cases walked
  | case2 directory name rest here inductionHypothesis =>
      rw [walk, if_pos here]
      exact inductionHypothesis walked
  | case3 directory name rest here above inductionHypothesis =>
      rw [walk, if_neg here, if_pos above]
      exact inductionHypothesis walked
  | case4 => cases walked
  | case5 directory name rest here above long location entry ends =>
      simp only [Except.ok.injEq, Walk.ended.injEq, Place.free.injEq, Bool.not_eq_false'] at walked
      rcases walked with ⟨rfl, last⟩
      rw [walk_cons_of_name here above long]
      simp [insertNode, last, location]
  | case6 => cases walked
  | case7 directory name rest here above long location entry inductionHypothesis =>
      rw [walk_cons_of_name here above long, within.nodes _ _ entry]
      exact inductionHypothesis walked
  | case8 => cases walked
  | case9 => cases walked
  | case10 => cases walked
  | case11 => cases walked

theorem follow_insertNode (id : Nat) {links : Nat} {directory place : Location}
    {names : List String} (followed : fs.follow true links directory names = .ok (.free place false)) :
    fs.nodes[place]? = none ∧
      (fs.insertNode place (.file id)).follow true links directory names =
        .ok (.found place (.file id)) := by
  rw [← arrives_iff] at followed ⊢
  induction followed with
  | ended walked =>
      exact ⟨nodes_of_walk_free walked, .ended (walk_insertNode walked ⟨id, rfl⟩)⟩
  | link walked onward inductionHypothesis =>
      rcases inductionHypothesis with ⟨free, leads⟩
      exact ⟨free, .link ((within_insertNode free).walk walked (by simp) (.inl rfl)) leads⟩

/-- A content that has been put somewhere is found there. -/
theorem fileAt_put {content : Content} {modified : Option Int}
    (done : fs.put path content modified = .ok fs') :
    ∃ location id, fs'.fileAt path = .ok (location, id) ∧ (fs'.dataOf id).content = content := by
  unfold put at done
  split at done
  · cases done
  · rename_i location id resolved
    cases done
    have same : fs.Within (fs.setData id content modified) := ⟨fun _ _ found => found, rfl⟩
    have leads := same.stat (stat_eq_ok_iff.mpr resolved)
    exact ⟨location, id, by rw [fileAt, leads], dataOf_setData_self id content modified⟩
  · cases done
  · rename_i location slash resolved
    cases slash with
    | true => cases done
    | false =>
        cases done
        have usable := usable_of_resolve resolved
        rw [resolve_of_usable usable] at resolved
        have leads := (follow_insertNode fs.nextId resolved).2
        refine ⟨location, fs.nextId, ?_, dataOf_setData_self _ _ _⟩
        have same : (fs.insertNode location (.file fs.nextId)).Within
            (({ fs with nextId := fs.nextId + 1 }.insertNode location (.file fs.nextId)).setData
              fs.nextId content modified) := ⟨fun _ _ found => found, rfl⟩
        have found : (({ fs with nextId := fs.nextId + 1 }.insertNode location
            (.file fs.nextId)).setData fs.nextId content modified).stat path true =
              .ok (location, .file fs.nextId) := by
          rw [stat_eq_ok_iff, resolve_of_usable usable]
          exact same.follow leads (.inl rfl)
        rw [fileAt, found]

end Files

end SampleLibrary
