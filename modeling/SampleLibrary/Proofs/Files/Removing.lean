import Mathlib.Data.List.Sort
import SampleLibrary.Proofs.Files.Changes

/-!
# What is in a directory, and what is left of it

The names in a directory are those one below its location, in order (`Files.mem_children`,
`Files.children_ordered`). Removing something takes away certain locations and nothing else
(`Files.Cleared`).
-/

namespace SampleLibrary

namespace Files

variable {fs fs' : Files}

/-! ## Directories -/

/-- An entry of the tree as an entry of a directory, if it is one. -/
def entryIn? (location : Location) (entry : Location × Node) : Option (String × Node) :=
  match entry.1.getLast? with
  | some name => if entry.1.dropLast == location then some (name, entry.2) else none
  | none => none

theorem children_eq (fs : Files) (location : Location) :
    fs.children location = fs.nodes.toList.filterMap (entryIn? location) := rfl

theorem entryIn?_eq_some {location : Location} {entry : Location × Node}
    {child : String × Node} :
    entryIn? location entry = some child ↔ entry = (location ++ [child.1], child.2) := by
  rcases entry with ⟨l, node⟩
  rcases child with ⟨name, child⟩
  unfold entryIn?
  rcases l.eq_nil_or_concat with rfl | ⟨front, last, rfl⟩
  · simp
  · simp [List.concat_eq_append, List.append_singleton_inj, and_assoc]

theorem mem_children {location : Location} {name : String} {node : Node} :
    (name, node) ∈ fs.children location ↔ fs.nodes[location ++ [name]]? = some node := by
  simp only [children_eq, List.mem_filterMap, entryIn?_eq_some, exists_eq_right,
    Std.ExtTreeMap.mem_toList_iff_getElem?_eq_some]

theorem compare_append_singleton (location : Location) (a b : String) :
    compare (location ++ [a]) (location ++ [b]) = compare a b := by
  induction location with
  | nil =>
      show List.compareLex compare [a] [b] = _
      rw [List.compareLex_cons_cons, List.compareLex_nil_nil]
      cases compare a b <;> rfl
  | cons name location inductionHypothesis =>
      show List.compareLex compare (name :: (location ++ [a])) (name :: (location ++ [b])) = _
      rw [List.compareLex_cons_cons, Std.ReflOrd.compare_self]
      exact inductionHypothesis

/-- A directory is listed in the order of the names. -/
theorem children_ordered (fs : Files) (location : Location) :
    (fs.children location).Pairwise fun a b => a.1 < b.1 := by
  rw [children_eq]
  apply List.Pairwise.filterMap _ _ fs.nodes.ordered_keys_toList
  intro entry entry' before child listed child' listed'
  obtain rfl := entryIn?_eq_some.mp listed
  obtain rfl := entryIn?_eq_some.mp listed'
  rw [compare_append_singleton] at before
  exact compareOfLessAndEq_eq_lt.mp before

/-- A directory is listed by the names in it. -/
theorem children_congr {location : Location}
    (same : ∀ name, fs'.nodes[location ++ [name]]? = fs.nodes[location ++ [name]]?) :
    fs'.children location = fs.children location := by
  have irreflexive : Std.Irrefl fun a b : String × Node => a.1 < b.1 :=
    ⟨fun a => String.lt_irrefl a.1⟩
  have antisymmetric : Std.Antisymm fun a b : String × Node => a.1 < b.1 :=
    ⟨fun a b before after => absurd before (String.lt_asymm after)⟩
  apply List.Pairwise.eq_of_mem_iff (fs'.children_ordered location) (fs.children_ordered location)
  rintro ⟨name, node⟩
  rw [mem_children, mem_children, same]

/-! ## Removing -/

/-- Certain locations have been cleared, and everything else is as before. -/
structure Cleared (cleared : Location → Prop) (fs fs' : Files) : Prop where
  gone : ∀ location, cleared location → fs'.nodes[location]? = none
  kept : ∀ location, ¬cleared location → fs'.nodes[location]? = fs.nodes[location]?
  working : fs'.working = fs.working
  data : fs'.data = fs.data

theorem Cleared.within {cleared : Location → Prop} (done : Cleared cleared fs fs') :
    fs'.Within fs := by
  refine ⟨fun location node found => ?_, done.working⟩
  by_cases isCleared : cleared location
  · rw [done.gone location isCleared] at found
    cases found
  · rw [← done.kept location isCleared]
    exact found

theorem Cleared.refl (fs : Files) : Cleared (fun _ => False) fs fs :=
  ⟨fun _ never => never.elim, fun _ _ => rfl, rfl, rfl⟩

theorem Cleared.congr {cleared cleared' : Location → Prop} (done : Cleared cleared fs fs')
    (same : ∀ location, cleared' location ↔ cleared location) : Cleared cleared' fs fs' := by
  rw [show cleared' = cleared from funext fun location => propext (same location)]
  exact done

theorem Cleared.trans {cleared cleared' : Location → Prop} {fs'' : Files}
    (first : Cleared cleared fs fs') (second : Cleared cleared' fs' fs'') :
    Cleared (fun location => cleared location ∨ cleared' location) fs fs'' where
  gone location isCleared := by
    obtain before | now := isCleared
    · exact second.within.nodes_none (first.gone location before)
    · exact second.gone location now
  kept location notCleared := by
    obtain ⟨notBefore, notNow⟩ := not_or.mp notCleared
    exact (second.kept location notNow).trans (first.kept location notBefore)
  working := second.working.trans first.working
  data := second.data.trans first.data

theorem cleared_eraseNode (fs : Files) (location : Location) :
    Cleared (· = location) fs (fs.eraseNode location) := by
  refine ⟨?_, ?_, rfl, rfl⟩
  · rintro l rfl
    exact Std.ExtTreeMap.getElem?_erase_self
  · intro l other
    rw [eraseNode, Std.ExtTreeMap.getElem?_erase, if_neg]
    intro same
    exact other (Std.LawfulEqCmp.eq_of_compare same).symm

/-- Removing a file takes away its name. -/
theorem cleared_remove {path : String} (removed : fs.remove path = .ok fs') :
    ∃ location node, fs.stat path false = .ok (location, node) ∧ node ≠ .directory ∧
      Cleared (· = location) fs fs' := by
  unfold remove at removed
  split at removed
  · cases removed
  · cases removed
  · rename_i location node notDirectory found
    cases removed
    refine ⟨location, node, found, ?_, cleared_eraseNode fs location⟩
    rintro rfl
    exact notDirectory rfl

/-- Removing a directory takes away everything in it as well. -/
theorem cleared_removeTree {path : String} {location : Location}
    (found : fs.stat path false = .ok (location, .directory))
    (removed : fs.removeTree path = .ok fs') : Cleared (location <+: ·) fs fs' := by
  simp only [removeTree, found, Except.ok.injEq] at removed
  subst removed
  refine ⟨fun l below => ?_, fun l elsewhere => ?_, rfl, rfl⟩
  · simp [below]
  · rw [← List.isPrefixOf_iff_prefix, Bool.not_eq_true] at elsewhere
    dsimp only
    rw [Std.ExtTreeMap.getElem?_filter', elsewhere]
    cases fs.nodes[l]? with
    | none => exact Option.filter_none _
    | some node => exact Option.filter_some_pos rfl

/-- What is removed with everything in it has been found. -/
theorem stat_of_removeTree {path : String} (removed : fs.removeTree path = .ok fs') :
    ∃ location node, fs.stat path false = .ok (location, node) := by
  cases found : fs.stat path false with
  | error e => simp [removeTree, found] at removed
  | ok result => exact ⟨result.1, result.2, rfl⟩

theorem within_remove {path : String} (removed : fs.remove path = .ok fs') : fs'.Within fs := by
  rcases cleared_remove removed with ⟨location, node, -, -, cleared⟩
  exact cleared.within

theorem within_removeTree {path : String} (removed : fs.removeTree path = .ok fs') :
    fs'.Within fs := by
  cases found : fs.stat path false with
  | error e => simp [removeTree, found] at removed
  | ok result =>
      rcases result with ⟨location, node⟩
      cases node with
      | directory => exact (cleared_removeTree found removed).within
      | file id => simp [removeTree, found] at removed
      | link target =>
          simp only [removeTree, found, Except.ok.injEq] at removed
          exact removed ▸ (cleared_eraseNode fs location).within

/-- Names have gone, but only at or below a location. -/
structure LostBelow (location : Location) (fs fs' : Files) : Prop where
  within : fs'.Within fs
  kept : ∀ l, ¬location <+: l → fs'.nodes[l]? = fs.nodes[l]?

namespace LostBelow

variable {location : Location}

theorem refl (fs : Files) : LostBelow location fs fs := ⟨.refl fs, fun _ _ => rfl⟩

theorem trans {fs'' : Files} (first : LostBelow location fs fs')
    (second : LostBelow location fs' fs'') : LostBelow location fs fs'' :=
  ⟨second.within.trans first.within,
    fun l elsewhere => (second.kept l elsewhere).trans (first.kept l elsewhere)⟩

/-- What is lost below a location is lost below any location above it. -/
theorem above {rest : List String} (lost : LostBelow (location ++ rest) fs fs') :
    LostBelow location fs fs' :=
  ⟨lost.within, fun l elsewhere =>
    lost.kept l fun below => elsewhere ((List.prefix_append _ _).trans below)⟩

end LostBelow

theorem Cleared.lostBelow {cleared : Location → Prop} {location : Location}
    (done : Cleared cleared fs fs') (inside : ∀ l, cleared l → location <+: l) :
    LostBelow location fs fs' :=
  ⟨done.within, fun l elsewhere => done.kept l fun isCleared => elsewhere (inside l isCleared)⟩

end Files

end SampleLibrary
