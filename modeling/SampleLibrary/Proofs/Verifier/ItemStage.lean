import SampleLibrary.Proofs.Storage.Schema
import SampleLibrary.Proofs.Verifier.Steps
import SampleLibrary.Verifier.Items

/-!
# The first stage

The first stage talks about the items without a file and about the counter of the library. Then it
removes those items whose removal was agreed to, all at once.
-/

namespace SampleLibrary.Verifier

/-- The items of the library, in the order in which they are checked. -/
def itemsInOrder (t : Tables) : List Item := t.libraryItems.mergeSort fun i j => i.id ≤ j.id

/-- The items without a file, among some items. -/
def withoutFile (lib : Library) (fs : Files) (items : List Item) : List Item :=
  items.filter fun i => !fs.exists? (itemPath lib i)

/-- What the first stage can say. -/
inductive SaidOfItems (t : Tables) : Event → Prop where
  | plain {event : Event} : Plain event → SaidOfItems t event
  | missing {item : Int} {name path : String} {event : Event} :
      About (.missingFile item name path) event → SaidOfItems t event
  | noRoot {p : Progress} : t.tag? Tag.root = none →
      p.error = some Remark.missingRootTag.message → SaidOfItems t (.progress p)
  | wrongCounter {p : Progress} {root : TagRow} : t.tag? Tag.root = some root →
      root.count ≠ t.libraryItems.length →
      p.error = some (Remark.wrongItemCounter root.count t.libraryItems.length).message →
      SaidOfItems t (.progress p)

section Stage

variable {t : Tables}

@[simp]
theorem length_itemsInOrder : (itemsInOrder t).length = t.libraryItems.length := by
  simp [itemsInOrder]

theorem mem_itemsInOrder {i : Item} : i ∈ itemsInOrder t ↔ i ∈ t.libraryItems := by
  simp [itemsInOrder]

theorem nodup_itemsInOrder (keyed : t.Keyed) : ((itemsInOrder t).map (·.id)).Nodup := by
  have sorted : ((itemsInOrder t).map (·.id)).Perm (t.libraryItems.map (·.id)) :=
    (List.mergeSort_perm _ _).map _
  exact sorted.nodup_iff.mpr (keyed.itemIds.sublist (List.filter_sublist.map _))

/-- Checking items is talk, and those that are to be removed have no file. -/
theorem foldl_checkItem (lib : Library) (observer : Observer) (t : Tables) (total : Nat)
    (entries : List (Item × Nat)) (removed : List Int) {r : Run}
    (calm : r.progress.error = none) :
    Talk observer (SaidOfItems t) r (entries.foldl (checkItem lib observer total) (removed, r)).2 ∧
      ∃ gone, (entries.foldl (checkItem lib observer total) (removed, r)).1 = removed ++ gone ∧
        gone.Sublist ((withoutFile lib r.files (entries.map (·.1))).map (·.id)) ∧
        (Agreeable observer r → gone = (withoutFile lib r.files (entries.map (·.1))).map (·.id)) := by
  induction entries generalizing removed r with
  | nil => exact ⟨Talk.refl r, [], by simp, .refl _, fun _ => rfl⟩
  | cons entry entries inductionHypothesis =>
      rcases entry with ⟨i, number⟩
      have advanced : Talk observer (SaidOfItems t) r (r.advance (100 * number / max total 1)) :=
        (talk_advance observer _ calm).mono fun _ => .plain
      rw [List.foldl_cons, checkItem]
      by_cases there : (r.files.exists? (itemPath lib i)) = true
      · rw [if_pos (advanced.files ▸ there)]
        rcases inductionHypothesis removed (advanced.calm calm) with ⟨talk, gone, listed, sub, all⟩
        rw [advanced.files] at sub all
        refine ⟨advanced.trans talk, gone, listed, ?_, fun agreeable => ?_⟩
        · simpa [withoutFile, there] using sub
        · simpa [withoutFile, there] using all (advanced.agreeable agreeable)
      · rw [if_neg (advanced.files ▸ there)]
        have asked := advanced.trans ((talk_ask observer (r.advance (100 * number / max total 1))
          (.missingFile i.id ((i.text? .name).getD "") (itemPath lib i))).mono fun _ => .missing)
        have answer (agreeable : Agreeable observer (r.advance (100 * number / max total 1))) :=
          ask_of_agreeable agreeable
            (.missingFile i.id ((i.text? .name).getD "") (itemPath lib i))
        split
        · rename_i r' yes
          rw [yes] at asked
          rcases inductionHypothesis (removed ++ [i.id]) (asked.calm calm) with
            ⟨talk, gone, listed, sub, all⟩
          rw [asked.files] at sub all
          refine ⟨asked.trans talk, i.id :: gone, by rw [listed]; simp, ?_, fun agreeable => ?_⟩
          · simpa [withoutFile, there] using sub
          · simpa [withoutFile, there] using all (asked.agreeable agreeable)
        · rename_i r' no
          rw [no] at asked answer
          rcases inductionHypothesis removed (asked.calm calm) with ⟨talk, gone, listed, sub, all⟩
          rw [asked.files] at sub
          refine ⟨asked.trans talk, gone, listed, ?_, fun agreeable => ?_⟩
          · simpa [withoutFile, there] using sub.cons _
          · exact absurd (answer (advanced.agreeable agreeable)) (by simp)

/-- The run after the search for the tag of the whole library. -/
def afterRoot (r : Run) : Run :=
  let r := r.nextStage "Checking items"
  if ((r.tables.tag? Tag.root).map (·.count)).isNone then r.remark .missingRootTag else r

theorem talk_afterRoot (observer : Observer) (r : Run) :
    Talk observer (SaidOfItems r.tables) r (afterRoot r) := by
  have staged : Talk observer (SaidOfItems r.tables) r (r.nextStage "Checking items") :=
    (talk_nextStage observer r _).mono fun _ => .plain
  unfold afterRoot
  dsimp only
  split
  · rename_i missing
    refine staged.trans ((talk_complain observer _ _ _).mono ?_)
    rintro event ⟨p, error, rfl⟩
    exact .noRoot (by simpa using missing) error
  · exact staged

theorem afterRoot_calm (r : Run) : (afterRoot r).progress.error = none := by
  unfold afterRoot
  dsimp only
  split <;> rfl

/-- The run after all items, with those that are to be removed. -/
def afterItems (lib : Library) (observer : Observer) (r : Run) : List Int × Run :=
  ((itemsInOrder r.tables).zipIdx 1).foldl (checkItem lib observer (itemsInOrder r.tables).length)
    ([], afterRoot r)

theorem talk_checkCounter (observer : Observer) (t : Tables) (r : Run) :
    Talk observer (SaidOfItems t) r
      (checkCounter ((t.tag? Tag.root).map (·.count)) t.libraryItems.length r) := by
  unfold checkCounter
  split
  · rename_i said saying
    split
    · exact .refl _
    · rename_i wrong
      rcases Option.map_eq_some_iff.mp saying with ⟨root, found, rfl⟩
      refine (talk_complain observer _ _ _).mono ?_
      rintro event ⟨p, error, rfl⟩
      exact .wrongCounter found (by simpa using wrong) error
  · exact .refl _

theorem checkCounter_itemsChecked (counter : Option Int) (items : Nat) (r : Run) :
    (checkCounter counter items r).report.itemsChecked = r.report.itemsChecked := by
  unfold checkCounter
  split
  · split <;> rfl
  · rfl

/-- The run after a look at the counter for the whole library. -/
def afterCounter (lib : Library) (observer : Observer) (r : Run) : Run :=
  checkCounter ((r.tables.tag? Tag.root).map (·.count)) r.tables.libraryItems.length
    ((afterItems lib observer r).2.note fun report =>
      { report with itemsChecked := r.tables.libraryItems.length })

theorem checkItems_bind (lib : Library) (observer : Observer) (r : Run) :
    checkItems lib observer r =
      removeItems lib (afterItems lib observer r).1 (afterCounter lib observer r) >>=
        fun r => .ok (r.advance 100) := by
  have course : checkItems lib observer r =
      removeItems lib (checkEachItem lib observer (itemsInOrder (afterRoot r).tables) (afterRoot r)).1
        (checkCounter ((r.tables.tag? Tag.root).map (·.count))
          (itemsInOrder (afterRoot r).tables).length
          ((checkEachItem lib observer (itemsInOrder (afterRoot r).tables) (afterRoot r)).2.note
            fun report =>
              { report with itemsChecked := (itemsInOrder (afterRoot r).tables).length })) >>=
        fun r => .ok (r.advance 100) := rfl
  rw [(talk_afterRoot observer r).tables, length_itemsInOrder] at course
  exact course

theorem talk_afterCounter (lib : Library) (observer : Observer) (r : Run) :
    Talk observer (SaidOfItems r.tables) (afterItems lib observer r).2 (afterCounter lib observer r) :=
  ((talk_note_itemsChecked observer _ _).mono fun _ => .plain).trans
    (talk_checkCounter observer r.tables _)

/-- The first stage is talk until items are removed. -/
theorem checkItems_eq (lib : Library) (observer : Observer) (r : Run) :
    ∃ r' gone, Talk observer (SaidOfItems r.tables) r r' ∧ r'.progress.error = none ∧
      r'.report.itemsChecked = r.tables.libraryItems.length ∧
      gone.Sublist ((withoutFile lib r.files (itemsInOrder r.tables)).map (·.id)) ∧
      (Agreeable observer r →
        gone = (withoutFile lib r.files (itemsInOrder r.tables)).map (·.id)) ∧
      checkItems lib observer r = removeItems lib gone r' >>= fun r => .ok (r.advance 100) := by
  have rooted := talk_afterRoot observer r
  rcases foldl_checkItem lib observer r.tables (itemsInOrder r.tables).length
    ((itemsInOrder r.tables).zipIdx 1) [] (afterRoot_calm r) with ⟨checked, gone, listed, sub, all⟩
  rw [rooted.files, List.zipIdx_map_fst] at sub all
  have counted := checked.trans (talk_afterCounter lib observer r)
  refine ⟨afterCounter lib observer r, gone, rooted.trans counted,
    counted.calm (afterRoot_calm r), ?_, sub, fun agreeable => all (rooted.agreeable agreeable), ?_⟩
  · unfold afterCounter
    rw [checkCounter_itemsChecked]
    rfl
  · rw [List.nil_append] at listed
    rw [checkItems_bind, afterItems, listed]

end Stage

end SampleLibrary.Verifier
