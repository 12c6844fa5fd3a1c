import SampleLibrary.Proofs.Library.TagSearch
import SampleLibrary.Proofs.Storage.Retaining

/-!
# What a statement finds

A statement without a limit finds the items for which all its clauses hold, in some order, and the rows
that it reads are those of the items.
-/

namespace SampleLibrary.Query

/-- The columns to sort by; they can be unknown. -/
def orderKeys : Option String → Except SearchError (List SortKey)
  | some order => sortKeys order
  | none => .ok []

theorem sorted_eq (s : Statement) (items : List Item) :
    sorted s items = (orderKeys s.orderBy).map fun keys =>
      (readingOrder s keys items).mergeSort fun a b => compareBy keys a b != .gt := by
  unfold sorted orderKeys
  cases s.orderBy with
  | none => rfl
  | some order =>
      dsimp only
      cases sortKeys order <;> rfl

/-- Sorting neither adds nor drops items. -/
theorem sorted_perm {s : Statement} {items found : List Item} (done : sorted s items = .ok found) :
    found.Perm items := by
  rw [sorted_eq] at done
  cases read : orderKeys s.orderBy with
  | error e => simp [read, Except.map] at done
  | ok keys =>
      rw [read] at done
      cases done
      exact (List.mergeSort_perm _ _).trans (readingOrder_perm s keys items)

/-- Whether items can be sorted is up to the order that is asked for. -/
theorem exists_sorted_of_sorted {s s' : Statement} {items found : List Item}
    (order : s'.orderBy = s.orderBy) (done : sorted s items = .ok found) (items' : List Item) :
    ∃ found', sorted s' items' = .ok found' := by
  rw [sorted_eq] at done
  cases read : orderKeys s.orderBy with
  | error e => simp [read, Except.map] at done
  | ok keys =>
      rw [sorted_eq, order, read]
      exact ⟨_, rfl⟩

/-- A statement without a limit finds items in order if its search expressions can be read. -/
theorem run_eq_ok_iff {s : Statement} {t : Tables} {found : List Item} (unlimited : s.limit = none) :
    s.run t = .ok found ↔
      sorted s (t.items.filter fun i => s.clauses.all fun c => c.holds t i) = .ok found ∧
        s.clauses.all Clause.isReadable = true := by
  unfold Statement.run
  rw [unlimited]
  cases inOrder : sorted s (t.items.filter fun i => s.clauses.all fun c => c.holds t i) with
  | error e => simp [inOrder, bind, Except.bind]
  | ok items =>
      by_cases readable : s.clauses.all Clause.isReadable = true
      · simp [inOrder, readable, bind, Except.bind, pure, Except.pure]
      · simp [inOrder, readable, bind, Except.bind, pure, throw, throwThe, MonadExceptOf.throw]

/-- The items that a statement finds are those for which its clauses hold. -/
theorem run_perm {s : Statement} {t : Tables} {found : List Item} (unlimited : s.limit = none)
    (done : s.run t = .ok found) :
    found.Perm (t.items.filter fun i => s.clauses.all fun c => c.holds t i) :=
  sorted_perm ((run_eq_ok_iff unlimited).mp done).1

/-- All columns of an item make the item. -/
theorem rowOf_ok {s : Statement} (all : s.columns = itemColumns) {i : Item} (positive : 0 < i.id)
    (bound : i.id ≤ Tables.maxNumber) : s.rowOf i = .ok i := by
  have id : columnCell? "id" = some fun i => .integer (.ofInt i.id) := rfl
  have workplace : columnCell? "workplace_id" = some (·.workplace) := rfl
  have limit : Tables.maxNumber = 9223372036854775807 := by decide
  have back : (Int64.ofInt i.id).toInt = i.id :=
    Int64.toInt_ofInt_of_le (by omega) (by omega)
  unfold Statement.rowOf
  rw [all]
  simp only [itemColumns, Field.all, List.map_cons, List.map_nil, List.mapM_cons, List.mapM_nil, id,
    workplace, columnCell?_toName, bind, Except.bind, pure, Except.pure, back]
  simp only [List.length_cons, List.length_nil, Nat.lt_irrefl, if_false]
  congr 1
  cases i
  congr 1
  funext f
  cases f <;> rfl

theorem mapM_rowOf {s : Statement} (all : s.columns = itemColumns) {items : List Item}
    (inRange : ∀ i ∈ items, 0 < i.id ∧ i.id ≤ Tables.maxNumber) : items.mapM s.rowOf = .ok items := by
  induction items with
  | nil => rfl
  | cons i items inductionHypothesis =>
      rcases inRange i List.mem_cons_self with ⟨positive, bound⟩
      rw [List.mapM_cons, rowOf_ok all positive bound,
        inductionHypothesis fun j membership => inRange j (List.mem_cons_of_mem _ membership)]
      rfl

/-- The records that a statement finds are read from the rows of the items for which its clauses hold. -/
theorem search_perm {s : Statement} {t : Tables} {records : List Metadata} (unlimited : s.limit = none)
    (done : t.search s = .ok records) :
    ∃ found rows : List Item, found.Perm (t.items.filter fun i => s.clauses.all fun c => c.holds t i) ∧
      found.mapM s.rowOf = .ok rows ∧ records = rows.map t.record := by
  rcases exists_of_bind_ok done with ⟨found, ran, done⟩
  rcases exists_of_bind_ok done with ⟨rows, read, done⟩
  cases done
  exact ⟨found, rows, run_perm unlimited ran, read, rfl⟩

/-- What can be read of some items can be read of them in any order. -/
theorem exists_mapM_of_perm {α β ε : Type} {f : α → Except ε β} {as bs : List α} (order : as.Perm bs)
    {xs : List β} (done : as.mapM f = .ok xs) : ∃ ys, bs.mapM f = .ok ys ∧ ys.Perm xs := by
  induction order generalizing xs with
  | nil => exact ⟨xs, done, .refl _⟩
  | cons a _ inductionHypothesis =>
      rw [List.mapM_cons] at done
      rcases exists_of_bind_ok done with ⟨x, first, done⟩
      rcases exists_of_bind_ok done with ⟨xs', rest, done⟩
      cases done
      rcases inductionHypothesis rest with ⟨ys, others, same⟩
      exact ⟨x :: ys, by rw [List.mapM_cons, first, others]; rfl, same.cons x⟩
  | swap a b as =>
      rw [List.mapM_cons] at done
      rcases exists_of_bind_ok done with ⟨y, second, done⟩
      rcases exists_of_bind_ok done with ⟨xs', rest, done⟩
      cases done
      rw [List.mapM_cons] at rest
      rcases exists_of_bind_ok rest with ⟨x, first, rest⟩
      rcases exists_of_bind_ok rest with ⟨xs'', rest', done⟩
      cases done
      refine ⟨x :: y :: xs'', ?_, .swap y x xs''⟩
      rw [List.mapM_cons, List.mapM_cons, first, second, rest']
      rfl
  | trans _ _ first second =>
      rcases first done with ⟨ys, read, same⟩
      rcases second read with ⟨zs, read', same'⟩
      exact ⟨zs, read', same'.trans same⟩

/-- A statement that differs in the way its clauses are written finds the same records. -/
theorem search_congr {s s' : Statement} {t : Tables} {records : List Metadata}
    (unlimited : s.limit = none) (unlimited' : s'.limit = none) (order : s'.orderBy = s.orderBy)
    (columns : s'.columns = s.columns)
    (readable : s.clauses.all Clause.isReadable = true → s'.clauses.all Clause.isReadable = true)
    (same : ∀ i, (s'.clauses.all fun c => c.holds t i) = s.clauses.all fun c => c.holds t i)
    (done : t.search s = .ok records) :
    ∃ records', t.search s' = .ok records' ∧ records'.Perm records := by
  rcases exists_of_bind_ok done with ⟨found, ran, done⟩
  rcases exists_of_bind_ok done with ⟨rows, read, done⟩
  cases done
  rcases (run_eq_ok_iff unlimited).mp ran with ⟨inOrder, isReadable⟩
  rcases exists_sorted_of_sorted order inOrder
    (t.items.filter fun i => s'.clauses.all fun c => c.holds t i) with ⟨found', inOrder'⟩
  have ran' : s'.run t = .ok found' :=
    (run_eq_ok_iff unlimited').mpr ⟨inOrder', readable isReadable⟩
  have sameItems : found.Perm found' := by
    refine (sorted_perm inOrder).trans (.trans (.of_eq ?_) (sorted_perm inOrder').symm)
    exact List.filter_congr fun i _ => (same i).symm
  have sameRow : s'.rowOf = s.rowOf := by
    funext i
    unfold Statement.rowOf
    rw [columns]
  rcases exists_mapM_of_perm sameItems read with ⟨rows', read', sameRows⟩
  refine ⟨rows'.map t.record, ?_, sameRows.map _⟩
  unfold Tables.search
  rw [ran', sameRow]
  dsimp only [bind, Except.bind]
  rw [read']
  rfl

end SampleLibrary.Query
