import SampleLibrary.Proofs.Library.ReadingBack
import SampleLibrary.Proofs.Query.Meaning

/-!
# Searching a library

A search without a limit finds each item that the query asks for, once, and nothing else. So the order of
the tags and comparisons of a query does not matter.
-/

namespace SampleLibrary.Library

open Query

variable {lib : Library} {w : World}

/-- A search that succeeds has found something in the tables. -/
theorem search_ok {conditions : List Condition} {options : Options} {records : List Metadata}
    (done : (lib.search conditions options w).1 = .ok records) :
    ∃ t, lib.tables w.files = .ok t ∧ t.search (statement conditions options) = .ok records := by
  rcases exists_of_bind_ok done with ⟨t, isOpen, done⟩
  refine ⟨t, isOpen, ?_⟩
  cases ran : t.search (statement conditions options) with
  | error e => simp [ran] at done
  | ok found =>
      simp only [ran] at done
      cases done
      rfl

theorem search_eq_ok {conditions : List Condition} {options : Options} {records : List Metadata}
    {t : Tables} (isOpen : lib.tables w.files = .ok t)
    (done : t.search (statement conditions options) = .ok records) :
    (lib.search conditions options w).1 = .ok records := by
  unfold search find
  rw [isOpen]
  dsimp only [bind, Except.bind]
  rw [done]

/-- Queries that differ only in the order of tags and comparisons find the same records. -/
theorem search_reordered {conditions others : List Condition} {options : Options}
    {records : List Metadata} (unlimited : options.limit = none)
    (sameConditions : conditions.Perm others) (sameTexts : texts conditions = texts others)
    (done : (lib.search conditions options w).1 = .ok records) :
    ∃ records', (lib.search others options w).1 = .ok records' ∧ records'.Perm records := by
  rcases search_ok done with ⟨t, isOpen, ran⟩
  have sameItems (i : Item) :
      ((clauses options.scope others).all fun c => c.holds t i) =
        (clauses options.scope conditions).all fun c => c.holds t i := by
    rw [Bool.eq_iff_iff, holds_clauses_iff, holds_clauses_iff]
    exact ⟨Matches.perm sameConditions.symm sameTexts.symm, Matches.perm sameConditions sameTexts⟩
  have readable : (clauses options.scope conditions).all Clause.isReadable = true →
      (clauses options.scope others).all Clause.isReadable = true := by
    rw [isReadable_clauses, isReadable_clauses, expression, expression, sameTexts]
    exact id
  have found : ∃ records', t.search (statement others options) = .ok records' ∧
      records'.Perm records :=
    search_congr (s := statement conditions options) unlimited unlimited rfl rfl readable sameItems ran
  rcases found with ⟨records', ran', same⟩
  exact ⟨records', search_eq_ok isOpen ran', same⟩

/-- A search without a limit that does not fail finds exactly the items that the query asks for, once
each: it reads their rows, which are the items themselves unless other columns are asked for. And it does
not matter in which order the query names tags and comparisons. -/
theorem Reached.search_exact {conditions : List Condition} {options : Options}
    {records : List Metadata} (reached : Reached lib w) (unlimited : options.limit = none)
    (done : (lib.search conditions options w).1 = .ok records) :
    ∃ (t : Tables) (found rows : List Item), lib.tables w.files = .ok t ∧ found.Nodup ∧
      (∀ i, i ∈ found ↔ i ∈ t.items ∧ Matches t options.scope conditions i) ∧
      found.mapM (statement conditions options).rowOf = .ok rows ∧
      (options.columns = [] → rows = found) ∧ records = rows.map t.record ∧
      ∀ others, conditions.Perm others → texts conditions = texts others →
        ∃ records', (lib.search others options w).1 = .ok records' ∧ records'.Perm records := by
  rcases search_ok done with ⟨t, isOpen, ran⟩
  rcases reached.orderly with ⟨t', content, consistent, orderly⟩
  obtain rfl : t = t' := Holds.eq (tables_eq_ok isOpen) content
  rcases search_perm unlimited ran with ⟨found, rows, sameItems, read, same⟩
  have nodup : (t.items.filter fun i => (clauses options.scope conditions).all fun c =>
      c.holds t i).Nodup := (List.Nodup.of_map _ consistent.keyed.itemIds).filter _
  have membership (i : Item) : i ∈ found ↔ i ∈ t.items ∧ Matches t options.scope conditions i := by
    rw [sameItems.mem_iff, List.mem_filter, ← holds_clauses_iff]
    rfl
  have whole : options.columns = [] → rows = found := by
    intro all
    have columns : (statement conditions options).columns = itemColumns := by
      simp [statement, all]
    rw [mapM_rowOf columns fun i isFound => orderly.items i ((membership i).mp isFound).1] at read
    cases read
    rfl
  exact ⟨t, found, rows, isOpen, sameItems.nodup_iff.mpr nodup, membership, read, whole, same,
    fun others sameConditions sameTexts => search_reordered unlimited sameConditions sameTexts done⟩

/-- A drum with two channels and no clap. -/
def snareQuery : List Condition :=
  [.text "drums", .compare "channels" .ge "2", .tagged "/drums", .compare "KEY" .eq "C",
    .untagged "/drums/clap"]

theorem snare_searched :
    (match (openAt "lib" bareWorld).1 with
      | .ok lib =>
        (lib.search snareQuery unlimited
          (lib.importFile snare false (openAt "lib" bareWorld).2).2).1.toOption.map List.length ==
            some 1
      | .error _ => false) = true := by
  decide +kernel

/-- The snare is imported and looked for. -/
theorem snare_search_exact :
    ∃ lib w records, Reached lib w ∧ unlimited.limit = none ∧
      (lib.search snareQuery unlimited w).1 = .ok records ∧ records.length = 1 ∧
      ∃ (t : Tables) (found rows : List Item), lib.tables w.files = .ok t ∧ found.Nodup ∧
        (∀ i, i ∈ found ↔ i ∈ t.items ∧ Matches t unlimited.scope snareQuery i) ∧
        found.mapM (statement snareQuery unlimited).rowOf = .ok rows ∧
        (unlimited.columns = [] → rows = found) ∧ records = rows.map t.record ∧
        ∀ others, snareQuery.Perm others → texts snareQuery = texts others →
          ∃ records', (lib.search others unlimited w).1 = .ok records' ∧ records'.Perm records := by
  have facts := snare_searched
  cases opened : (openAt "lib" bareWorld).1 with
  | error e => simp [opened] at facts
  | ok lib =>
      have reached : Reached lib (lib.importFile snare false (openAt "lib" bareWorld).2).2 :=
        .imported snare false (.created bareWorld_absent opened) snare_valid.tags
      simp only [opened, beq_iff_eq] at facts
      cases found : (lib.search snareQuery unlimited
          (lib.importFile snare false (openAt "lib" bareWorld).2).2).1 with
      | error e => simp [found, Except.toOption] at facts
      | ok records =>
          rw [found] at facts
          exact ⟨lib, _, records, reached, rfl, found, Option.some.inj facts,
            reached.search_exact rfl found⟩

end SampleLibrary.Library
