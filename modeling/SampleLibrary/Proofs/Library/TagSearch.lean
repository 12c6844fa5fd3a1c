import SampleLibrary.Library.Search
import SampleLibrary.Proofs.Storage.Schema
import SampleLibrary.Proofs.Tags
import SampleLibrary.Query.Basic

/-!
# Searching for a tag

The query for a tag, without a limit, finds each library item that carries the tag, once. The number of
links between the tag and library items is the same, as no item carries a tag twice.
-/

namespace SampleLibrary

open Query

/-! ## The query for a tag -/

namespace Query

/-- The word that is read stays in one piece and as it is. -/
theorem scanFrom_plain {cs : List Char} {word : OpenWord} {pos : Nat}
    (plain : ∀ c ∈ cs, isSeparator c = false ∧ isQuoting c = false) :
    scanFrom (.bare (some word)) pos cs =
      ⟨[⟨String.ofList (word.chars.reverse ++ cs), word.start⟩], none⟩ := by
  induction cs generalizing word pos with
  | nil => simp [scanFrom, Scan.cons, OpenWord.toWord]
  | cons c cs inductionHypothesis =>
      rcases plain c List.mem_cons_self with ⟨separator, quoting⟩
      simp only [isQuoting, Bool.or_eq_false_iff] at quoting
      rw [scanFrom]
      simp only [separator, quoting.1.1, quoting.1.2, quoting.2, Bool.false_eq_true, if_false,
        Option.getD_some]
      rw [inductionHypothesis fun d membership => plain d (List.mem_cons_of_mem _ membership)]
      simp [OpenWord.push]

theorem splitLenient_plain {text : String} (nonempty : text.toList ≠ [])
    (plain : ∀ c ∈ text.toList, isSeparator c = false ∧ isQuoting c = false) :
    splitLenient text = [text] := by
  have scanned : scan text = ⟨[⟨text, 0⟩], none⟩ := by
    unfold scan
    cases cs : text.toList with
    | nil => exact absurd cs nonempty
    | cons c rest =>
        rw [cs] at plain
        rcases plain c List.mem_cons_self with ⟨separator, quoting⟩
        simp only [isQuoting, Bool.or_eq_false_iff] at quoting
        rw [scanFrom]
        simp only [separator, quoting.1.1, quoting.1.2, quoting.2, Bool.false_eq_true, if_false]
        rw [scanFrom_plain fun d membership => plain d (List.mem_cons_of_mem _ membership)]
        simp [OpenWord.push, ← cs]
  simp [splitLenient, split, scanned]

theorem isTagChar_plain {c : Char} (tagChar : Tag.isTagChar c = true) :
    isSeparator c = false ∧ isQuoting c = false := by
  constructor
  · rw [← Bool.not_eq_true]
    intro separator
    simp only [isSeparator, Bool.or_eq_true, beq_iff_eq] at separator
    rcases separator with ((rfl | rfl) | rfl) | rfl <;> exact absurd tagChar (by decide)
  · rw [← Bool.not_eq_true]
    intro quoting
    simp only [isQuoting, Bool.or_eq_true, beq_iff_eq] at quoting
    rcases quoting with (rfl | rfl) | rfl <;> exact absurd tagChar (by decide)

theorem plain_of_isValid {tag : String} (valid : Tag.isValid tag = true) {c : Char}
    (membership : c ∈ tag.toList) : isSeparator c = false ∧ isQuoting c = false := by
  rcases Tag.isTagChar_of_isValid valid membership with rfl | tagChar
  · decide
  · exact isTagChar_plain tagChar

/-- A sign and a valid tag are read as one word. -/
theorem parse_signed {sign : Char} {tag word : String} {condition : Condition}
    (text : word.toList = sign :: tag.toList) (valid : Tag.isValid tag = true)
    (plain : isSeparator sign = false ∧ isQuoting sign = false)
    (asked : Condition.ofWord? word = some condition) : parse word = [condition] := by
  have words : splitLenient word = [word] := by
    apply splitLenient_plain
    · simp [text]
    · intro c membership
      rw [text] at membership
      rcases List.mem_cons.mp membership with rfl | inTag
      · exact plain
      · exact plain_of_isValid valid inTag
  simp [parse, words, asked]

/-- A question mark and a valid tag ask for the tag. -/
theorem parse_tagged {tag : String} (valid : Tag.isValid tag = true) :
    parse (Condition.tagged tag).toText = [.tagged tag] := by
  have text : (Condition.tagged tag).toText.toList = '?' :: tag.toList := by
    simp [Condition.toText]
  apply parse_signed text valid (by decide)
  simp [Condition.ofWord?, Condition.tagged?, text, Condition.isTagName, valid]

/-- A hyphen and a valid tag ask for what does not have the tag. -/
theorem parse_untagged {tag : String} (valid : Tag.isValid tag = true) :
    parse (Condition.untagged tag).toText = [.untagged tag] := by
  have text : (Condition.untagged tag).toText.toList = '-' :: tag.toList := by
    simp [Condition.toText]
  apply parse_signed text valid (by decide)
  simp [Condition.ofWord?, Condition.tagged?, Condition.untagged?, text, Condition.isTagName, valid]

end Query

/-! ## What it finds -/

namespace Tables

variable {t : Tables}

/-- Does the item have a link to the tag? -/
def isCarrier (t : Tables) (tag : Int) (i : Item) : Bool :=
  t.links.any fun l => l.item == i.id && l.tag == tag

theorem mem_carriers {tag : Int} {i : Item} :
    i ∈ t.carriers tag ↔ i ∈ t.libraryItems ∧ t.isCarrier tag i = true := by
  simp only [carriers, List.mem_flatMap, List.mem_filter, beq_iff_eq, isCarrier, List.any_eq_true,
    Bool.and_eq_true]
  constructor
  · rintro ⟨l, ⟨link, sameTag⟩, membership, sameItem⟩
    exact ⟨membership, l, link, sameItem.symm, sameTag⟩
  · rintro ⟨membership, l, link, sameItem, sameTag⟩
    exact ⟨l, ⟨link, sameTag⟩, membership, sameItem.symm⟩

/-- No item carries a tag twice. -/
theorem carriers_nodup (keyed : t.Keyed) (tag : Int) : (t.carriers tag).Nodup := by
  refine List.nodup_flatMap.mpr ⟨fun l _ => keyed.libraryItems_nodup.filter _, ?_⟩
  refine (keyed.links.filter _).pairwise_of_forall_ne ?_
  intro l inLinks m alsoInLinks differ i inFirst inSecond
  simp only [List.mem_filter, beq_iff_eq] at inLinks alsoInLinks inFirst inSecond
  apply differ
  cases l
  cases m
  simp_all

theorem carriers_perm (keyed : t.Keyed) (tag : Int) :
    (t.carriers tag).Perm (t.libraryItems.filter (t.isCarrier tag)) := by
  refine (List.perm_ext_iff_of_nodup (carriers_nodup keyed tag)
    (keyed.libraryItems_nodup.filter _)).mpr fun i => ?_
  rw [mem_carriers, List.mem_filter]

theorem carriesAny_singleton (keyed : t.Keyed) {row : TagRow} (present : row ∈ t.tags) (i : Item) :
    carriesAny t i [row.name] = t.isCarrier row.id i := by
  rw [Bool.eq_iff_iff]
  simp only [carriesAny, isCarrier, List.any_eq_true, Bool.and_eq_true, beq_iff_eq,
    List.contains_eq_mem, List.mem_singleton, decide_eq_true_eq]
  constructor
  · rintro ⟨l, link, sameItem, r, isRow, sameTag, sameName⟩
    rw [keyed.tag_eq_of_name isRow present sameName] at sameTag
    exact ⟨l, link, sameItem, sameTag.symm⟩
  · rintro ⟨l, link, sameItem, sameTag⟩
    exact ⟨l, link, sameItem, row, present, sameTag.symm, rfl⟩

end Tables

namespace Query

/-- The options of a search without a limit. -/
def unlimited : Options := { limit := none }

theorem clauses_tagged {tag : String} (notRoot : tag ≠ Tag.root) :
    (statement [.tagged tag] unlimited).clauses = [.inLibrary, .taggedAny [tag]] := by
  have names : tagNames .tagged [.tagged tag] = [tag] := rfl
  simp [statement, unlimited, clauses, Scope.clauses, compareClauses, groups, Condition.group?,
    groupClauses, names, Ne.symm notRoot]

theorem columnCell?_toName (f : Field) : columnCell? f.toName = some fun i => i.cell f := by
  cases f <;> rfl

theorem sortKeys_name : sortKeys "item.name" = .ok [⟨"item.name", fun i => i.cell .name, false⟩] := by
  rfl

theorem rowOf_total {s : Statement} (all : s.columns = itemColumns) (i : Item) :
    ∃ j, s.rowOf i = .ok j := by
  have id : columnCell? "id" = some fun i => .integer (.ofInt i.id) := rfl
  have workplace : columnCell? "workplace_id" = some (·.workplace) := rfl
  unfold Statement.rowOf
  rw [all]
  simp [itemColumns, Field.all, id, workplace, columnCell?_toName, bind, Except.bind, pure, Except.pure]

theorem exists_mapM_ok {α β ε : Type} {f : α → Except ε β} (total : ∀ a, ∃ b, f a = .ok b)
    (as : List α) : ∃ bs, as.mapM f = .ok bs ∧ bs.length = as.length := by
  induction as with
  | nil => exact ⟨[], rfl, rfl⟩
  | cons a as inductionHypothesis =>
      rcases total a with ⟨b, first⟩
      rcases inductionHypothesis with ⟨bs, rest, length⟩
      exact ⟨b :: bs, by simp [List.mapM_cons, first, rest, bind, Except.bind, pure, Except.pure],
        by simp [length]⟩

/-- Putting items in order neither adds nor drops any. -/
theorem readingOrder_perm (s : Statement) (keys : List SortKey) (items : List Item) :
    (readingOrder s keys items).Perm items := by
  unfold readingOrder
  dsimp only
  split
  · exact List.mergeSort_perm _ _
  · split
    · exact (List.mergeSort_perm _ _).trans (List.mergeSort_perm _ _)
    · split
      · exact (List.reverse_perm _).trans (List.mergeSort_perm _ _)
      · exact List.mergeSort_perm _ _

theorem exists_sorted {s : Statement} (order : s.orderBy = some "item.name") (items : List Item) :
    ∃ inOrder, sorted s items = .ok inOrder ∧ inOrder.Perm items := by
  have keys : sorted s items = .ok ((readingOrder s
      [⟨"item.name", fun i => i.cell .name, false⟩] items).mergeSort fun a b =>
        compareBy [⟨"item.name", fun i => i.cell .name, false⟩] a b != .gt) := by
    simp [sorted, order, sortKeys_name, bind, Except.bind, pure, Except.pure]
  exact ⟨_, keys, (List.mergeSort_perm _ _).trans (readingOrder_perm _ _ _)⟩

theorem run_tagged {tag : String} (notRoot : tag ≠ Tag.root) (t : Tables) :
    ∃ items, (statement [.tagged tag] unlimited).run t = .ok items ∧
      items.Perm (t.items.filter fun i => i.inLibrary && carriesAny t i [tag]) := by
  have limit : (statement [.tagged tag] unlimited).limit = none := rfl
  rcases exists_sorted (s := statement [.tagged tag] unlimited) rfl
    (t.items.filter fun i => i.inLibrary && carriesAny t i [tag]) with ⟨items, inOrder, sameItems⟩
  refine ⟨items, ?_, sameItems⟩
  unfold Statement.run
  rw [clauses_tagged notRoot, limit]
  simp [Clause.holds, Clause.isReadable, inOrder, bind, Except.bind, pure, Except.pure]

end Query

/-- The query for a tag finds as many items as there are links between the tag and library items. -/
theorem Library.length_search_tagged {lib : Library} {w : World} {t : Tables}
    (isOpen : lib.tables w.files = .ok t) (keyed : t.Keyed) {row : TagRow} (present : row ∈ t.tags)
    (notRoot : row.name ≠ Tag.root) :
    ∃ found, (lib.search [.tagged row.name] unlimited w).1 = .ok found ∧
      found.length = (t.carriers row.id).length := by
  rcases run_tagged notRoot t with ⟨items, ran, order⟩
  rcases exists_mapM_ok (rowOf_total (s := statement [.tagged row.name] unlimited) rfl) items with
    ⟨rows, read, length⟩
  refine ⟨rows.map t.record, ?_, ?_⟩
  · simp [Library.search, Library.find, isOpen, Tables.search, ran, read, bind, Except.bind, pure,
      Except.pure]
  · have sameItems : (t.items.filter fun i => i.inLibrary && carriesAny t i [row.name]) =
        t.libraryItems.filter (t.isCarrier row.id) := by
      rw [Tables.libraryItems, List.filter_filter]
      exact List.filter_congr fun i _ => by
        rw [Tables.carriesAny_singleton keyed present, Bool.and_comm]
    rw [List.length_map, length, order.length_eq, sameItems,
      (Tables.carriers_perm keyed row.id).length_eq]

end SampleLibrary
