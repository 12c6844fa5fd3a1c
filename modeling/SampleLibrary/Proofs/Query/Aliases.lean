import SampleLibrary.Proofs.Query.Identifiers
import SampleLibrary.Proofs.Query.TextIndependence

/-!
# Tables of custom tests

Each custom test looks into two tables, under names of its own. The names are numbered by the order of the
tests, so that each is declared once and does not stand outside its test, whatever else a statement asks for.
With the placeholders in the order of their values this makes a statement `Aligned`.
-/

namespace SampleLibrary.Query

/-! ## Declarations -/

/-- The words that come directly after a keyword. -/
def following (keyword : String) : List String → List String
  | first :: second :: rest =>
    if first = keyword then second :: following keyword (second :: rest)
    else following keyword (second :: rest)
  | _ => []

theorem following_cons_of_ne {keyword word : String} (differs : word ≠ keyword) (words : List String) :
    following keyword (word :: words) = following keyword words := by
  cases words with
  | nil => rfl
  | cons next words => rw [following, if_neg differs]

theorem following_append {keyword : String} {front : List String} (rest : List String)
    (last : ∀ word ∈ front.getLast?, word ≠ keyword) :
    following keyword (front ++ rest) = following keyword front ++ following keyword rest := by
  induction front with
  | nil => rfl
  | cons word front inductionHypothesis =>
      cases front with
      | nil => exact following_cons_of_ne (last word rfl) rest
      | cons next front =>
          have rest := inductionHypothesis last
          simp only [List.cons_append, following] at rest ⊢
          split <;> simp [rest]

theorem following_eq_nil {keyword : String} {words : List String} (absent : keyword ∉ words) :
    following keyword words = [] := by
  induction words with
  | nil => rfl
  | cons word words inductionHypothesis =>
      rw [List.mem_cons, not_or] at absent
      rw [following_cons_of_ne (Ne.symm absent.1), inductionHypothesis absent.2]

/-- The keyword declares these tables among the words, and none that the words behind them could name. -/
structure Declares (keyword : String) (words tables : List String) : Prop where
  following_eq : following keyword words = tables
  last : ∀ word ∈ words.getLast?, word ≠ keyword

namespace Declares

variable {keyword : String} {words more tables others : List String}

theorem append (first : Declares keyword words tables) (second : Declares keyword more others) :
    Declares keyword (words ++ more) (tables ++ others) where
  following_eq := by rw [following_append more first.last, first.following_eq, second.following_eq]
  last word isLast := by
    rw [List.getLast?_append] at isLast
    cases behind : more.getLast? with
    | none => exact first.last word (by simpa [behind] using isLast)
    | some other => exact second.last word (by simpa [behind] using isLast)

theorem of_not_mem (absent : keyword ∉ words) : Declares keyword words [] where
  following_eq := following_eq_nil absent
  last word isLast := by
    rintro rfl
    exact absent (List.mem_of_getLast? isLast)

end Declares

/-- A test declares its two tables. -/
theorem CustomTest.declares (t : CustomTest) :
    Declares "item_custom_values" t.words [valueTable t.number] ∧
      Declares "custom_keys" t.words [keyTable t.number] := by
  have apart {table keyword : String} (isName : isTableName table = true)
      (isWord : isTableName keyword = false) : table ≠ keyword := by
    rintro rfl
    rw [isName] at isWord
    cases isWord
  have values := isTableName_valueTable t.number
  have keys := isTableName_keyTable t.number
  unfold words openingWords
  -- the words are walked through with the tables as they come: only what they are not counts
  generalize valueTable t.number = v at values
  generalize keyTable t.number = k at keys
  have v₁ : v ≠ "item_custom_values" := apart values (by decide)
  have v₂ : v ≠ "custom_keys" := apart values (by decide)
  have k₁ : k ≠ "item_custom_values" := apart keys (by decide)
  have k₂ : k ≠ "custom_keys" := apart keys (by decide)
  cases t.value <;>
    exact ⟨⟨by simp [following, v₁, k₁], by simp⟩, ⟨by simp [following, v₂, k₂], by simp⟩⟩

/-! ## Clauses -/

/-- The custom test of a clause, if it has one. -/
def Clause.custom? : Clause → Option CustomTest
  | .custom test => some test
  | .either _ test => some test
  | _ => none

/-- A word that neither names nor declares a table of a custom test. -/
def isPlain (word : String) : Bool :=
  !isTableName word && word != "item_custom_values" && word != "custom_keys"

theorem FixedTest.isPlain_of_mem_identifiers {t : FixedTest} {word : String}
    (membership : word ∈ identifiers (written t.pieces)) : isPlain word = true := by
  have start : HasIdentifiers "item." ["item"] := ⟨by decide, by decide⟩
  have name : identifiers t.field.toName = [t.field.toName] := by cases t.field <;> decide
  have sign : Gap (" " ++ t.op.sign ++ " " ++ "?") [] := by cases t.op <;> decide
  have text : written t.pieces = "item." ++ t.field.toName ++ (" " ++ t.op.sign ++ " " ++ "?") := by
    simp only [pieces, written_sql, written_value, written_nil, String.append_assoc, String.append_empty]
  rw [text, (start.next name sign).eq] at membership
  rcases membership with _ | ⟨_, _ | ⟨_, nowhere⟩⟩
  · rfl
  · cases t.field <;> rfl
  · exact absurd nowhere List.not_mem_nil

theorem isPlain_of_mem_identifiers_taggedPieces {tags : List String} {word : String}
    (membership : word ∈ identifiers (written (taggedPieces tags))) : isPlain word = true := by
  have between : Gap ", " [] := by decide
  have opening : endsApart (tagOpening ++ "t.name IN (") = true := by decide
  have closing : startsApart "))" = true := by decide
  rw [written_taggedPieces, identifiers_append_of_startsApart _ closing,
    identifiers_append_of_endsApart _ opening, List.mem_append, List.mem_append] at membership
  rcases membership with (inOpening | inList) | inClosing
  · revert word
    decide +kernel
  · rcases mem_identifiers_join between inList with nowhere | ⟨mark, isMark, inMark⟩
    · exact absurd nowhere List.not_mem_nil
    · have unnamed : identifiers "?" = [] := by decide
      rw [List.eq_of_mem_replicate isMark, unnamed] at inMark
      exact absurd inMark List.not_mem_nil
  · revert word
    decide

theorem Clause.isPlain_of_mem_identifiers {c : Clause} (untested : c.custom? = none) {word : String}
    (membership : word ∈ identifiers c.text) : isPlain word = true := by
  have constant {text : String} (same : c.text = text)
      (plain : ∀ word ∈ identifiers text, isPlain word = true) : isPlain word = true :=
    plain word (same ▸ membership)
  have tagged {text : String} {tags : List String} (same : c.text = text ++ written (taggedPieces tags))
      (ends : endsApart text = true) (plain : ∀ word ∈ identifiers text, isPlain word = true) :
      isPlain word = true := by
    rw [same, identifiers_append_of_endsApart _ ends, List.mem_append] at membership
    exact membership.elim (plain word) isPlain_of_mem_identifiers_taggedPieces
  cases c with
  | inLibrary => exact constant rfl (by decide +kernel)
  | inWorkplace id =>
      have text : (Clause.inWorkplace id).text = "item.workplace_id = ?" := by rfl
      exact constant text (by decide +kernel)
  | fixed test => exact test.isPlain_of_mem_identifiers membership
  | custom test => cases untested
  | either test other => cases untested
  | taggedAny tags => exact tagged (written_sql _ _) (by decide) (by decide)
  | taggedNone tags => exact tagged (written_sql _ _) (by decide) (by decide)
  | nothing => exact constant rfl (by decide +kernel)
  | words expression =>
      have text : (Clause.words expression).text
          = "item.id IN (SELECT docid FROM fts WHERE fts MATCH ?)" := by rfl
      exact constant text (by decide +kernel)
  | phrase expression =>
      have text : (Clause.phrase expression).text = "fts MATCH ?" := by rfl
      exact constant text (by decide +kernel)

/-- A text that keeps itself apart on both sides, and that neither names nor declares a table. -/
structure Surrounds (text : String) : Prop where
  starts : startsApart text = true
  ends : endsApart text = true
  plain : ∀ word ∈ identifiers text, isPlain word = true

/-- The text of a clause is that of its custom test, and what surrounds this. -/
theorem Clause.text_eq_around {c : Clause} {t : CustomTest} (custom : c.custom? = some t) :
    ∃ front rest, c.text = front ++ written t.pieces ++ rest ∧ Surrounds front ∧ Surrounds rest := by
  cases c with
  | custom test =>
      cases custom
      have empty : Surrounds "" := ⟨by decide, by decide, by decide⟩
      exact ⟨"", "", by simp [text, pieces], empty, empty⟩
  | either test other =>
      cases custom
      refine ⟨"(" ++ written test.pieces ++ " OR ", ")", ?_, ⟨?_, ?_, fun word membership => ?_⟩,
        by decide, by decide, by decide⟩
      · simp [text, pieces, String.append_assoc]
      · rw [String.append_assoc]
        exact startsApart_append _ (by decide) (by decide)
      · exact endsApart_append _ (by decide) (by decide)
      · rw [identifiers_append_of_startsApart _ (by decide), identifiers_append_of_endsApart _ (by decide)]
          at membership
        simp only [List.mem_append] at membership
        rcases membership with (opening | inTest) | inOr
        · exact (by decide : ∀ word ∈ identifiers "(", isPlain word = true) word opening
        · exact test.isPlain_of_mem_identifiers inTest
        · exact (by decide : ∀ word ∈ identifiers " OR ", isPlain word = true) word inOr
  | inLibrary | inWorkplace | fixed | taggedAny | taggedNone | nothing | words | phrase => cases custom

/-- A clause names no tables but those of its custom test. -/
theorem Clause.exists_custom_of_mem_identifiers {c : Clause} {word : String}
    (membership : word ∈ identifiers c.text) (isName : isTableName word = true) :
    ∃ t, c.custom? = some t ∧ word ∈ t.tables := by
  have unplain : isPlain word = false := by simp [isPlain, isName]
  cases custom : c.custom? with
  | none => simp [isPlain_of_mem_identifiers custom membership] at unplain
  | some t =>
      rcases text_eq_around custom with ⟨front, rest, text, inFront, behind⟩
      rw [text, identifiers_append_of_startsApart _ behind.starts,
        identifiers_append_of_endsApart _ inFront.ends, t.identifiers_written, List.mem_append,
        List.mem_append] at membership
      rcases membership with (isFront | inTest) | isRest
      · simp [inFront.plain word isFront] at unplain
      · exact ⟨t, rfl, CustomTest.mem_tables_of_mem_words inTest isName⟩
      · simp [behind.plain word isRest] at unplain

/-! ## Statements -/

namespace Statement

/-- The custom tests of a statement, in order. -/
def customTests (s : Statement) : List CustomTest := s.clauses.filterMap Clause.custom?

section Declarations

variable {keyword : String} {table : Nat → String}
  (tests : ∀ t : CustomTest, Declares keyword t.words [table t.number]) (special : isPlain keyword = false)
include tests special

theorem declares_clause (c : Clause) :
    Declares keyword (identifiers c.text) (c.custom?.toList.map fun t => table t.number) := by
  have plainWords {words : List String} (plain : ∀ word ∈ words, isPlain word = true) :
      Declares keyword words [] :=
    .of_not_mem fun membership => by simp [plain keyword membership] at special
  cases custom : c.custom? with
  | none => exact plainWords fun _ => c.isPlain_of_mem_identifiers custom
  | some t =>
      rcases c.text_eq_around custom with ⟨front, rest, text, inFront, behind⟩
      rw [text, identifiers_append_of_startsApart _ behind.starts,
        identifiers_append_of_endsApart _ inFront.ends, t.identifiers_written]
      exact ((plainWords inFront.plain).append (tests t)).append (plainWords behind.plain)

/-- Tables are declared in the order of their tests. -/
theorem declares_conditions (s : Statement) :
    Declares keyword (identifiers s.conditions) (s.customTests.map fun t => table t.number) := by
  have between : Gap " AND " ["AND"] := by decide
  have and : Declares keyword ["AND"] [] := .of_not_mem fun membership => by
    rw [List.mem_singleton.mp membership] at special
    cases special
  unfold conditions customTests
  induction s.clauses with
  | nil => exact .of_not_mem List.not_mem_nil
  | cons c rest inductionHypothesis =>
      have first := declares_clause tests special c
      have split : (c :: rest).filterMap Clause.custom?
          = c.custom?.toList ++ rest.filterMap Clause.custom? := by
        rw [List.filterMap_cons]
        cases c.custom? <;> rfl
      rw [split, List.map_append]
      cases rest with
      | nil => simpa [Text.join] using first
      | cons next rest =>
          rw [List.map_cons, List.map_cons, identifiers_join_cons between]
          simpa using (first.append and).append inductionHypothesis

end Declarations

theorem exists_column_of_mem_head {s : Statement} {word : String}
    (membership : word ∈ identifiers s.head) (isName : isTableName word = true) :
    ∃ column ∈ s.columns, word ∈ identifiers column := by
  have nowhere {words : List String} (others : ∀ word ∈ words, isTableName word = false) : word ∉ words :=
    fun inWords => by simp [others word inWords] at isName
  have between : Gap ", " [] := by decide
  have documents : startsApart (if s.withDocuments then " JOIN fts ON fts.docid = item.id" else "") = true ∧
      ∀ word ∈ identifiers (if s.withDocuments then " JOIN fts ON fts.docid = item.id" else ""),
        isTableName word = false := by
    split <;> decide +kernel
  have begin : startsApart (if s.clauses.isEmpty then "" else " WHERE ") = true ∧
      ∀ word ∈ identifiers (if s.clauses.isEmpty then "" else " WHERE "), isTableName word = false := by
    split <;> decide
  rw [head, identifiers_append_of_startsApart _ begin.1, identifiers_append_of_startsApart _ documents.1,
    identifiers_append_of_startsApart _ (by decide), identifiers_append_of_endsApart _ (by decide)]
    at membership
  simp only [List.mem_append, nowhere begin.2, nowhere documents.2, or_false] at membership
  rcases membership with (select | inColumns) | items
  · exact absurd select (nowhere (by decide))
  · rcases mem_identifiers_join between inColumns with inGap | ⟨text, isText, inText⟩
    · exact absurd inGap List.not_mem_nil
    · rcases List.mem_map.mp isText with ⟨column, isColumn, rfl⟩
      refine ⟨column, isColumn, ?_⟩
      rw [qualified] at inText
      split at inText
      · rw [identifiers_append_of_endsApart _ (by decide), List.mem_append] at inText
        exact inText.resolve_left (nowhere (by decide))
      · exact inText
  · exact absurd items (nowhere (by decide))

theorem isTableName_toString (n : Nat) : isTableName (toString n) = false := by
  rw [isTableName, Decimal.toList_toString]
  cases digits : Decimal.natDigits n with
  | nil => exact absurd digits (Decimal.natDigits_ne_nil n)
  | cons c cs =>
      have digit := Decimal.isDecimal_of_mem_natDigits (digits ▸ List.mem_cons_self)
      have i : 'i' ≠ c := by rintro rfl; exact absurd digit (by decide)
      have k : 'c' ≠ c := by rintro rfl; exact absurd digit (by decide)
      simp [List.isPrefixOf, i, k]

theorem limitText_apart (limit : Option Nat) : startsApart (limitText limit) = true ∧
    ∀ word ∈ identifiers (limitText limit), isTableName word = false := by
  cases limit with
  | none => decide
  | some n =>
      refine ⟨startsApart_append _ (by decide) (by decide), fun word membership => ?_⟩
      rw [limitText, identifiers_append_of_endsApart _ (by decide), identifiers_toString,
        List.mem_append, List.mem_singleton] at membership
      rcases membership with keyword | rfl
      · exact (by decide : ∀ word ∈ identifiers " LIMIT ", isTableName word = false) word keyword
      · exact isTableName_toString n

theorem exists_order_of_mem_tail {s : Statement} {word : String}
    (membership : word ∈ identifiers s.tail) (isName : isTableName word = true) :
    ∃ order ∈ s.orderBy, word ∈ identifiers order := by
  have nowhere {words : List String} (others : ∀ word ∈ words, isTableName word = false) : word ∉ words :=
    fun inWords => by simp [others word inWords] at isName
  have limit := limitText_apart s.limit
  rw [tail, identifiers_append_of_startsApart _ limit.1, List.mem_append] at membership
  have inOrder := membership.resolve_right (nowhere limit.2)
  cases order : s.orderBy with
  | none =>
      rw [order] at inOrder
      exact absurd inOrder (nowhere (by decide))
  | some text =>
      rw [order, orderText, identifiers_append_of_endsApart _ (by decide), List.mem_append] at inOrder
      exact ⟨text, rfl, inOrder.resolve_left (nowhere (by decide))⟩

theorem startsApart_tail (s : Statement) : startsApart s.tail = true := by
  unfold tail
  cases s.orderBy with
  | none =>
      rw [orderText, String.empty_append]
      exact (limitText_apart s.limit).1
  | some order =>
      rw [orderText, String.append_assoc]
      exact startsApart_append _ (by decide) (by decide)

/-- A table that the text of a clause names is one of a test. -/
theorem exists_test_of_mem {clauses : List Clause} {word : String}
    (inClauses : ∃ c ∈ clauses, word ∈ identifiers c.text) (isName : isTableName word = true) :
    ∃ t ∈ clauses.filterMap Clause.custom?, word ∈ t.tables := by
  rcases inClauses with ⟨c, isClause, inText⟩
  rcases c.exists_custom_of_mem_identifiers inText isName with ⟨t, custom, inTables⟩
  exact ⟨t, List.mem_filterMap.mpr ⟨c, isClause, custom⟩, inTables⟩

theorem mem_identifiers_upTo {s : Statement} (nonempty : s.clauses ≠ []) {earlier : List Clause}
    {word : String} (membership : word ∈ identifiers (s.upTo earlier)) (isName : isTableName word = true) :
    (∃ column ∈ s.columns, word ∈ identifiers column) ∨
      ∃ t ∈ earlier.filterMap Clause.custom?, word ∈ t.tables := by
  have ends : endsApart s.head = true := by
    have filled : s.clauses.isEmpty = false := by simpa using nonempty
    unfold head
    simp only [filled, Bool.false_eq_true, if_false]
    exact endsApart_append _ (by decide) (by decide)
  rw [upTo, identifiers_append_of_endsApart _ ends, List.mem_append] at membership
  refine membership.imp (exists_column_of_mem_head · isName) fun inClauses =>
    exists_test_of_mem ?_ isName
  clear membership
  induction earlier with
  | nil => exact absurd inClauses List.not_mem_nil
  | cons c earlier inductionHypothesis =>
      have and : Gap " AND " ["AND"] := by decide
      rw [List.map_cons, String.join_cons,
        identifiers_append_of_endsApart _ (endsApart_append c.text and.nonempty and.ends),
        identifiers_append_of_startsApart _ and.starts, and.eq, List.mem_append, List.mem_append] at inClauses
      rcases inClauses with (inText | keyword) | inRest
      · exact ⟨c, List.mem_cons_self, inText⟩
      · rw [List.mem_singleton.mp keyword] at isName
        cases isName
      · rcases inductionHypothesis inRest with ⟨other, isOther, inOther⟩
        exact ⟨other, List.mem_cons_of_mem _ isOther, inOther⟩

theorem mem_identifiers_onFrom {s : Statement} {later : List Clause} {word : String}
    (membership : word ∈ identifiers (s.onFrom later)) (isName : isTableName word = true) :
    (∃ order ∈ s.orderBy, word ∈ identifiers order) ∨
      ∃ t ∈ later.filterMap Clause.custom?, word ∈ t.tables := by
  rw [onFrom, identifiers_append_of_startsApart _ s.startsApart_tail, List.mem_append] at membership
  refine membership.symm.imp (exists_order_of_mem_tail · isName) fun inClauses =>
    exists_test_of_mem ?_ isName
  clear membership
  induction later with
  | nil => exact absurd inClauses List.not_mem_nil
  | cons c later inductionHypothesis =>
      have and : Gap " AND " ["AND"] := by decide
      have behind : startsApart (String.join (later.map (" AND " ++ ·.text))) = true := by
        cases later with
        | nil => decide
        | cons next later =>
            rw [List.map_cons, String.join_cons, String.append_assoc]
            exact startsApart_append _ and.nonempty and.starts
      rw [List.map_cons, String.join_cons, identifiers_append_of_startsApart _ behind,
        identifiers_append_of_endsApart _ and.ends, and.eq, List.mem_append, List.mem_append] at inClauses
      rcases inClauses with (keyword | inText) | inRest
      · rw [List.mem_singleton.mp keyword] at isName
        cases isName
      · exact ⟨c, List.mem_cons_self, inText⟩
      · rcases inductionHypothesis inRest with ⟨other, isOther, inOther⟩
        exact ⟨other, List.mem_cons_of_mem _ isOther, inOther⟩

/-- Outside of a test its tables are not named, except in what the caller of the statement writes. -/
theorem exists_around {s : Statement} (numbered : (s.customTests.map CustomTest.number).Nodup)
    {t : CustomTest} (isTest : t ∈ s.customTests) :
    ∃ before behind, s.sql = before ++ written t.pieces ++ behind ∧
      ∀ table ∈ t.tables, table ∈ identifiers before ∨ table ∈ identifiers behind →
        (∃ column ∈ s.columns, table ∈ identifiers column) ∨
          ∃ order ∈ s.orderBy, table ∈ identifiers order := by
  rcases List.mem_filterMap.mp isTest with ⟨c, isClause, custom⟩
  rcases List.append_of_mem isClause with ⟨earlier, later, clauses⟩
  rcases c.text_eq_around custom with ⟨front, rest, text, inFront, behind⟩
  have sql := sql_eq_around clauses
  have tests : s.customTests = earlier.filterMap Clause.custom? ++ t :: later.filterMap Clause.custom? := by
    rw [customTests, clauses, List.filterMap_append, List.filterMap_cons_some custom]
  rw [tests, List.map_append, List.map_cons, List.nodup_middle, List.nodup_cons] at numbered
  refine ⟨s.upTo earlier ++ front, rest ++ s.onFrom later, ?_, fun table isTable named => ?_⟩
  · rw [sql, text]
    simp only [String.append_assoc]
  have isName := CustomTest.isTableName_of_mem_tables isTable
  -- a table that is named elsewhere would be one of another test, and so have another number
  have other {t' : CustomTest}
      (isOther : t' ∈ earlier.filterMap Clause.custom? ++ later.filterMap Clause.custom?)
      (inTables : table ∈ t'.tables) : False := by
    rw [← List.map_append, CustomTest.number_eq_of_mem_tables isTable inTables] at numbered
    exact numbered.1 (List.mem_map_of_mem isOther)
  have nowhere {text : String} (surrounds : Surrounds text) (inText : table ∈ identifiers text) : False := by
    have plain := surrounds.plain table inText
    simp [isPlain, isName] at plain
  rw [identifiers_append_of_startsApart _ inFront.starts, identifiers_append_of_endsApart _ behind.ends,
    List.mem_append, List.mem_append] at named
  rcases named with (inUpTo | isFront) | (isRest | inOnFrom)
  · rcases mem_identifiers_upTo (by simp [clauses]) inUpTo isName with column | ⟨t', isOther, inTables⟩
    · exact .inl column
    · exact (other (List.mem_append_left _ isOther) inTables).elim
  · exact (nowhere inFront isFront).elim
  · exact (nowhere behind isRest).elim
  · rcases mem_identifiers_onFrom inOnFrom isName with order | ⟨t', isOther, inTables⟩
    · exact .inr order
    · exact (other (List.mem_append_right _ isOther) inTables).elim

end Statement

/-- The tests among the clauses for comparisons are numbered one after the other. -/
theorem map_number_compareClauses (number : Nat) (conditions : List Condition) :
    ((compareClauses number conditions).filterMap Clause.custom?).map CustomTest.number
      = List.range' number ((compareClauses number conditions).filterMap Clause.custom?).length := by
  induction conditions generalizing number with
  | nil => rfl
  | cons condition rest inductionHypothesis =>
      cases condition with
      | tagged | untagged | text => exact inductionHypothesis number
      | compare key op value =>
          rw [compareClauses, compareClause]
          cases Target.ofKey key with
          | fixed f => exact inductionHypothesis number
          | custom key | either f key =>
              have first := (customTest_eq number key op value).1
              simp only [List.filterMap_cons, Clause.custom?, List.map_cons, List.length_cons,
                List.range'_succ, first, inductionHypothesis]

theorem map_number_customTests (scope : Scope) (conditions : List Condition) :
    ((clauses scope conditions).filterMap Clause.custom?).map CustomTest.number
      = List.range ((clauses scope conditions).filterMap Clause.custom?).length := by
  have inScope : scope.clauses.filterMap Clause.custom? = [] := by cases scope <;> rfl
  have inGroups : ((groups conditions).flatMap (groupClauses conditions)).filterMap Clause.custom? = [] := by
    rw [List.filterMap_eq_nil_iff]
    intro c membership
    rcases List.mem_flatMap.mp membership with ⟨g, -, inGroup⟩
    cases g with
    | tagged =>
        simp only [groupClauses] at inGroup
        split at inGroup
        · exact absurd inGroup List.not_mem_nil
        · rw [List.mem_singleton.mp inGroup]
          rfl
    | untagged =>
        simp only [groupClauses] at inGroup
        split at inGroup <;>
        · rw [List.mem_singleton.mp inGroup]
          rfl
    | text =>
        rw [List.mem_singleton.mp inGroup]
        rfl
  rw [clauses, List.filterMap_append, List.filterMap_append, inScope, inGroups, List.nil_append,
    List.append_nil, map_number_compareClauses, List.range_eq_range']

/-- Values stand where their clauses need them, and tests use tables of their own. `given` are the texts that
the caller of a statement puts into it. -/
structure Aligned (given : List String) (s : Statement) : Prop where
  /-- There is one placeholder for each parameter. -/
  count : marks s.sql = s.parameters.length
  /-- The parameters are the values that the clauses need. -/
  bound : s.parameters = s.uses.map Use.value
  /-- A placeholder stands in the clause that needs the parameter of the same place, in its role. -/
  stands : ∀ place use, s.uses[place]? = some use → s.Stands place use
  /-- The tests have the numbers from zero on. -/
  numbered : s.customTests.map CustomTest.number = List.range s.customTests.length
  /-- The conditions stand between what the options ask for. -/
  parts : s.sql = s.head ++ s.conditions ++ s.tail
  /-- Tables are declared in the order of the tests. -/
  values : following "item_custom_values" (identifiers s.conditions)
    = (List.range s.customTests.length).map valueTable
  keys : following "custom_keys" (identifiers s.conditions)
    = (List.range s.customTests.length).map keyTable
  /-- Nothing is declared twice. -/
  once : (following "item_custom_values" (identifiers s.conditions)
    ++ following "custom_keys" (identifiers s.conditions)).Nodup
  /-- Outside of a test its tables are not named, unless the caller does so. -/
  apart : ∀ t ∈ s.customTests, ∃ before behind, s.sql = before ++ written t.pieces ++ behind ∧
    ∀ table ∈ t.tables, table ∈ identifiers before ∨ table ∈ identifiers behind →
      ∃ text ∈ given, table ∈ identifiers text

theorem aligned_of_numbered {s : Statement} (unmarked : s.Unmarked)
    (numbered : s.customTests.map CustomTest.number = List.range s.customTests.length) {given : List String}
    (columns : ∀ column ∈ s.columns, ∀ table ∈ identifiers column, isTableName table = true →
      ∃ text ∈ given, table ∈ identifiers text)
    (order : ∀ order ∈ s.orderBy, order ∈ given) : Aligned given s := by
  have tables (table : Nat → String) : (s.customTests.map fun t => table t.number)
      = (List.range s.customTests.length).map table := by
    rw [← numbered, List.map_map]
    rfl
  have values := (s.declares_conditions (fun t => t.declares.1) (by decide)).following_eq
  have keys := (s.declares_conditions (fun t => t.declares.2) (by decide)).following_eq
  rw [tables] at values keys
  exact {
    count := unmarked.marks_sql
    bound := s.parameters_eq
    stands := fun _ _ => unmarked.stands
    numbered
    parts := s.sql_eq_head_conditions_tail
    values
    keys
    once := by
      rw [values, keys, List.nodup_append']
      refine ⟨List.nodup_range.map fun _ _ => valueTable_injective,
        List.nodup_range.map fun _ _ => keyTable_injective, fun table isValues isKeys => ?_⟩
      rcases List.mem_map.mp isValues with ⟨number, -, rfl⟩
      rcases List.mem_map.mp isKeys with ⟨other, -, same⟩
      exact valueTable_ne_keyTable number other same.symm
    apart := fun t isTest => by
      have distinct : (s.customTests.map CustomTest.number).Nodup := numbered ▸ List.nodup_range
      rcases Statement.exists_around distinct isTest with ⟨before, behind, sql, named⟩
      refine ⟨before, behind, sql, fun table isTable outside => ?_⟩
      rcases named table isTable outside with ⟨column, isColumn, inColumn⟩ | ⟨text, isOrder, inOrder⟩
      · exact columns column isColumn table inColumn (CustomTest.isTableName_of_mem_tables isTable)
      · exact ⟨text, order text isOrder, inOrder⟩ }

/-- Options of a caller who wants other columns, in another order, of one workplace. -/
def workplaceOptions : Options where
  columns := ["id", "name"]
  orderBy := some "item.name DESC"
  scope := .workplace 7

end SampleLibrary.Query
