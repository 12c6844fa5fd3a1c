import SampleLibrary.Proofs.Query.Running

/-!
# What a query means

`Query.Matches` says without clauses which items a query asks for: every comparison has to hold, one of
the tags has to be there and none of the tags to be without, and all words are looked for together. The
clauses that the conditions are grouped into hold for the same items (`holds_clauses_iff`).
-/

namespace SampleLibrary.Query

/-! ## The meaning of conditions -/

/-- The item carries a tag of this name. -/
def Tagged (t : Tables) (i : Item) (tag : String) : Prop :=
  ∃ l ∈ t.links, l.item = i.id ∧ ∃ r ∈ t.tags, r.id = l.tag ∧ r.name = tag

/-- What a text is compared with in a field: a value of the field's kind if it can be, and otherwise the
text, or the number that it writes. -/
def wantedCell (f : Field) (value : String) : Cell :=
  match (Value.text value).coerce f with
  | .ok v => Cell.ofValue (some v)
  | .error _ => (Cell.text value).toNumeric

def MeetsField (i : Item) (f : Field) (op : Comparison) (value : String) : Prop :=
  (i.cell f).satisfies op (wantedCell f value) = true

/-- A custom value is a text; it is compared as a number where an order with a number is asked for. -/
def CustomValueMeets (op : Comparison) (value stored : String) : Prop :=
  match op.isOrdering, Decimal.readFloat? (Text.trim value.toList) with
  | true, some x => ((Cell.leadingNumber stored).compare? x).any op.holds = true
  | _, _ => op.holds (compare stored value) = true

/-- The item has a custom value under the key, however its letters are written, that compares so. -/
def MeetsCustom (t : Tables) (i : Item) (key : String) (op : Comparison) (value : String) : Prop :=
  ∃ c ∈ t.customs, c.item = i.id ∧
    (∃ k ∈ t.keys, k.id = c.key ∧ sameIgnoringCase k.name key = true) ∧
    ∃ stored, c.value = some stored ∧ CustomValueMeets op value stored

def Meets (t : Tables) (i : Item) (key : String) (op : Comparison) (value : String) : Prop :=
  match Target.ofKey key with
  | .fixed f => MeetsField i f op value
  | .custom key => MeetsCustom t i key op value
  | .either f key => MeetsField i f op value ∨ MeetsCustom t i key op value

def MatchesDocument (t : Tables) (i : Item) (expression : String) : Prop :=
  ∃ phrases, FullText.phrases expression = .ok phrases ∧
    ∃ d ∈ t.documents, d.item = i.id ∧ FullText.found phrases d.content = true

/-- The texts that conditions look for, in order. -/
def texts (conditions : List Condition) : List String :=
  conditions.filterMap fun c =>
    match c with
    | .text text => some text
    | _ => none

def expression (conditions : List Condition) : String :=
  Text.join " " ((texts conditions).map searchTerm)

def Scope.Contains : Scope → Item → Prop
  | .library, i => i.workplace = .empty
  | .workplace id, i => i.workplace.satisfies .eq (.integer id) = true
  | .all, _ => True

/-- The query asks for the item. -/
structure Matches (t : Tables) (scope : Scope) (conditions : List Condition) (i : Item) : Prop where
  inScope : scope.Contains i
  compared : ∀ key op value, .compare key op value ∈ conditions → Meets t i key op value
  tagged : (∃ tag, .tagged tag ∈ conditions) → .tagged Tag.root ∉ conditions →
    ∃ tag, .tagged tag ∈ conditions ∧ Tagged t i tag
  notAllUntagged : .untagged Tag.root ∉ conditions
  untagged : ∀ tag, .untagged tag ∈ conditions → ¬ Tagged t i tag
  worded : texts conditions ≠ [] → MatchesDocument t i (expression conditions)

/-- The order of tags and comparisons does not matter. -/
theorem Matches.perm {t : Tables} {scope : Scope} {conditions others : List Condition} {i : Item}
    (sameConditions : conditions.Perm others) (sameTexts : texts conditions = texts others)
    (isMatch : Matches t scope conditions i) : Matches t scope others i where
  inScope := isMatch.inScope
  compared key op value condition := isMatch.compared key op value (sameConditions.mem_iff.mpr condition)
  tagged := by
    simp only [← sameConditions.mem_iff]
    exact isMatch.tagged
  notAllUntagged condition := isMatch.notAllUntagged (sameConditions.mem_iff.mpr condition)
  untagged tag condition := isMatch.untagged tag (sameConditions.mem_iff.mpr condition)
  worded := by
    rw [expression, ← sameTexts]
    exact isMatch.worded

theorem mem_texts {conditions : List Condition} {text : String} :
    text ∈ texts conditions ↔ .text text ∈ conditions := by
  unfold texts
  rw [List.mem_filterMap]
  constructor
  · rintro ⟨c, condition, isText⟩
    cases c with
    | text other =>
        cases isText
        exact condition
    | tagged tag => cases isText
    | untagged tag => cases isText
    | compare key op value => cases isText
  · intro condition
    exact ⟨.text text, condition, rfl⟩

/-! ## Comparisons -/

section Comparisons

variable {t : Tables} {i : Item}

/-- The cell that a test compares with is the one that is wanted. -/
theorem holds_fixedTest (i : Item) (f : Field) (op : Comparison) (value : String) :
    (fixedTest f op value).holds i = true ↔ MeetsField i f op value := by
  unfold MeetsField wantedCell fixedTest FixedTest.holds Value.coerce
  cases kind : f.kind with
  | text => simp [kind, Value.toText, Cell.ofValue, Cell.toTextColumn]
  | integer =>
      cases number : Decimal.readInt64? (Text.trim value.toList) with
      | none => simp [kind, Value.read?, number, Cell.ofValue]
      | some n => simp [kind, Value.read?, number, Cell.ofValue, Cell.toNumeric]
  | float =>
      cases number : Decimal.readFloat? (Text.trim value.toList) with
      | none => simp [kind, Value.read?, number, Cell.ofValue]
      | some x => cases x <;> simp [kind, Value.read?, number, Cell.ofValue, Cell.toNumeric]

/-- What is no number compares with nothing, as a cell and as a float. -/
theorem satisfies_float (a x : Binary64) (op : Comparison) :
    (Cell.real a).satisfies op (Cell.ofValue (some (.float x))) = (a.compare? x).any op.holds := by
  cases x with
  | nan => cases a <;> rfl
  | signed negative rank => rfl

theorem holds_customValue (number : Nat) (key : String) (op : Comparison) (value stored : String) :
    (customTest number key op value).value.holds op stored = true ↔
      CustomValueMeets op value stored := by
  unfold customTest CustomValueMeets
  cases op.isOrdering with
  | false => simp [CustomValue.holds, Cell.satisfies, Cell.compare?]
  | true =>
      cases Decimal.readFloat? (Text.trim value.toList) with
      | none => simp [CustomValue.holds, Cell.satisfies, Cell.compare?]
      | some x =>
          simp only [Option.filter_some, if_true, CustomValue.holds, satisfies_float]

theorem holds_customTest (number : Nat) (key : String) (op : Comparison) (value : String) :
    (customTest number key op value).holds t i = true ↔ MeetsCustom t i key op value := by
  have sameOp : (customTest number key op value).op = op := by
    unfold customTest
    split <;> rfl
  have sameKey : (customTest number key op value).key = key := by
    unfold customTest
    split <;> rfl
  unfold CustomTest.holds MeetsCustom
  simp only [sameOp, sameKey, List.any_eq_true, Bool.and_eq_true, beq_iff_eq, Option.any_eq_true,
    holds_customValue, and_assoc]

theorem holds_compareClause (number : Nat) (key : String) (op : Comparison) (value : String) :
    (compareClause number key op value).1.holds t i = true ↔ Meets t i key op value := by
  unfold compareClause Meets
  cases Target.ofKey key with
  | fixed f => exact holds_fixedTest i f op value
  | custom key => exact holds_customTest number key op value
  | either f key =>
      dsimp only [Clause.holds]
      rw [Bool.or_eq_true, holds_fixedTest, holds_customTest]

/-- All comparisons hold; the numbers in their clauses do not matter. -/
theorem holds_compareClauses (number : Nat) (conditions : List Condition) :
    (∀ clause ∈ compareClauses number conditions, clause.holds t i = true) ↔
      ∀ key op value, .compare key op value ∈ conditions → Meets t i key op value := by
  induction conditions generalizing number with
  | nil => simp [compareClauses]
  | cons condition conditions inductionHypothesis =>
      cases condition with
      | compare key op value =>
          simp only [compareClauses, List.forall_mem_cons, holds_compareClause, inductionHypothesis]
          constructor
          · rintro ⟨first, later⟩ key' op' value' membership
            rcases List.mem_cons.mp membership with same | membership
            · cases same
              exact first
            · exact later key' op' value' membership
          · intro all
            exact ⟨all key op value List.mem_cons_self,
              fun key' op' value' membership => all key' op' value' (List.mem_cons_of_mem _ membership)⟩
      | tagged tag => simp [compareClauses, inductionHypothesis]
      | untagged tag => simp [compareClauses, inductionHypothesis]
      | text text => simp [compareClauses, inductionHypothesis]

theorem isReadable_compareClauses (number : Nat) (conditions : List Condition) :
    ∀ clause ∈ compareClauses number conditions, clause.isReadable = true := by
  induction conditions generalizing number with
  | nil => simp [compareClauses]
  | cons condition conditions inductionHypothesis =>
      cases condition with
      | compare key op value =>
          have first : (compareClause number key op value).1.isReadable = true := by
            unfold compareClause
            cases Target.ofKey key <;> rfl
          rw [compareClauses, List.forall_mem_cons]
          exact ⟨first, inductionHypothesis _⟩
      | tagged tag => simpa [compareClauses] using inductionHypothesis number
      | untagged tag => simpa [compareClauses] using inductionHypothesis number
      | text text => simpa [compareClauses] using inductionHypothesis number

end Comparisons

/-! ## Groups -/

section Groups

variable {t : Tables} {i : Item} {conditions : List Condition}

theorem mem_foldl_add {seen new : List Group} {g : Group} :
    g ∈ new.foldl (fun seen g => if seen.contains g then seen else seen ++ [g]) seen ↔
      g ∈ seen ∨ g ∈ new := by
  induction new generalizing seen with
  | nil => simp
  | cons h new inductionHypothesis =>
      rw [List.foldl_cons, inductionHypothesis]
      by_cases known : seen.contains h = true
      · rw [if_pos known]
        rw [List.contains_iff_mem] at known
        constructor
        · rintro (old | later)
          · exact .inl old
          · exact .inr (List.mem_cons_of_mem _ later)
        · rintro (old | membership)
          · exact .inl old
          · rcases List.mem_cons.mp membership with rfl | later
            · exact .inl known
            · exact .inr later
      · rw [if_neg known, List.mem_append, List.mem_singleton, List.mem_cons, or_assoc]

/-- The condition of a group that asks for a word. -/
def Group.ask : Group → String → Condition
  | .tagged => .tagged
  | .untagged => .untagged
  | .text => .text

theorem mem_groups {g : Group} : g ∈ groups conditions ↔ ∃ word, g.ask word ∈ conditions := by
  rw [groups, mem_foldl_add, List.mem_filterMap]
  constructor
  · rintro (old | ⟨c, condition, group⟩)
    · cases old
    · cases c <;> cases group <;> exact ⟨_, condition⟩
  · rintro ⟨word, condition⟩
    exact .inr ⟨_, condition, by cases g <;> rfl⟩

theorem mem_tagNames {g : Group} (notText : g ≠ .text) {tag : String} :
    tag ∈ tagNames g conditions ↔ g.ask tag ∈ conditions := by
  rw [tagNames, Std.ExtTreeSet.mem_toList, Std.ExtTreeSet.mem_ofList, List.contains_iff_mem,
    List.mem_filterMap]
  constructor
  · rintro ⟨c, condition, named⟩
    cases g <;> cases c <;> cases named <;> exact condition
  · intro condition
    cases g with
    | tagged => exact ⟨_, condition, rfl⟩
    | untagged => exact ⟨_, condition, rfl⟩
    | text => exact absurd rfl notText

theorem carriesAny_iff {names : List String} :
    carriesAny t i names = true ↔ ∃ tag ∈ names, Tagged t i tag := by
  simp only [carriesAny, Tagged, List.any_eq_true, Bool.and_eq_true, beq_iff_eq, List.contains_iff_mem]
  constructor
  · rintro ⟨l, link, sameItem, r, row, sameTag, named⟩
    exact ⟨r.name, named, l, link, sameItem, r, row, sameTag, rfl⟩
  · rintro ⟨tag, named, l, link, sameItem, r, row, sameTag, rfl⟩
    exact ⟨l, link, sameItem, r, row, sameTag, named⟩

theorem hasPhrases_iff {expression : String} :
    hasPhrases t i expression = true ↔ MatchesDocument t i expression := by
  unfold hasPhrases MatchesDocument
  cases FullText.phrases expression with
  | error e => simp
  | ok phrases => simp

/-- The root among the tags to include leaves out the clause. -/
theorem holds_tagged :
    (∀ clause ∈ groupClauses conditions .tagged, clause.holds t i = true) ↔
      (.tagged Tag.root ∉ conditions → ∃ tag, .tagged tag ∈ conditions ∧ Tagged t i tag) := by
  unfold groupClauses
  by_cases root : Condition.tagged Tag.root ∈ conditions
  · simp [mem_tagNames, Group.ask, root]
  · simp [mem_tagNames, Group.ask, root, Clause.holds, carriesAny_iff]

/-- The root among the tags to exclude leaves nothing over. -/
theorem holds_untagged :
    (∀ clause ∈ groupClauses conditions .untagged, clause.holds t i = true) ↔
      .untagged Tag.root ∉ conditions ∧ ∀ tag, .untagged tag ∈ conditions → ¬ Tagged t i tag := by
  unfold groupClauses
  by_cases root : Condition.untagged Tag.root ∈ conditions
  · simp [mem_tagNames, Group.ask, root, Clause.holds]
  · have none : carriesAny t i (tagNames .untagged conditions) = false ↔
        ∀ tag, .untagged tag ∈ conditions → ¬ Tagged t i tag := by
      rw [← Bool.not_eq_true, carriesAny_iff, not_exists]
      simp [mem_tagNames, Group.ask]
    simp [mem_tagNames, Group.ask, root, Clause.holds, none]

theorem groupClauses_text : groupClauses conditions .text = [.words (expression conditions)] := by
  unfold groupClauses expression texts
  rw [List.map_filterMap]
  dsimp only
  congr 3
  refine List.filterMap_congr fun c _ => ?_
  cases c <;> rfl

theorem holds_text :
    (∀ clause ∈ groupClauses conditions .text, clause.holds t i = true) ↔
      MatchesDocument t i (expression conditions) := by
  rw [groupClauses_text, List.forall_mem_singleton]
  exact hasPhrases_iff

theorem holds_scope (scope : Scope) :
    (∀ clause ∈ scope.clauses, clause.holds t i = true) ↔ scope.Contains i := by
  cases scope <;> simp [Scope.clauses, Scope.Contains, Clause.holds, Item.inLibrary]

/-- The clauses of a query hold for the items that it asks for. -/
theorem holds_clauses_iff (scope : Scope) :
    ((clauses scope conditions).all fun c => c.holds t i) = true ↔
      Matches t scope conditions i := by
  rw [List.all_eq_true, clauses]
  simp only [List.forall_mem_append, holds_scope, holds_compareClauses, List.mem_flatMap,
    forall_exists_index, and_imp]
  constructor
  · rintro ⟨⟨inScope, compared⟩, grouped⟩
    have holds (g : Group) (there : g ∈ groups conditions) :
        ∀ clause ∈ groupClauses conditions g, clause.holds t i = true :=
      fun clause isClause => grouped clause g there isClause
    refine ⟨inScope, compared, ?_, ?_, ?_, ?_⟩
    · intro some
      exact holds_tagged.mp (holds .tagged (mem_groups.mpr some))
    · intro root
      exact (holds_untagged.mp (holds .untagged (mem_groups.mpr ⟨_, root⟩))).1 root
    · intro tag condition
      exact (holds_untagged.mp (holds .untagged (mem_groups.mpr ⟨_, condition⟩))).2 tag
        condition
    · intro some
      rcases List.exists_mem_of_ne_nil _ some with ⟨text, isText⟩
      exact holds_text.mp (holds .text (mem_groups.mpr ⟨text, mem_texts.mp isText⟩))
  · intro isMatch
    refine ⟨⟨isMatch.inScope, isMatch.compared⟩, fun clause g there isClause => ?_⟩
    cases g with
    | tagged =>
        exact holds_tagged.mpr (isMatch.tagged (mem_groups.mp there)) clause isClause
    | untagged =>
        exact holds_untagged.mpr ⟨isMatch.notAllUntagged, isMatch.untagged⟩ clause isClause
    | text =>
        rcases mem_groups.mp there with ⟨text, condition⟩
        exact holds_text.mpr (isMatch.worded (List.ne_nil_of_mem (mem_texts.mpr condition))) clause
          isClause

theorem isReadable_groupClauses {g : Group} (notText : g ≠ .text) :
    ∀ clause ∈ groupClauses conditions g, clause.isReadable = true := by
  intro clause isClause
  unfold groupClauses at isClause
  cases g with
  | text => exact absurd rfl notText
  | tagged =>
      dsimp only at isClause
      split at isClause
      · cases isClause
      · rw [List.mem_singleton.mp isClause]
        rfl
  | untagged =>
      dsimp only at isClause
      split at isClause <;>
        · rw [List.mem_singleton.mp isClause]
          rfl

/-- Only the search expression can be one that cannot be read. -/
theorem isReadable_clauses (scope : Scope) :
    (clauses scope conditions).all Clause.isReadable = true ↔
      (texts conditions ≠ [] → (FullText.phrases (expression conditions)).toOption.isSome = true) := by
  have inScope : ∀ clause ∈ scope.clauses, clause.isReadable = true := by
    cases scope <;> simp [Scope.clauses, Clause.isReadable]
  have compared : ∀ clause ∈ compareClauses 0 conditions, clause.isReadable = true :=
    isReadable_compareClauses 0 conditions
  rw [List.all_eq_true, clauses]
  simp only [List.forall_mem_append, List.mem_flatMap, forall_exists_index, and_imp]
  constructor
  · rintro ⟨-, readable⟩ some
    rcases List.exists_mem_of_ne_nil _ some with ⟨text, isText⟩
    exact readable (.words (expression conditions)) .text (mem_groups.mpr ⟨text, mem_texts.mp isText⟩)
      (by rw [groupClauses_text]; exact List.mem_singleton_self _)
  · intro readable
    refine ⟨⟨inScope, compared⟩, fun clause g there isClause => ?_⟩
    by_cases isText : g = .text
    · subst isText
      rcases mem_groups.mp there with ⟨text, condition⟩
      rw [groupClauses_text] at isClause
      rw [List.mem_singleton.mp isClause]
      exact readable (List.ne_nil_of_mem (mem_texts.mpr condition))
    · exact isReadable_groupClauses isText clause isClause

end Groups

end SampleLibrary.Query
