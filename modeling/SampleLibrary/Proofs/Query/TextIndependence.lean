import SampleLibrary.Query.Completion
import Mathlib.Data.List.Basic
import Mathlib.Data.Finset.Card

/-!
# The SQL of a statement does not depend on the text of a query

Two runs of the compiler are compared. Their conditions are `Alike`: they ask for the same kinds of things
in the same places, and only names, keys and values differ. What is written before values are bound is the
`shape` of the pieces, and every builder gives like conditions the same shape. So the SQL of both runs is
the same text (`sql_independent`).
-/

namespace SampleLibrary.Query

/-! ## Conditions that differ in their texts -/

/-- Targets of the same kind and with the same field. -/
inductive Target.Alike : Target → Target → Prop
  | fixed (f : Field) : Alike (.fixed f) (.fixed f)
  | custom (key other : String) : Alike (.custom key) (.custom other)
  | either (f : Field) (key other : String) : Alike (.either f key) (.either f other)

/-- Does the comparison put numbers in order? -/
def Comparison.ordersNumber (op : Comparison) (value : String) : Bool :=
  op.isOrdering && (Decimal.readFloat? (Text.trim value.toList)).isSome

inductive Condition.Alike : Condition → Condition → Prop
  | tagged (tag other : String) : Alike (.tagged tag) (.tagged other)
  | untagged (tag other : String) : Alike (.untagged tag) (.untagged other)
  | compare {key key' value value' : String} (op : Comparison)
      (targets : Target.Alike (.ofKey key) (.ofKey key'))
      (numbers : op.ordersNumber value = op.ordersNumber value') :
      Alike (.compare key op value) (.compare key' op value')
  | text (text other : String) : Alike (.text text) (.text other)

/-- Scopes of the same kind; which workplace is meant may differ. -/
inductive Scope.Alike : Scope → Scope → Prop
  | library : Alike .library .library
  | workplace (id other : Int64) : Alike (.workplace id) (.workplace other)
  | all : Alike .all .all

/-- The tag that a condition names, if it belongs to the group. -/
def Group.tag? : Group → Condition → Option String
  | .tagged, .tagged tag => some tag
  | .untagged, .untagged tag => some tag
  | _, _ => none

/-- The tags that the conditions of a group name. -/
def namedTags (g : Group) (conditions : List Condition) : Finset String :=
  (conditions.filterMap g.tag?).toFinset

/-- The conditions are of the same kinds one by one, name as many tags to include and as many to exclude,
and agree on whether the root is among them. -/
structure Alike (conditions others : List Condition) : Prop where
  each : List.Forall₂ Condition.Alike conditions others
  count : ∀ g, (namedTags g conditions).card = (namedTags g others).card
  root : ∀ g, Tag.root ∈ namedTags g conditions ↔ Tag.root ∈ namedTags g others

/-! ## Tags -/

theorem tagNames_eq (g : Group) (conditions : List Condition) :
    tagNames g conditions = (Std.ExtTreeSet.ofList (conditions.filterMap g.tag?)).toList := by
  unfold tagNames
  congr 2

theorem nodup_tagNames (g : Group) (conditions : List Condition) : (tagNames g conditions).Nodup := by
  refine (Std.ExtTreeSet.distinct_toList).imp fun {a b} differ same => ?_
  subst same
  exact differ Std.ReflCmp.compare_self

theorem toFinset_tagNames (g : Group) (conditions : List Condition) :
    (tagNames g conditions).toFinset = namedTags g conditions := by
  ext tag
  rw [tagNames_eq, List.mem_toFinset, Std.ExtTreeSet.mem_toList, Std.ExtTreeSet.mem_ofList,
    List.contains_iff_mem, namedTags, List.mem_toFinset]

/-! ## Shapes -/

/-- What a piece shows before values are bound: its text, and of a value nothing. -/
def Piece.shape : Piece → Option String
  | .sql text => some text
  | .value _ => none

theorem Piece.text_eq (p : Piece) : p.text = p.shape.getD "?" := by cases p <;> rfl

def Clause.shape (c : Clause) : List (Option String) := c.pieces.map Piece.shape

theorem map_shape_joinPieces (between : String) (pss : List (List Piece)) :
    (joinPieces between pss).map Piece.shape
      = [some between].intercalate (pss.map (List.map Piece.shape)) := by
  induction pss with
  | nil => rfl
  | cons ps rest inductionHypothesis =>
      cases rest with
      | nil => simp [joinPieces, List.intercalate]
      | cons qs rest =>
          have step : joinPieces between (ps :: qs :: rest)
              = ps ++ .sql between :: joinPieces between (qs :: rest) := rfl
          rw [step, List.map_append, List.map_cons, inductionHypothesis]
          simp [List.intercalate, Piece.shape]

def CustomValue.isNumber : CustomValue → Bool
  | .text _ => false
  | .number _ => true

/-- Of tags only their number shows. -/
theorem map_shape_taggedPieces {tags others : List String} (same : tags.length = others.length) :
    (taggedPieces tags).map Piece.shape = (taggedPieces others).map Piece.shape := by
  have unnamed (tags : List String) :
      (tags.map fun tag => [Piece.value (.text tag)]).map (List.map Piece.shape)
        = List.replicate tags.length [none] := by
    rw [List.map_map]
    exact List.map_eq_replicate_iff.mpr fun _ _ => rfl
  simp only [taggedPieces, List.map_append, List.map_cons, map_shape_joinPieces, unnamed, same]

theorem map_shape_fixedTest (f : Field) (op : Comparison) (value value' : String) :
    (fixedTest f op value).pieces.map Piece.shape = (fixedTest f op value').pieces.map Piece.shape := by
  have shown (value : String) : (fixedTest f op value).pieces.map Piece.shape
      = [some ("item." ++ f.toName ++ " " ++ op.sign ++ " "), none] := by
    unfold fixedTest
    cases (Value.text value).coerce f <;> rfl
  rw [shown, shown]

theorem customTest_eq (number : Nat) (key : String) (op : Comparison) (value : String) :
    (customTest number key op value).number = number ∧ (customTest number key op value).op = op ∧
      (customTest number key op value).value.isNumber = op.ordersNumber value := by
  unfold customTest Comparison.ordersNumber
  cases op.isOrdering with
  | false => simp [CustomValue.isNumber]
  | true =>
      cases Decimal.readFloat? (Text.trim value.toList) <;>
        simp [Option.filter, CustomValue.isNumber]

/-- Whether a value is bound as a number shows, and nothing else of it. -/
theorem CustomTest.map_shape_pieces {s t : CustomTest} (number : s.number = t.number) (op : s.op = t.op)
    (kind : s.value.isNumber = t.value.isNumber) :
    s.pieces.map Piece.shape = t.pieces.map Piece.shape := by
  unfold pieces
  rw [number, op]
  cases first : s.value <;> cases second : t.value <;>
    simp_all [CustomValue.isNumber, Piece.shape]

theorem map_shape_customTest (number : Nat) (key key' : String) {op : Comparison} {value value' : String}
    (numbers : op.ordersNumber value = op.ordersNumber value') :
    (customTest number key op value).pieces.map Piece.shape
      = (customTest number key' op value').pieces.map Piece.shape := by
  obtain ⟨number₁, op₁, kind₁⟩ := customTest_eq number key op value
  obtain ⟨number₂, op₂, kind₂⟩ := customTest_eq number key' op value'
  apply CustomTest.map_shape_pieces
  · rw [number₁, number₂]
  · rw [op₁, op₂]
  · rw [kind₁, kind₂, numbers]

/-! ## Clauses -/

/-- Both runs give the clause the same shape, and the next table the same number. -/
theorem shape_compareClause (number : Nat) {key key' value value' : String} {op : Comparison}
    (targets : Target.Alike (.ofKey key) (.ofKey key'))
    (numbers : op.ordersNumber value = op.ordersNumber value') :
    (compareClause number key op value).1.shape = (compareClause number key' op value').1.shape ∧
      (compareClause number key op value).2 = (compareClause number key' op value').2 := by
  unfold compareClause
  generalize Target.ofKey key = target at targets
  generalize Target.ofKey key' = target' at targets
  cases targets with
  | fixed f => exact ⟨map_shape_fixedTest f op value value', rfl⟩
  | custom key key' => exact ⟨map_shape_customTest number key key' numbers, rfl⟩
  | either f key key' =>
      refine ⟨?_, rfl⟩
      simp only [Clause.shape, Clause.pieces, List.map_append, List.map_cons,
        map_shape_fixedTest f op value value', map_shape_customTest number key key' numbers]

theorem map_shape_compareClauses {conditions others : List Condition}
    (alike : List.Forall₂ Condition.Alike conditions others) (number : Nat) :
    (compareClauses number conditions).map Clause.shape
      = (compareClauses number others).map Clause.shape := by
  induction alike generalizing number with
  | nil => rfl
  | cons first _ inductionHypothesis =>
      cases first with
      | tagged => exact inductionHypothesis number
      | untagged => exact inductionHypothesis number
      | text => exact inductionHypothesis number
      | compare op targets numbers =>
          rcases shape_compareClause number targets numbers with ⟨clause, next⟩
          rw [compareClauses, compareClauses, List.map_cons, List.map_cons, clause, next]
          exact congrArg _ (inductionHypothesis _)

theorem groups_eq {conditions others : List Condition}
    (alike : List.Forall₂ Condition.Alike conditions others) : groups conditions = groups others := by
  have same : conditions.filterMap Condition.group? = others.filterMap Condition.group? := by
    induction alike with
    | nil => rfl
    | cons first _ inductionHypothesis =>
        cases first <;> simpa [List.filterMap_cons, Condition.group?] using inductionHypothesis
  rw [groups, groups, same]

namespace Alike

variable {conditions others : List Condition} (alike : Alike conditions others)
include alike

theorem length_tagNames (g : Group) :
    (tagNames g conditions).length = (tagNames g others).length := by
  have count := alike.count g
  rwa [← toFinset_tagNames, ← toFinset_tagNames, List.toFinset_card_of_nodup (nodup_tagNames _ _),
    List.toFinset_card_of_nodup (nodup_tagNames _ _)] at count

theorem root_mem_tagNames (g : Group) :
    Tag.root ∈ tagNames g conditions ↔ Tag.root ∈ tagNames g others := by
  simpa only [← toFinset_tagNames, List.mem_toFinset] using alike.root g

/-- The root decides whether there is a clause for tags; if there is one, the number of tags does the
rest. -/
theorem map_shape_groupClauses (g : Group) :
    (groupClauses conditions g).map Clause.shape = (groupClauses others g).map Clause.shape := by
  have tags := map_shape_taggedPieces (alike.length_tagNames g)
  cases g with
  | tagged =>
      simp only [groupClauses, List.contains_iff_mem, alike.root_mem_tagNames]
      split
      · rfl
      · simp only [List.map_cons, List.map_nil, Clause.shape, Clause.pieces, tags]
  | untagged =>
      simp only [groupClauses, List.contains_iff_mem, alike.root_mem_tagNames]
      split
      · rfl
      · simp only [List.map_cons, List.map_nil, Clause.shape, Clause.pieces, tags]
  | text => rfl

theorem map_shape_clauses {scope scope' : Scope} (scopes : Scope.Alike scope scope') :
    (clauses scope conditions).map Clause.shape = (clauses scope' others).map Clause.shape := by
  have inScope : scope.clauses.map Clause.shape = scope'.clauses.map Clause.shape := by
    cases scopes <;> rfl
  simp only [clauses, List.map_append, List.map_flatMap, inScope, groups_eq alike.each,
    map_shape_compareClauses alike.each, alike.map_shape_groupClauses]

end Alike

/-! ## Statements -/

/-- Clauses of the same shapes are written alike. -/
theorem Statement.map_shape_pieces {s t : Statement} (columns : s.columns = t.columns)
    (documents : s.withDocuments = t.withDocuments)
    (clauses : s.clauses.map Clause.shape = t.clauses.map Clause.shape)
    (order : s.orderBy = t.orderBy) (limit : s.limit = t.limit) :
    s.pieces.map Piece.shape = t.pieces.map Piece.shape := by
  have none : s.clauses.isEmpty = t.clauses.isEmpty := by
    have shapes := congrArg List.isEmpty clauses
    rwa [List.isEmpty_map, List.isEmpty_map] at shapes
  have joined : (joinPieces " AND " (s.clauses.map Clause.pieces)).map Piece.shape
      = (joinPieces " AND " (t.clauses.map Clause.pieces)).map Piece.shape := by
    have shapes (clauses : List Clause) :
        (clauses.map Clause.pieces).map (List.map Piece.shape) = clauses.map Clause.shape := by
      rw [List.map_map]
      rfl
    rw [map_shape_joinPieces, map_shape_joinPieces, shapes, shapes, clauses]
  unfold pieces
  rw [columns, documents, none, order, limit]
  simp only [List.map_append, List.map_cons, apply_ite (List.map Piece.shape), joined]

theorem Statement.sql_eq {s t : Statement} (same : s.pieces.map Piece.shape = t.pieces.map Piece.shape) :
    s.sql = t.sql := by
  have shown (ps : List Piece) : ps.map Piece.text = (ps.map Piece.shape).map (·.getD "?") := by
    rw [List.map_map]
    exact List.map_congr_left fun p _ => p.text_eq
  rw [sql, sql, shown, shown, same]

/-- Whatever texts two queries name, and whatever words two completions are asked for, the SQL is the
same. -/
theorem sql_independent (options : Options) {scope scope' : Scope} (scopes : Scope.Alike scope scope') :
    (∀ conditions others, Alike conditions others →
      (statement conditions { options with scope }).sql
        = (statement others { options with scope := scope' }).sql) ∧
    ∀ c d : Completion, Alike c.base d.base →
      (c.statement { options with scope }).sql = (d.statement { options with scope := scope' }).sql := by
  constructor
  · intro conditions others alike
    exact Statement.sql_eq (Statement.map_shape_pieces rfl rfl (alike.map_shape_clauses scopes) rfl rfl)
  · intro c d alike
    refine Statement.sql_eq (Statement.map_shape_pieces rfl rfl ?_ rfl rfl)
    simp only [Completion.statement, List.map_append, alike.map_shape_clauses scopes]
    rfl

/-- A query whose texts are plain words, and one whose texts are made to look like SQL. -/
def plainConditions : List Condition :=
  [.tagged "drums", .compare "duration" .gt "2", .text "kick", .untagged "loop",
    .compare "mood" .lt "soft"]

def hostileConditions : List Condition :=
  [.tagged "'); DROP TABLE items; --", .compare "duration" .gt " 1e3 ", .text "\" OR 1=1 --",
    .untagged "?", .compare "x.value" .lt "0 OR 1=1"]

theorem alike_hostileConditions : Alike plainConditions hostileConditions where
  each := by
    refine .cons (.tagged _ _) (.cons (.compare _ ?_ ?_) (.cons (.text _ _) (.cons (.untagged _ _)
      (.cons (.compare _ ?_ ?_) .nil))))
    · exact .either .duration _ _
    · decide
    · exact .custom _ _
    · decide
  count g := by cases g <;> decide
  root g := by cases g <;> decide

/-- A completion of the last of some words. -/
def completionOf (base : List Condition) (words : List String) : Completion where
  base
  text := Text.join " " words
  start := 0
  typed := Text.join " " words
  words
  quoted := false
  nextWord := false

theorem sql_independent_hostile :
    (statement plainConditions {}).sql = (statement hostileConditions {}).sql ∧
      ((completionOf plainConditions ["ki"]).statement {}).sql
        = ((completionOf hostileConditions ["\" OR \"", "--"]).statement {}).sql :=
  have independent := sql_independent {} .library
  ⟨independent.1 plainConditions hostileConditions alike_hostileConditions,
    independent.2 (completionOf plainConditions ["ki"])
      (completionOf hostileConditions ["\" OR \"", "--"]) alike_hostileConditions⟩

end SampleLibrary.Query
