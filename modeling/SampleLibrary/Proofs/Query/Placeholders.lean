import Mathlib.Algebra.GroupWithZero.Nat
import SampleLibrary.Query.Completion
import SampleLibrary.Proofs.Decimal.Digits

/-!
# Placeholders and the values that they stand for

Values are bound to the placeholders of a statement by their order alone. What each value is for is told
from the clauses, by `Clause.bindings`, and does not look at how they are written. The text of each clause
`Reads` in the roles of its bindings: each placeholder directly follows the text that gives it its role.
Texts that read are put together, so that the placeholders of a whole statement are met in the order of
its values (`Statement.stands`).
-/

namespace SampleLibrary.Query

/-! ## Question marks -/

/-- The number of placeholders in a text. -/
def marks (text : String) : Nat := text.toList.count '?'

@[simp]
theorem marks_append (front rest : String) : marks (front ++ rest) = marks front + marks rest := by
  simp [marks]

theorem marks_eq_zero {text : String} : marks text = 0 ↔ '?' ∉ text.toList := List.count_eq_zero

theorem marks_join (texts : List String) : marks (String.join texts) = (texts.map marks).sum := by
  induction texts with
  | nil => rfl
  | cons text texts inductionHypothesis => simp [inductionHypothesis]

theorem marks_toString (n : Nat) : marks (toString n) = 0 := by
  refine marks_eq_zero.mpr fun membership => ?_
  rw [Decimal.toList_toString] at membership
  exact absurd (Decimal.isDecimal_of_mem_natDigits membership) (by decide)

theorem marks_toName (f : Field) : marks f.toName = 0 := by cases f <;> decide +kernel

theorem marks_sign (op : Comparison) : marks op.sign = 0 := by cases op <;> decide +kernel

/-- A text among joined ones, with what is in front of it and what is behind it. -/
theorem join_around (between : String) (earlier : List String) (text : String) (later : List String) :
    Text.join between (earlier ++ text :: later)
      = String.join (earlier.map (· ++ between)) ++ text ++ String.join (later.map (between ++ ·)) := by
  induction earlier with
  | nil =>
      induction later generalizing text with
      | nil => simp [Text.join]
      | cons next later inductionHypothesis =>
          have rest := inductionHypothesis next
          simp_all [Text.join, String.append_assoc]
  | cons first earlier inductionHypothesis =>
      have apart : earlier ++ text :: later ≠ [] := by simp
      rw [Text.join] at inductionHypothesis ⊢
      rw [List.cons_append, String.intercalate_cons_of_ne_nil apart, inductionHypothesis]
      simp [String.append_assoc]

theorem marks_joined {between : String} (unmarked : marks between = 0) (texts : List String) :
    marks (Text.join between texts) = (texts.map marks).sum := by
  cases texts with
  | nil => rfl
  | cons text texts =>
      have around := join_around between [] text texts
      rw [List.nil_append] at around
      simp [around, marks_join, Function.comp_def, unmarked]

/-! ## Roles -/

/-- The names of the tables of a custom test, for its values and for its keys. -/
def valueTable (number : Nat) : String := "icv" ++ toString number

def keyTable (number : Nat) : String := "ck" ++ toString number

theorem marks_valueTable (number : Nat) : marks (valueTable number) = 0 := by
  rw [valueTable, marks_append, marks_toString]
  decide +kernel

theorem marks_keyTable (number : Nat) : marks (keyTable number) = 0 := by
  rw [keyTable, marks_append, marks_toString]
  decide +kernel

/-- What a value is for in its clause. Tables of a custom test have its number, and a tag name its place
among the tags of the clause. -/
inductive Role where
  | workplace
  | fixedValue (field : Field) (op : Comparison)
  | customKey (number : Nat)
  | customText (number : Nat) (op : Comparison)
  | customNumber (number : Nat) (op : Comparison)
  | tagName (place : Nat)
  | matching
  deriving Repr, DecidableEq

/-- The text directly in front of the placeholder of a value in this role. -/
def Role.lead : Role → String
  | .workplace => "item.workplace_id = "
  | .fixedValue f op => "item." ++ f.toName ++ " " ++ op.sign ++ " "
  | .customKey n => keyTable n ++ ".name = "
  | .customText n op => valueTable n ++ ".value " ++ op.sign ++ " "
  | .customNumber n op => "CAST(" ++ valueTable n ++ ".value AS REAL) " ++ op.sign ++ " "
  | .tagName place => "t.name IN (" ++ String.join (List.replicate place "?, ")
  | .matching => "fts MATCH "

example : (Role.customNumber 3 .ge).lead = "CAST(icv3.value AS REAL) >= " := by decide

def CustomValue.binding (number : Nat) (op : Comparison) : CustomValue → Role × Value
  | .text s => (.customText number op, .text s)
  | .number x => (.customNumber number op, .float x)

def FixedTest.bindings (t : FixedTest) : List (Role × Value) := [(.fixedValue t.field t.op, t.value)]

def CustomTest.bindings (t : CustomTest) : List (Role × Value) :=
  [(.customKey t.number, .text t.key), t.value.binding t.number t.op]

def tagBindings (tags : List String) : List (Role × Value) :=
  tags.mapIdx fun place tag => (.tagName place, .text tag)

/-- The values that a clause binds, in order, each in its role. -/
def Clause.bindings : Clause → List (Role × Value)
  | .inLibrary => []
  | .inWorkplace id => [(.workplace, .integer id)]
  | .fixed test => test.bindings
  | .custom test => test.bindings
  | .either test other => test.bindings ++ other.bindings
  | .taggedAny tags => tagBindings tags
  | .taggedNone tags => tagBindings tags
  | .nothing => []
  | .words expression => [(.matching, .text expression)]
  | .phrase expression => [(.matching, .text expression)]

/-! ## Texts that read in roles -/

/-- The text of some pieces. -/
def written (ps : List Piece) : String := String.join (ps.map Piece.text)

@[simp]
theorem written_append (ps qs : List Piece) : written (ps ++ qs) = written ps ++ written qs := by
  simp [written]

@[simp]
theorem written_sql (text : String) (ps : List Piece) :
    written (.sql text :: ps) = text ++ written ps := by
  simp [written, Piece.text]

@[simp]
theorem written_value (v : Value) (ps : List Piece) : written (.value v :: ps) = "?" ++ written ps := by
  simp [written, Piece.text]

@[simp]
theorem written_nil : written [] = "" := by rfl

theorem written_joinPieces (between : String) (pss : List (List Piece)) :
    written (joinPieces between pss) = Text.join between (pss.map written) := by
  induction pss with
  | nil => rfl
  | cons ps rest inductionHypothesis =>
      cases rest with
      | nil => simp [joinPieces, Text.join]
      | cons qs rest =>
          rw [joinPieces, written_append, written_sql, inductionHypothesis]
          · simp [Text.join, String.append_assoc]
          · exact List.cons_ne_nil _ _

/-- The placeholders of the text are for values in these roles, in order. -/
structure Reads (text : String) (roles : List Role) : Prop where
  marks_eq : marks text = roles.length
  each : ∀ place role, roles[place]? = some role →
    ∃ start rest, text = start ++ role.lead ++ "?" ++ rest ∧ marks (start ++ role.lead) = place

namespace Reads

theorem plain {text : String} (unmarked : marks text = 0) : Reads text [] where
  marks_eq := unmarked
  each := by simp

theorem single {start : String} {role : Role} (unmarked : marks (start ++ role.lead) = 0) :
    Reads (start ++ role.lead ++ "?") [role] where
  marks_eq := by rw [marks_append, unmarked]; rfl
  each place role' found := by
    rcases List.getElem?_eq_some_iff.mp found with ⟨inside, rfl⟩
    obtain rfl : place = 0 := by simpa using inside
    exact ⟨start, "", by simp, unmarked⟩

/-- Where a text stands is counted from what is in front of it. -/
theorem append {text next : String} {roles more : List Role} (first : Reads text roles)
    (second : Reads next more) : Reads (text ++ next) (roles ++ more) where
  marks_eq := by rw [marks_append, first.marks_eq, second.marks_eq, List.length_append]
  each place role found := by
    by_cases inFirst : place < roles.length
    · rw [List.getElem?_append_left inFirst] at found
      rcases first.each place role found with ⟨start, rest, rfl, before⟩
      exact ⟨start, rest ++ next, by simp only [String.append_assoc], before⟩
    · have beyond := Nat.le_of_not_lt inFirst
      rw [List.getElem?_append_right beyond] at found
      rcases second.each _ role found with ⟨start, rest, rfl, before⟩
      refine ⟨text ++ start, rest, by simp only [String.append_assoc], ?_⟩
      rw [String.append_assoc, marks_append, before, first.marks_eq]
      omega

end Reads

/-! ## Clauses -/

def Clause.text (c : Clause) : String := written c.pieces

theorem FixedTest.reads (t : FixedTest) : Reads (written t.pieces) (t.bindings.map Prod.fst) := by
  have text : written t.pieces = "" ++ (Role.fixedValue t.field t.op).lead ++ "?" := by
    simp [pieces, Role.lead, String.append_assoc]
  rw [text]
  refine Reads.single ?_
  simp only [Role.lead, marks_append, marks_toName, marks_sign]
  decide +kernel

/-- The role of the value that a custom test compares with. -/
def CustomTest.valueRole (t : CustomTest) : Role := (t.value.binding t.number t.op).1

theorem CustomTest.marks_lead_valueRole (t : CustomTest) : marks t.valueRole.lead = 0 := by
  unfold valueRole
  cases t.value <;>
  · simp only [CustomValue.binding, Role.lead, marks_append, marks_valueTable, marks_sign]
    decide +kernel

/-- The text of a custom test in front of the condition on its key. -/
def CustomTest.opening (t : CustomTest) : String :=
  "EXISTS (SELECT 1 FROM item_custom_values " ++ valueTable t.number ++ " JOIN custom_keys "
    ++ keyTable t.number ++ " ON " ++ keyTable t.number ++ ".id = " ++ valueTable t.number
    ++ ".key_id WHERE " ++ valueTable t.number ++ ".item_id = item.id AND "

theorem CustomTest.written_pieces (t : CustomTest) : written t.pieces
    = (t.opening ++ (Role.customKey t.number).lead ++ "?")
      ++ ((" COLLATE NOCASE AND " ++ t.valueRole.lead ++ "?") ++ ")") := by
  have pieces : t.pieces =
      [.sql (t.opening ++ (Role.customKey t.number).lead), .value (.text t.key),
        .sql " COLLATE NOCASE AND ", .sql t.valueRole.lead, .value (t.value.binding t.number t.op).2,
        .sql ")"] := by
    unfold CustomTest.pieces opening valueRole
    cases t.value <;>
      simp only [CustomValue.binding, Role.lead, valueTable, keyTable, String.append_assoc,
        List.cons_append, List.nil_append, -String.reduceAppend]
  rw [pieces]
  simp only [written_sql, written_value, written_nil, String.append_assoc, String.append_empty,
    -String.reduceAppend]

theorem CustomTest.reads (t : CustomTest) : Reads (written t.pieces) (t.bindings.map Prod.fst) := by
  have key : Reads (t.opening ++ (Role.customKey t.number).lead ++ "?") [.customKey t.number] := by
    apply Reads.single
    unfold opening Role.lead
    simp only [marks_append, marks_valueTable, marks_keyTable]
    decide +kernel
  have value : Reads (" COLLATE NOCASE AND " ++ t.valueRole.lead ++ "?") [t.valueRole] := by
    apply Reads.single
    rw [marks_append, t.marks_lead_valueRole]
    decide +kernel
  rw [t.written_pieces]
  exact key.append (value.append (Reads.plain (by decide +kernel)))

/-- The text in front of the tags in a list. -/
def tagOpening : String :=
  "(SELECT it.item_id FROM item_tags it JOIN tags t ON t.id = it.tag_id WHERE "

theorem written_taggedPieces (tags : List String) : written (taggedPieces tags)
    = tagOpening ++ "t.name IN (" ++ Text.join ", " (List.replicate tags.length "?") ++ "))" := by
  have marked : (tags.map fun tag => [Piece.value (.text tag)]).map written
      = List.replicate tags.length "?" := by
    rw [List.map_map]
    exact List.map_eq_replicate_iff.mpr fun _ _ => rfl
  have opening : "(SELECT it.item_id FROM item_tags it JOIN tags t ON t.id = it.tag_id "
      ++ "WHERE t.name IN (" = tagOpening ++ "t.name IN (" := by decide +kernel
  rw [taggedPieces, List.cons_append, written_sql, written_append, written_joinPieces, marked, opening,
    written_sql, written_nil, String.append_empty, String.append_assoc, String.append_assoc,
    String.append_assoc]

/-- Tags are listed behind one another, so that the marks in front of each are those of the tags before
it. -/
theorem reads_taggedPieces (tags : List String) :
    Reads (written (taggedPieces tags)) ((tagBindings tags).map Prod.fst) where
  marks_eq := by
    have listed : marks (Text.join ", " (List.replicate tags.length "?")) = tags.length := by
      rw [marks_joined (by decide +kernel), List.map_replicate, List.sum_replicate_nat]
      exact Nat.mul_one _
    rw [written_taggedPieces, marks_append, marks_append, marks_append, listed]
    simp only [tagBindings, List.length_map, List.length_mapIdx]
    have opening : marks tagOpening + marks "t.name IN (" = 0 := by decide +kernel
    have closing : marks "))" = 0 := by decide +kernel
    omega
  each place role found := by
    obtain ⟨inside, rfl⟩ : place < tags.length ∧ role = .tagName place := by
      simp only [tagBindings, List.getElem?_map, List.getElem?_mapIdx] at found
      cases tag : tags[place]? with
      | none => simp [tag] at found
      | some name =>
          exact ⟨(List.getElem?_eq_some_iff.mp tag).1, by simpa [tag, eq_comm] using found⟩
    have split : List.replicate tags.length "?"
        = List.replicate place "?" ++ "?" :: List.replicate (tags.length - place - 1) "?" := by
      rw [← List.replicate_succ, List.replicate_append_replicate]
      congr 1
      omega
    -- the marks of the tags before this one belong to what leads to its own
    refine ⟨tagOpening, String.join (List.replicate (tags.length - place - 1) ", ?") ++ "))", ?_, ?_⟩
    · rw [written_taggedPieces, split, join_around, List.map_replicate, List.map_replicate]
      simp only [Role.lead, String.append_assoc]
      rfl
    · rw [Role.lead, marks_append, marks_append, marks_join, List.map_replicate, List.sum_replicate_nat]
      have opening : marks tagOpening = 0 ∧ marks "t.name IN (" = 0 ∧ marks "?, " = 1 := by decide +kernel
      simp [opening]

/-- Texts without placeholders around one that reads. -/
theorem Reads.inside {front text rest : String} {roles : List Role} (reads : Reads text roles)
    (before : marks front = 0) (behind : marks rest = 0) : Reads (front ++ text ++ rest) roles := by
  simpa using ((Reads.plain before).append reads).append (Reads.plain behind)

theorem Clause.reads (c : Clause) : Reads c.text (c.bindings.map Prod.fst) := by
  cases c with
  | inLibrary => exact .plain (by decide +kernel)
  | inWorkplace id =>
      have text : (Clause.inWorkplace id).text = "" ++ Role.workplace.lead ++ "?" := by rfl
      rw [text]
      exact .single (by decide +kernel)
  | fixed test => exact test.reads
  | custom test => exact test.reads
  | either test other =>
      have text : (Clause.either test other).text
          = "(" ++ (written test.pieces ++ " OR " ++ written other.pieces) ++ ")" := by
        simp [Clause.text, pieces, String.append_assoc]
      rw [text, bindings, List.map_append]
      refine Reads.inside ?_ (by decide +kernel) (by decide +kernel)
      simpa using (test.reads.append (.plain (by decide +kernel))).append other.reads
  | taggedAny tags =>
      have text : (Clause.taggedAny tags).text = "item.id IN " ++ written (taggedPieces tags) ++ "" := by
        simp [Clause.text, pieces]
      rw [text]
      exact (reads_taggedPieces tags).inside (by decide +kernel) (by decide +kernel)
  | taggedNone tags =>
      have text : (Clause.taggedNone tags).text = "item.id NOT IN " ++ written (taggedPieces tags) ++ "" := by
        simp [Clause.text, pieces]
      rw [text]
      exact (reads_taggedPieces tags).inside (by decide +kernel) (by decide +kernel)
  | nothing => exact .plain (by decide +kernel)
  | words expression =>
      have text : (Clause.words expression).text
          = "" ++ ("item.id IN (SELECT docid FROM fts WHERE " ++ Role.matching.lead ++ "?") ++ ")" := by rfl
      rw [text]
      exact (Reads.single (by decide +kernel)).inside (by decide +kernel) (by decide +kernel)
  | phrase expression =>
      have text : (Clause.phrase expression).text = "" ++ Role.matching.lead ++ "?" := by rfl
      rw [text]
      exact .single (by decide +kernel)

/-! ## Values -/

@[simp]
theorem filterMap_value?_sql (text : String) (ps : List Piece) :
    (Piece.sql text :: ps).filterMap Piece.value? = ps.filterMap Piece.value? := by rfl

@[simp]
theorem filterMap_value?_value (v : Value) (ps : List Piece) :
    (Piece.value v :: ps).filterMap Piece.value? = v :: ps.filterMap Piece.value? := by rfl

theorem filterMap_value?_joinPieces (between : String) (pss : List (List Piece)) :
    (joinPieces between pss).filterMap Piece.value? = pss.flatMap (List.filterMap Piece.value?) := by
  induction pss with
  | nil => rfl
  | cons ps rest inductionHypothesis =>
      cases rest with
      | nil => simp [joinPieces]
      | cons qs rest =>
          rw [joinPieces, List.filterMap_append, filterMap_value?_sql, inductionHypothesis]
          · rfl
          · exact List.cons_ne_nil _ _

theorem filterMap_value?_fixedTest (t : FixedTest) :
    t.pieces.filterMap Piece.value? = t.bindings.map Prod.snd := by rfl

theorem filterMap_value?_customTest (t : CustomTest) :
    t.pieces.filterMap Piece.value? = t.bindings.map Prod.snd := by
  unfold CustomTest.pieces CustomTest.bindings
  cases t.value <;> rfl

theorem filterMap_value?_taggedPieces (tags : List String) :
    (taggedPieces tags).filterMap Piece.value? = (tagBindings tags).map Prod.snd := by
  have values : (tagBindings tags).map Prod.snd = tags.map .text := by
    apply List.ext_getElem <;> simp [tagBindings]
  rw [values, taggedPieces, List.cons_append, filterMap_value?_sql, List.filterMap_append,
    filterMap_value?_joinPieces, List.flatMap_map]
  simp [List.map_eq_flatMap]

theorem Clause.filterMap_value?_pieces (c : Clause) :
    c.pieces.filterMap Piece.value? = c.bindings.map Prod.snd := by
  cases c with
  | inLibrary | inWorkplace | nothing | words | phrase => rfl
  | fixed test => exact filterMap_value?_fixedTest test
  | custom test => exact filterMap_value?_customTest test
  | either test other =>
      simp [pieces, bindings, filterMap_value?_fixedTest, filterMap_value?_customTest]
  | taggedAny tags => exact filterMap_value?_taggedPieces tags
  | taggedNone tags => exact filterMap_value?_taggedPieces tags

/-! ## Statements -/

/-- Where an element of joined lists comes from. -/
theorem exists_of_getElem?_flatMap {α β : Type} {f : α → List β} {as : List α} {place : Nat} {b : β}
    (found : (as.flatMap f)[place]? = some b) : ∃ earlier a later inside, as = earlier ++ a :: later ∧
      (f a)[inside]? = some b ∧ place = (earlier.flatMap f).length + inside := by
  induction as generalizing place with
  | nil => simp at found
  | cons a as inductionHypothesis =>
      rw [List.flatMap_cons] at found
      by_cases inFirst : place < (f a).length
      · rw [List.getElem?_append_left inFirst] at found
        exact ⟨[], a, as, place, rfl, found, by simp⟩
      · have beyond := Nat.le_of_not_lt inFirst
        rw [List.getElem?_append_right beyond] at found
        rcases inductionHypothesis found with ⟨earlier, a', later, inside, rfl, here, place_eq⟩
        refine ⟨a :: earlier, a', later, inside, rfl, here, ?_⟩
        rw [List.flatMap_cons, List.length_append]
        omega

/-- A value that a statement binds: the clause that needs it, and what for. -/
structure Use where
  clause : Clause
  role : Role
  value : Value
  deriving Repr, DecidableEq

def Clause.uses (c : Clause) : List Use := c.bindings.map fun (role, value) => ⟨c, role, value⟩

theorem Clause.marks_text (c : Clause) : marks c.text = c.uses.length := by
  rw [c.reads.marks_eq, uses, List.length_map, List.length_map]

namespace Statement

/-- The values that the clauses of a statement need, in order. -/
def uses (s : Statement) : List Use := s.clauses.flatMap Clause.uses

/-- The text in front of the clauses. -/
def head (s : Statement) : String :=
  "SELECT " ++ Text.join ", " (s.columns.map qualified) ++ " FROM items item"
    ++ (if s.withDocuments then " JOIN fts ON fts.docid = item.id" else "")
    ++ if s.clauses.isEmpty then "" else " WHERE "

/-- The text of the clauses. -/
def conditions (s : Statement) : String := Text.join " AND " (s.clauses.map Clause.text)

def orderText : Option String → String
  | some order => " ORDER BY " ++ order
  | none => ""

def limitText : Option Nat → String
  | some n => " LIMIT " ++ toString n
  | none => ""

/-- The text behind the clauses. -/
def tail (s : Statement) : String := orderText s.orderBy ++ limitText s.limit

theorem sql_eq_head_conditions_tail (s : Statement) : s.sql = s.head ++ s.conditions ++ s.tail := by
  have conditions : written (if s.clauses.isEmpty then []
      else .sql " WHERE " :: joinPieces " AND " (s.clauses.map Clause.pieces))
      = (if s.clauses.isEmpty then "" else " WHERE ") ++ s.conditions := by
    unfold Statement.conditions
    cases s.clauses with
    | nil => rfl
    | cons c rest =>
        simp only [List.isEmpty_cons, Bool.false_eq_true, if_false]
        rw [written_sql, written_joinPieces, List.map_map]
        rfl
  have sql : s.sql = written s.pieces := by rfl
  rw [sql, pieces]
  -- texts are not joined where they meet: both sides are cut in the same places
  simp only [written_append, written_sql, conditions]
  unfold head tail
  cases s.withDocuments <;> cases s.orderBy <;> cases s.limit <;>
    simp only [orderText, limitText, written_sql, written_nil, if_true, Bool.false_eq_true, if_false,
      String.append_empty, String.empty_append, String.append_assoc, -String.reduceAppend]

theorem parameters_eq (s : Statement) : s.parameters = s.uses.map Use.value := by
  have values : s.uses.map Use.value = s.clauses.flatMap fun c => c.bindings.map Prod.snd := by
    simp only [uses, List.map_flatMap, Clause.uses, List.map_map]
    rfl
  have conditions : (if s.clauses.isEmpty then []
      else .sql " WHERE " :: joinPieces " AND " (s.clauses.map Clause.pieces)).filterMap Piece.value?
      = s.uses.map Use.value := by
    rw [values]
    cases s.clauses with
    | nil => rfl
    | cons c rest =>
        simp only [List.isEmpty_cons, Bool.false_eq_true, if_false]
        rw [filterMap_value?_sql, filterMap_value?_joinPieces, List.flatMap_map]
        simp only [Clause.filterMap_value?_pieces]
  rw [parameters, pieces]
  simp only [List.filterMap_append, filterMap_value?_sql, conditions]
  cases s.withDocuments <;> cases s.orderBy <;> cases s.limit <;> simp

/-- The text in front of the clause that comes after `earlier` ones, and the text behind the clause that
comes before `later` ones. -/
def upTo (s : Statement) (earlier : List Clause) : String :=
  s.head ++ String.join (earlier.map fun c => c.text ++ " AND ")

def onFrom (s : Statement) (later : List Clause) : String :=
  String.join (later.map fun c => " AND " ++ c.text) ++ s.tail

theorem sql_eq_around {s : Statement} {earlier later : List Clause} {c : Clause}
    (clauses : s.clauses = earlier ++ c :: later) : s.sql = s.upTo earlier ++ c.text ++ s.onFrom later := by
  rw [sql_eq_head_conditions_tail, conditions, clauses, List.map_append, List.map_cons, join_around]
  simp [upTo, onFrom, String.append_assoc, Function.comp_def]

/-- The place among the marks of the statement is the one of a value: behind the text that gives the value
its role, in the clause that needs it. -/
def Stands (s : Statement) (place : Nat) (use : Use) : Prop :=
  ∃ earlier later start rest, s.clauses = earlier ++ use.clause :: later ∧
    s.sql = s.upTo earlier ++ use.clause.text ++ s.onFrom later ∧
    use.clause.text = start ++ use.role.lead ++ "?" ++ rest ∧
    marks (s.upTo earlier ++ start ++ use.role.lead) = place

/-- What the caller of a statement writes has no marks of its own. -/
structure Unmarked (s : Statement) : Prop where
  columns : ∀ column ∈ s.columns, '?' ∉ column.toList
  order : ∀ order ∈ s.orderBy, '?' ∉ order.toList

namespace Unmarked

variable {s : Statement} (unmarked : s.Unmarked)
include unmarked

theorem marks_head : marks s.head = 0 := by
  have columns : marks (Text.join ", " (s.columns.map qualified)) = 0 := by
    rw [marks_joined (by decide +kernel), List.map_map, List.sum_eq_zero_iff_forall_eq_nat]
    intro n membership
    rcases List.mem_map.mp membership with ⟨column, isColumn, rfl⟩
    have own := marks_eq_zero.mpr (unmarked.columns column isColumn)
    rw [Function.comp_apply, qualified]
    split
    · rw [marks_append, own]
      decide +kernel
    · exact own
  unfold head
  rw [marks_append, marks_append, marks_append, marks_append, columns]
  split <;> split <;> decide +kernel

theorem marks_tail : marks s.tail = 0 := by
  have limit : marks (limitText s.limit) = 0 := by
    cases s.limit with
    | none => decide +kernel
    | some n =>
        rw [limitText, marks_append, marks_toString]
        decide +kernel
  rw [tail, marks_append, limit, Nat.add_zero]
  cases order : s.orderBy with
  | none => decide +kernel
  | some text =>
      rw [orderText, marks_append, marks_eq_zero.mpr (unmarked.order text order)]
      decide +kernel

theorem marks_upTo (earlier : List Clause) :
    marks (s.upTo earlier) = (earlier.flatMap Clause.uses).length := by
  have each (c : Clause) : marks (c.text ++ " AND ") = c.uses.length := by
    rw [marks_append, c.marks_text]
    rfl
  rw [upTo, marks_append, unmarked.marks_head, marks_join, List.map_map, List.length_flatMap, Nat.zero_add]
  exact congrArg List.sum (List.map_congr_left fun c _ => each c)

theorem marks_sql : marks s.sql = s.parameters.length := by
  have conditions : marks s.conditions = s.uses.length := by
    rw [Statement.conditions, marks_joined (by decide +kernel), List.map_map, uses, List.length_flatMap]
    refine congrArg List.sum (List.map_congr_left fun c _ => ?_)
    exact c.marks_text
  rw [sql_eq_head_conditions_tail, marks_append, marks_append, unmarked.marks_head, unmarked.marks_tail,
    conditions, parameters_eq, List.length_map, Nat.zero_add, Nat.add_zero]

theorem stands {place : Nat} {use : Use} (found : s.uses[place]? = some use) : s.Stands place use := by
  rcases exists_of_getElem?_flatMap found with ⟨earlier, c, later, inside, clauses, here, rfl⟩
  rw [Clause.uses, List.getElem?_map] at here
  rcases Option.map_eq_some_iff.mp here with ⟨⟨role, value⟩, binding, rfl⟩
  have inRole : (c.bindings.map Prod.fst)[inside]? = some role := by
    rw [List.getElem?_map, binding]
    rfl
  rcases c.reads.each inside role inRole with ⟨start, rest, text, before⟩
  refine ⟨earlier, later, start, rest, clauses, sql_eq_around clauses, text, ?_⟩
  rw [String.append_assoc, marks_append, unmarked.marks_upTo, before]

end Unmarked

end Statement

end SampleLibrary.Query
