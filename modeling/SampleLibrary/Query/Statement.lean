import SampleLibrary.Query.Basic

/-!
# Statements

The conditions of a query become clauses of a statement, and the statement is written in SQL. Text
from the query never becomes part of the SQL: it is bound to placeholders. A statement is written as
pieces, so that each placeholder stands where its value is needed.

Main definitions: `clauses`, which groups conditions into clauses, and `Statement.pieces`.
-/

namespace SampleLibrary.Query

/-- Which items a query can find. -/
inductive Scope where
  | library
  | workplace (id : Int64)
  | all
  deriving Repr, DecidableEq

/-- A comparison with a column of the items. -/
structure FixedTest where
  field : Field
  op : Comparison
  value : Value
  deriving Repr, DecidableEq

/-- What a custom value is compared with: its text, or its number for an order between numbers. -/
inductive CustomValue where
  | text (s : String)
  | number (x : Binary64)
  deriving Repr, DecidableEq

/-- A comparison with a custom value. The number makes the names of its tables unique. -/
structure CustomTest where
  number : Nat
  key : String
  op : Comparison
  value : CustomValue
  deriving Repr, DecidableEq

/-- A clause of a statement. All clauses of a statement have to hold. -/
inductive Clause where
  | inLibrary
  | inWorkplace (id : Int64)
  | fixed (test : FixedTest)
  | custom (test : CustomTest)
  | either (fixed : FixedTest) (custom : CustomTest)
  | taggedAny (tags : List String)
  | taggedNone (tags : List String)
  | nothing
  | words (expression : String)
  | phrase (expression : String)
  deriving Repr, DecidableEq

/-- The comparison with a field. The value is of the field's kind if it can be. -/
def fixedTest (f : Field) (op : Comparison) (value : String) : FixedTest :=
  match (Value.text value).coerce f with
  | .ok v => ⟨f, op, v⟩
  | .error _ => ⟨f, op, .text value⟩

def customTest (number : Nat) (key : String) (op : Comparison) (value : String) : CustomTest :=
  match (Decimal.readFloat? (Text.trim value.toList)).filter fun _ => op.isOrdering with
  | some x => ⟨number, key, op, .number x⟩
  | none => ⟨number, key, op, .text value⟩

/-- The clause for a comparison; `number` is the next free one. -/
def compareClause (number : Nat) (key : String) (op : Comparison) (value : String) : Clause × Nat :=
  match Target.ofKey key with
  | .fixed f => (.fixed (fixedTest f op value), number)
  | .custom key => (.custom (customTest number key op value), number + 1)
  | .either f key =>
    (.either (fixedTest f op value) (customTest number key op value), number + 1)

/-- The clauses for the comparisons among the conditions, in order. -/
def compareClauses (number : Nat) : List Condition → List Clause
  | [] => []
  | .compare key op value :: rest =>
    let (clause, next) := compareClause number key op value
    clause :: compareClauses next rest
  | _ :: rest => compareClauses number rest

/-- The conditions that are answered together. -/
inductive Group where
  | tagged
  | untagged
  | text
  deriving Repr, DecidableEq

def Condition.group? : Condition → Option Group
  | .tagged _ => some .tagged
  | .untagged _ => some .untagged
  | .compare .. => none
  | .text _ => some .text

/-- A word that the index takes for an operator. -/
def isOperatorWord (word : String) : Bool :=
  word == "AND" || word == "OR" || word == "NOT" || word == "NEAR"

/-- A text as a term of a search expression: as it stands if it is a plain word, with or without a
star at its end, and otherwise as a phrase. -/
def searchTerm (text : String) : String :=
  let cs := text.toList
  let body := if cs.getLast? == some '*' then cs.dropLast else cs
  if !body.isEmpty && body.all Text.isWord && !isOperatorWord text then text
  else String.ofList ('"' :: cs.filter (· != '"') ++ ['"'])

/-- The tags that conditions of a group name, sorted and once each. -/
def tagNames (group : Group) (conditions : List Condition) : List String :=
  (Std.ExtTreeSet.ofList (conditions.filterMap fun c =>
    match group, c with
    | .tagged, .tagged tag => some tag
    | .untagged, .untagged tag => some tag
    | _, _ => none)).toList

/-- The clauses for a group of conditions. A query that includes the root includes everything, and
one that excludes it finds nothing. -/
def groupClauses (conditions : List Condition) (group : Group) : List Clause :=
  let tags := tagNames group conditions
  match group with
  | .tagged => if tags.contains Tag.root then [] else [.taggedAny tags]
  | .untagged => if tags.contains Tag.root then [.nothing] else [.taggedNone tags]
  | .text =>
    let terms := conditions.filterMap fun c =>
      match c with
      | .text t => some (searchTerm t)
      | _ => none
    [.words (Text.join " " terms)]

/-- The groups among the conditions, in the order in which they first come. -/
def groups (conditions : List Condition) : List Group :=
  (conditions.filterMap Condition.group?).foldl
    (fun seen g => if seen.contains g then seen else seen ++ [g]) []

def Scope.clauses : Scope → List Clause
  | .library => [.inLibrary]
  | .workplace id => [.inWorkplace id]
  | .all => []

/-- The clauses for a scope and conditions: comparisons first, then one for each group. -/
def clauses (scope : Scope) (conditions : List Condition) : List Clause :=
  scope.clauses ++ compareClauses 0 conditions
    ++ (groups conditions).flatMap (groupClauses conditions)

/-- What a statement asks for, apart from its conditions. -/
structure Options where
  columns : List String := []
  orderBy : Option String := some "item.name"
  limit : Option Nat := some 100
  scope : Scope := .library
  deriving Repr, DecidableEq

/-- A statement. A completion looks at documents, too. -/
structure Statement where
  columns : List String
  withDocuments : Bool
  clauses : List Clause
  orderBy : Option String
  limit : Option Nat
  deriving Repr, DecidableEq

def itemColumns : List String := "id" :: "workplace_id" :: Field.all.map Field.toName

def statement (conditions : List Condition) (options : Options) : Statement where
  columns := if options.columns.isEmpty then itemColumns else options.columns
  withDocuments := false
  clauses := clauses options.scope conditions
  orderBy := options.orderBy
  limit := options.limit

/-- A piece of a written statement: text, or a placeholder with the value that it stands for. -/
inductive Piece where
  | sql (text : String)
  | value (v : Value)
  deriving Repr, DecidableEq

def Piece.text : Piece → String
  | .sql text => text
  | .value _ => "?"

def Piece.value? : Piece → Option Value
  | .sql _ => none
  | .value v => some v

def joinPieces (between : String) : List (List Piece) → List Piece
  | [] => []
  | [ps] => ps
  | ps :: rest => ps ++ .sql between :: joinPieces between rest

def qualified (column : String) : String :=
  if column.toList.all fun c => Text.isAsciiAlphanumeric c || c == '_' then "item." ++ column
  else column

def FixedTest.pieces (t : FixedTest) : List Piece :=
  [.sql ("item." ++ t.field.toName ++ " " ++ t.op.sign ++ " "), .value t.value]

def CustomTest.pieces (t : CustomTest) : List Piece :=
  let icv := "icv" ++ toString t.number
  let ck := "ck" ++ toString t.number
  let comparison : List Piece := match t.value with
    | .number x => [.sql ("CAST(" ++ icv ++ ".value AS REAL) " ++ t.op.sign ++ " "), .value (.float x)]
    | .text s => [.sql (icv ++ ".value " ++ t.op.sign ++ " "), .value (.text s)]
  [.sql ("EXISTS (SELECT 1 FROM item_custom_values " ++ icv ++ " JOIN custom_keys " ++ ck ++ " ON "
      ++ ck ++ ".id = " ++ icv ++ ".key_id WHERE " ++ icv ++ ".item_id = item.id AND "
      ++ ck ++ ".name = "),
    .value (.text t.key), .sql " COLLATE NOCASE AND "] ++ comparison ++ [.sql ")"]

def taggedPieces (tags : List String) : List Piece :=
  .sql ("(SELECT it.item_id FROM item_tags it JOIN tags t ON t.id = it.tag_id "
    ++ "WHERE t.name IN (")
  :: joinPieces ", " (tags.map fun tag => [.value (.text tag)]) ++ [.sql "))"]

def Clause.pieces : Clause → List Piece
  | .inLibrary => [.sql "item.workplace_id IS NULL"]
  | .inWorkplace id => [.sql "item.workplace_id = ", .value (.integer id)]
  | .fixed test => test.pieces
  | .custom test => test.pieces
  | .either test other => .sql "(" :: test.pieces ++ .sql " OR " :: other.pieces ++ [.sql ")"]
  | .taggedAny tags => .sql "item.id IN " :: taggedPieces tags
  | .taggedNone tags => .sql "item.id NOT IN " :: taggedPieces tags
  | .nothing => [.sql "FALSE"]
  | .words expression =>
    [.sql "item.id IN (SELECT docid FROM fts WHERE fts MATCH ", .value (.text expression), .sql ")"]
  | .phrase expression => [.sql "fts MATCH ", .value (.text expression)]

namespace Statement

def pieces (s : Statement) : List Piece :=
  .sql ("SELECT " ++ Text.join ", " (s.columns.map qualified) ++ " FROM items item")
  :: (if s.withDocuments then [.sql " JOIN fts ON fts.docid = item.id"] else [])
  ++ (if s.clauses.isEmpty then []
    else .sql " WHERE " :: joinPieces " AND " (s.clauses.map Clause.pieces))
  ++ (match s.orderBy with
    | some order => [.sql (" ORDER BY " ++ order)]
    | none => [])
  ++ (match s.limit with
    | some n => [.sql (" LIMIT " ++ toString n)]
    | none => [])

def sql (s : Statement) : String := String.join (s.pieces.map Piece.text)

def parameters (s : Statement) : List Value := s.pieces.filterMap Piece.value?

end Statement

end SampleLibrary.Query
