import SampleLibrary.Query.Completion
import SampleLibrary.Storage.Tables

/-!
# Running statements on the tables

What the clauses of a statement mean for an item, and the items that a statement finds, in order and
up to its limit.
-/

namespace SampleLibrary

open Query

/-- Why a statement cannot be run. -/
inductive SearchError where
  | malformedWords
  | unknownColumn (name : String)
  | notEnoughColumns
  | limitTooLarge
  deriving Repr, DecidableEq

/-- Does a comparison hold between two cells? Nothing holds of an empty one. -/
def Cell.satisfies (a : Cell) (op : Comparison) (b : Cell) : Bool :=
  (Cell.compare? a b).any op.holds

namespace Query

/-- Does the test hold for the item? A text that writes a number counts as one where numbers are. -/
def FixedTest.holds (test : FixedTest) (i : Item) : Bool :=
  let value := Cell.ofValue (some test.value)
  let value := if test.field.kind == .text then value.toTextColumn else value.toNumeric
  (i.cell test.field).satisfies test.op value

def sameIgnoringCase (a b : String) : Bool :=
  a.toList.map Text.asciiLower == b.toList.map Text.asciiLower

def CustomValue.holds (op : Comparison) (wanted : CustomValue) (value : String) : Bool :=
  match wanted with
  | .text s => (Cell.text value).satisfies op (.text s)
  | .number x => (Cell.real (Cell.leadingNumber value)).satisfies op (Cell.ofValue (some (.float x)))

def CustomTest.holds (test : CustomTest) (t : Tables) (i : Item) : Bool :=
  t.customs.any fun c => c.item == i.id
    && (t.keys.any fun k => k.id == c.key && sameIgnoringCase k.name test.key)
    && c.value.any (test.value.holds test.op)

def carriesAny (t : Tables) (i : Item) (names : List String) : Bool :=
  t.links.any fun l => l.item == i.id && t.tags.any fun r => r.id == l.tag && names.contains r.name

def hasPhrases (t : Tables) (i : Item) (expression : String) : Bool :=
  match FullText.phrases expression with
  | .ok ps => t.documents.any fun d => d.item == i.id && FullText.found ps d.content
  | .error _ => false

def Clause.holds (c : Clause) (t : Tables) (i : Item) : Bool :=
  match c with
  | .inLibrary => i.inLibrary
  | .inWorkplace id => i.workplace.satisfies .eq (.integer id)
  | .fixed test => test.holds i
  | .custom test => test.holds t i
  | .either test other => test.holds i || other.holds t i
  | .taggedAny names => carriesAny t i names
  | .taggedNone names => !carriesAny t i names
  | .nothing => false
  | .words expression => hasPhrases t i expression
  | .phrase expression => hasPhrases t i expression

/-- Can the search expression of the clause be read? -/
def Clause.isReadable : Clause → Bool
  | .words expression | .phrase expression => (FullText.phrases expression).toOption.isSome
  | _ => true

/-- Does the clause name the items outright, so that they are looked up in the order of their
numbers? -/
def Clause.namesItems : Clause → Bool
  | .taggedAny _ | .words _ | .phrase _ => true
  | .fixed test => test.field == .name && test.op == .eq
  | _ => false

def columnCell? (name : String) : Option (Item → Cell) :=
  let bare := match Text.afterFront? "item.".toList name.toList with
    | some rest => String.ofList rest
    | none => name
  if bare == "id" then some fun i => .integer (.ofInt i.id)
  else if bare == "workplace_id" then some (·.workplace)
  else (Field.ofName? bare).map fun f i => i.cell f

/-- A column to sort by, and whether from the highest cell down. -/
structure SortKey where
  name : String
  cell : Item → Cell
  descending : Bool

/-- One column of an order: its name, then perhaps the direction. -/
def sortKey (part : String) : Except SearchError SortKey :=
  let (name, descending) := match Text.blankWords part with
    | [name] => (name, false)
    | [name, direction] => (name, Text.uppercase direction == "DESC")
    | _ => (part, false)
  match columnCell? name with
  | some cell => .ok ⟨name, cell, descending⟩
  | none => .error (.unknownColumn part)

def sortKeys (order : String) : Except SearchError (List SortKey) :=
  ((Text.splitAtAll (· == ',') order.toList).map String.ofList).mapM sortKey

def SortKey.compare (k : SortKey) (a b : Item) : Ordering :=
  let o := (k.cell a).sortOrder (k.cell b)
  if k.descending then o.swap else o

/-- How two items stand by some columns, the first ones first. -/
def compareBy : List SortKey → Item → Item → Ordering
  | [], _, _ => .eq
  | k :: ks, a, b => (k.compare a b).then (compareBy ks a b)

def Clause.boundsChecksum : Clause → Bool
  | .fixed test => test.field == .md5 && test.op.isOrdering
  | _ => false

/-- Is the order one by name from the last name on? -/
def isBackwards : List SortKey → Bool
  | [k] => k.descending && k.name == "item.name"
  | _ => false

/-- The order in which items are come upon before they are sorted. It remains among items that are
equal in what they are sorted by. -/
def readingOrder (s : Statement) (keys : List SortKey) (items : List Item) : List Item :=
  let byNumber := items.mergeSort fun a b => a.id ≤ b.id
  if s.clauses.any Clause.namesItems then byNumber
  else if s.limit.isSome && s.clauses.contains .inLibrary && s.clauses.any Clause.boundsChecksum then
    byNumber.mergeSort fun a b => (a.cell .md5).sortOrder (b.cell .md5) != .gt
  else if isBackwards keys then byNumber.reverse
  else byNumber

def sorted (s : Statement) (items : List Item) : Except SearchError (List Item) := do
  let keys ← match s.orderBy with
    | some order => sortKeys order
    | none => pure []
  return (readingOrder s keys items).mergeSort fun a b => compareBy keys a b != .gt

def maxLimit : Int := Int64.maxValue.toInt

/-- The items that a statement finds. If none are wanted, search expressions are not looked at. -/
def Statement.run (s : Statement) (t : Tables) : Except SearchError (List Item) := do
  let found := t.items.filter fun i => s.clauses.all fun c => c.holds t i
  let items ← sorted s found
  if s.limit == some 0 then return []
  unless s.limit.all fun n => (n : Int) ≤ maxLimit do throw .limitTooLarge
  unless s.clauses.all Clause.isReadable do throw .malformedWords
  return match s.limit with
    | some n => items.take n
    | none => items

/-- The cells of an item that make up its record, where the statement asks for them in order. -/
def Statement.rowOf (s : Statement) (i : Item) : Except SearchError Item := do
  let cells ← s.columns.mapM fun name =>
    match columnCell? name with
    | some cell => pure (cell i)
    | none => throw (.unknownColumn name)
  match cells with
  | .integer id :: workplace :: fixed =>
    if fixed.length < Field.all.length then throw .notEnoughColumns
    else return ⟨id.toInt, workplace, fun f => (fixed[Field.all.idxOf f]?).getD .empty⟩
  | _ => throw .notEnoughColumns

end Query

def Tables.search (t : Tables) (s : Statement) : Except SearchError (List Metadata) := do
  let items ← (← s.run t).mapM s.rowOf
  return items.map t.record

def occurrences (expression content : String) : List Occurrence :=
  match FullText.phrases expression with
  | .ok ps => (FullText.offsets ps content).map fun (term, offset, size) => ⟨offset, term, 0, size⟩
  | .error _ => []

/-- The documents that a completion finds, each with a report of where the typed words occur. -/
def Tables.documentRows (t : Tables) (c : Completion) (options : Options) :
    Except SearchError (List (String × String)) := do
  let items ← (c.statement options).run t
  return items.flatMap fun i => (t.documents.filter fun d => d.item == i.id).map fun d =>
    (Occurrence.report (occurrences c.phrase d.content), d.content)

end SampleLibrary
