import SampleLibrary.Metadata.Key
import SampleLibrary.Query.Words
import SampleLibrary.Tag
import SampleLibrary.Text.Case
import SampleLibrary.Value

/-!
# Conditions of a query

Each word of a query asks for one thing: a tag, the absence of a tag, a comparison with a value, or
words in the full-text document.
-/

namespace SampleLibrary.Query

/-- How a value is compared. -/
inductive Comparison where
  | eq
  | ne
  | lt
  | le
  | gt
  | ge
  deriving Repr, DecidableEq

namespace Comparison

def sign : Comparison → String
  | eq => "="
  | ne => "!="
  | lt => "<"
  | le => "<="
  | gt => ">"
  | ge => ">="

def isOrdering : Comparison → Bool
  | eq | ne => false
  | _ => true

/-- The signs that are understood; of two that start alike the longer one comes first. -/
def spellings : List (List Char × Comparison) := [
  (['=', '='], eq), (['<', '='], le), (['>', '='], ge), (['!', '='], ne), (['<', '>'], ne),
  (['='], eq), (['<'], lt), (['>'], gt)]

/-- The comparison whose sign stands at the start of the text, and the text behind the sign. -/
def atStart? (cs : List Char) : Option (Comparison × List Char) :=
  spellings.findSome? fun (sign, c) => (Text.afterFront? sign cs).map (c, ·)

/-- The text before the first sign, the comparison, and the text behind the sign. -/
def find? : List Char → Option (List Char × Comparison × List Char)
  | [] => none
  | c :: cs =>
    match atStart? (c :: cs) with
    | some (op, rest) => some ([], op, rest)
    | none => (find? cs).map fun (before, found) => (c :: before, found)

/-- Does the comparison hold between values that stand in this order? -/
def holds (op : Comparison) (o : Ordering) : Bool :=
  match op with
  | eq => o == .eq
  | ne => o != .eq
  | lt => o == .lt
  | le => o != .gt
  | gt => o == .gt
  | ge => o != .lt

end Comparison

/-- What the key of a comparison speaks of. -/
inductive Target where
  | fixed (f : Field)
  | custom (key : String)
  /-- The name of a field without underscore: the field, or a custom value of that name. -/
  | either (f : Field) (key : String)
  deriving Repr, DecidableEq

def Target.ofKey (key : String) : Target :=
  match Field.ofKey? key with
  | some f => .fixed f
  | none =>
    match Field.ofName? key with
    | some f => .either f key
    | none => .custom key

/-- What one word of a query asks for. -/
inductive Condition where
  | tagged (tag : String)
  | untagged (tag : String)
  | compare (key : String) (op : Comparison) (value : String)
  | text (text : String)
  deriving Repr, DecidableEq

namespace Condition

def toText : Condition → String
  | tagged tag => "?" ++ tag
  | untagged tag => "-" ++ tag
  | compare key op value => quote key ++ op.sign ++ quote value
  | text t => quote t

/-- May a query ask for the tag? Every valid tag, and the one that stands for everything. -/
def isTagName (tag : String) : Bool := tag == Tag.root || Tag.isValid tag

def tagged? (word : String) : Option Condition :=
  match word.toList with
  | c :: cs =>
    let tag := String.ofList cs
    if (c == '?' || c == '+') && isTagName tag then some (tagged tag) else none
  | [] => none

def untagged? (word : String) : Option Condition :=
  match word.toList with
  | c :: cs =>
    let tag := String.ofList cs
    if c == '-' && isTagName tag then some (untagged tag) else none
  | [] => none

/-- May a comparison have the key? Keys of fields and of custom values. -/
def isKey (key : String) : Bool :=
  if key.toList.head? == some '_' then (Field.ofKey? key).isSome else CustomKey.isValid key

def compare? (word : String) : Option Condition :=
  match Comparison.find? word.toList with
  | some (before, op, value) =>
    let key := Text.lowercase (String.ofList (Text.trim before))
    if isKey key then some (compare key op (String.ofList value)) else none
  | none => none

/-- A word to look for in the document; it has to have a letter, a digit or an underscore. -/
def text? (word : String) : Option Condition :=
  if word.toList.any Text.isWord then some (text word) else none

def ofWord? (word : String) : Option Condition :=
  (tagged? word).or ((untagged? word).or ((compare? word).or (text? word)))

end Condition

end SampleLibrary.Query
