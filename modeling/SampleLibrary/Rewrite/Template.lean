import Std.Data.ExtTreeMap
import SampleLibrary.Decimal.Reading

/-!
# Templates

A template is text with fields in braces: an empty field takes the next group of a match, a number
the group with that number, and a name the value of that name. A doubled brace stands for a brace.
Fields that count by themselves and numbered fields do not mix.

A template is first cut into pieces, up to the first brace that is not balanced, and then filled in
piece by piece; the first fault from the left is the error.
-/

namespace SampleLibrary.Template

/-- A piece of a template. -/
inductive Piece where
  | char (c : Char)
  | field (text : List Char)
  | unbalanced (brace : Char)
  deriving Repr, DecidableEq

/-- The pieces of a template. `field` is what has been read of the field that is open, last character
first. -/
def cut : (field : Option (List Char)) → List Char → List Piece
  | none, [] => []
  | some _, [] => [.unbalanced '{']
  | some field, c :: cs =>
    if c == '}' then .field field.reverse :: cut none cs else cut (some (c :: field)) cs
  | none, '{' :: '{' :: cs => .char '{' :: cut none cs
  | none, '}' :: '}' :: cs => .char '}' :: cut none cs
  | none, c :: cs =>
    if c == '{' then cut (some []) cs
    else if c == '}' then [.unbalanced '}']
    else .char c :: cut none cs

def pieces (template : String) : List Piece := cut none template.toList

/-- Why a template cannot be filled in. -/
inductive Error where
  | indexOutOfRange (index : Nat)
  | unbalancedBrace (brace : Char)
  | unsupported (field : String)
  | mixedNumbering
  deriving Repr, DecidableEq

def Error.message : Error → String
  | .indexOutOfRange index => "replacement index " ++ toString index ++ " out of range"
  | .unbalancedBrace brace => "single '" ++ String.singleton brace ++ "' encountered in template"
  | .unsupported field => "unsupported replacement field: \x7b" ++ field ++ "\x7d"
  | .mixedNumbering => "cannot switch between automatic and manual field numbering"

/-- How the fields so far were numbered. -/
inductive Numbering where
  | undecided
  | automatic (next : Nat)
  | manual
  deriving Repr, DecidableEq

/-- What fields can stand for. -/
structure Arguments where
  groups : List String
  named : Std.ExtTreeMap String String

def Arguments.group (a : Arguments) (index : Nat) : Except Error String :=
  match a.groups[index]? with
  | some text => .ok text
  | none => .error (.indexOutOfRange index)

/-- A character that no field may contain. -/
def isReserved (c : Char) : Bool := c == '!' || c == ':' || c == '.' || c == '[' || c == '{'

/-- What a field stands for, and how fields are numbered from there on. -/
def fill (a : Arguments) (numbering : Numbering) (field : List Char) :
    Except Error (String × Numbering) :=
  if field.any isReserved then .error (.unsupported (String.ofList field))
  else if field.isEmpty then
    match numbering with
    | .manual => .error .mixedNumbering
    | .undecided => (a.group 0).map (·, .automatic 1)
    | .automatic next => (a.group next).map (·, .automatic (next + 1))
  else match Decimal.readDigits? field with
    | some index =>
      match numbering with
      | .automatic _ => .error .mixedNumbering
      | _ =>
        if index < UInt64.size then (a.group index).map (·, .manual)
        else .error (.unsupported (String.ofList field))
    | none => .ok (a.named[String.ofList field]?.getD "", numbering)

def fillPieces (a : Arguments) : Numbering → List Piece → Except Error String
  | _, [] => .ok ""
  | numbering, .char c :: rest => (fillPieces a numbering rest).map (String.singleton c ++ ·)
  | numbering, .field text :: rest =>
    match fill a numbering text with
    | .error e => .error e
    | .ok (value, numbering) => (fillPieces a numbering rest).map (value ++ ·)
  | _, .unbalanced brace :: _ => .error (.unbalancedBrace brace)

def render (a : Arguments) (template : String) : Except Error String :=
  fillPieces a .undecided (pieces template)

end SampleLibrary.Template
