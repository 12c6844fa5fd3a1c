import SampleLibrary.Decimal.Places
import SampleLibrary.Decimal.Reading
import SampleLibrary.Field
import SampleLibrary.Text.Quoted
import SampleLibrary.Text.Split

/-!
# Field values

A value is a text, a whole number of 64 bits or a float. Each field takes values of its own kind;
`Value.coerce` brings a value to the kind of a field, or says that it cannot be done.
-/

namespace SampleLibrary

open Decimal

/-- Floats as text: whole numbers below `10 ^ 16` have one place, all others the fewest digits that
read back, without an exponent, and the upper ones if there is a choice. -/
def Binary64.toText : Binary64 → String
  | .nan => "NaN"
  | .signed negative rank =>
    let digits :=
      if rank.val < infiniteRank then
        let x := Binary.ofRank rank.val
        if x.isWhole && x.truncated < Nat.pow 10 16 then x.fixed 1 else (x.shortest .upper).plain
      else "inf".toList
    String.ofList (if negative then '-' :: digits else digits)

def Binary64.toPlaces (x : Binary64) (places : Nat) : String :=
  match x with
  | .nan => "NaN"
  | .signed negative rank =>
    let digits :=
      if rank.val < infiniteRank then (Binary.ofRank rank.val).fixed places else "inf".toList
    String.ofList (if negative then '-' :: digits else digits)

/-- A value of a field. -/
inductive Value where
  | text (s : String)
  | integer (n : Int64)
  | float (x : Binary64)
  deriving Repr, DecidableEq

namespace Value

def toText : Value → String
  | text s => s
  | integer n => toString n.toInt
  | float x => x.toText

def asText? : Value → Option String
  | text s => some s
  | _ => none

def asInteger? : Value → Option Int64
  | integer n => some n
  | _ => none

def asFloat? : Value → Option Binary64
  | float x => some x
  | integer n => some (.ofInt n.toInt)
  | text _ => none

end Value

/-- The nearest whole number of 64 bits. -/
def clampInt64 (n : Int) : Int64 :=
  if n < Int64.minValue.toInt then Int64.minValue
  else if n > Int64.maxValue.toInt then Int64.maxValue
  else Int64.ofInt n

/-- The value is not one that the field can take. -/
structure CoerceError where
  field : Field
  value : String
  deriving Repr, DecidableEq

def CoerceError.message (e : CoerceError) : String :=
  "invalid " ++ e.field.toName ++ " value: " ++ Text.quoted e.value

def Value.read? (kind : FieldKind) (s : String) : Option Value :=
  match kind with
  | .text => some (.text s)
  | .integer => (readInt64? (Text.trim s.toList)).map .integer
  | .float => (readFloat? (Text.trim s.toList)).map .float

/-- The value in the kind of the field. Floats lose their fractional part when they become whole
numbers, and stop at the ends of the range. -/
def Value.coerce (f : Field) (v : Value) : Except CoerceError Value :=
  let converted : Option Value :=
    match f.kind, v with
    | .text, v => some (.text v.toText)
    | .integer, .integer n => some (.integer n)
    | .integer, .float x => x.truncate?.map fun n => .integer (clampInt64 n)
    | .float, .integer n => some (.float (.ofInt n.toInt))
    | .float, .float x => some (.float x)
    | kind, .text s => Value.read? kind s
  match converted with
  | some w => .ok w
  | none => .error ⟨f, v.toText⟩

end SampleLibrary
