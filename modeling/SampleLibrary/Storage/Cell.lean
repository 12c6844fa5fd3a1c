import SampleLibrary.Decimal.Places
import SampleLibrary.Decimal.Reading
import SampleLibrary.Value

/-!
# Cells of the database

A cell is empty or holds a number or a text. Columns prefer a kind of values: what is put into a
column is brought to its kind if nothing is lost. Cells are ordered, numbers before texts; an empty
cell compares with nothing.
-/

namespace SampleLibrary

open Decimal

/-- A cell. It never holds a float that is no number. -/
inductive Cell where
  | empty
  | integer (n : Int64)
  | real (x : Binary64)
  | text (s : String)
  deriving Repr, DecidableEq

namespace Cell

/-- The cell for a value; what is no number is not kept. -/
def ofValue : Option Value → Cell
  | none => empty
  | some (.text s) => text s
  | some (.integer n) => integer n
  | some (.float .nan) => empty
  | some (.float x) => real x

def toValue : Cell → Option Value
  | empty => none
  | integer n => some (.integer n)
  | real x => some (.float x)
  | text s => some (.text s)

/-- White space around numbers. -/
def isSpace (c : Char) : Bool := c == ' ' || ('\t' ≤ c && c ≤ '\r')

/-- The number that a text writes, if it writes one and nothing else. -/
def number? (s : String) : Option Cell := do
  let cs := ((s.toList.dropWhile isSpace).reverse.dropWhile isSpace).reverse
  let scan ← scan? cs
  guard scan.rest.isEmpty
  match readInt64? cs with
  | some n => some (integer n)
  | none => some (real scan.value)

/-- A whole float as an integer, if that loses nothing. -/
def wholeReal (x : Binary64) : Cell :=
  match x.truncate? with
  | some n =>
    if Binary64.compareInt? n x == some .eq && Int64.minValue.toInt < n && n < Int64.maxValue.toInt then
      integer (Int64.ofInt n)
    else real x
  | none => real x

def toNumeric : Cell → Cell
  | text s => (number? s).getD (text s)
  | c => c

/-- What a column for whole numbers makes of a cell. -/
def toIntegerColumn (c : Cell) : Cell :=
  match c.toNumeric with
  | real x => wholeReal x
  | c => c

/-- What a column for floats makes of a cell; it has one zero only. -/
def toRealColumn (c : Cell) : Cell :=
  match c.toNumeric with
  | integer n => real (.ofInt n.toInt)
  | real x => real (if x.sameNumber (.ofInt 0) then .ofInt 0 else x)
  | c => c

/-- The fifteen leading digits of a number, rounded with a half up, and the power of ten of the first
one. -/
def leadingDigits (x : Binary) : List Char × Int :=
  if x.mantissa == 0 then (['0'], 0)
  else
    let scale := x.scale
    let (num, den) := x.fraction
    let (up, down) := power 10 (15 - scale)
    let n := (2 * num * up + den * down) / (2 * den * down)
    let (n, lead) := if n == Nat.pow 10 15 then (Nat.pow 10 14, scale) else (n, scale - 1)
    (((natDigits n).reverse.dropWhile (· == '0')).reverse, lead)

/-- A float as a text column keeps it: fifteen digits, scientific below `10 ^ -4` and from `10 ^ 15`
on, with at least one place. -/
def realText : Binary64 → String
  | .nan => ""
  | .signed negative rank =>
    let body : List Char :=
      if rank.val < infiniteRank then
        let (ds, lead) := leadingDigits (Binary.ofRank rank.val)
        if lead < -4 || lead > 14 then
          let e := natDigits lead.natAbs
          let places := if ds.length > 1 then ds.drop 1 else ['0']
          ds.take 1 ++ '.' :: places ++ ['e', if lead < 0 then '-' else '+']
            ++ (if e.length < 2 then '0' :: e else e)
        else if lead < 0 then
          '0' :: '.' :: List.replicate (lead.natAbs - 1) '0' ++ ds
        else
          let whole := lead.toNat + 1
          let padded := ds ++ List.replicate (whole - ds.length) '0'
          let places := padded.drop whole
          padded.take whole ++ '.' :: (if places.isEmpty then ['0'] else places)
      else "Inf".toList
    String.ofList (if negative && rank.val != 0 then '-' :: body else body)

def toTextColumn : Cell → Cell
  | integer n => text (toString n.toInt)
  | real x => text (realText x)
  | c => c

def toColumn (f : Field) (c : Cell) : Cell :=
  match f.kind with
  | .text => c.toTextColumn
  | .integer => c.toIntegerColumn
  | .float => c.toRealColumn

def asText? : Cell → Option String
  | text s => some s
  | _ => none

/-- How two cells that are not empty compare. -/
def compare? : Cell → Cell → Option Ordering
  | empty, _ | _, empty => none
  | integer a, integer b => some (compare a.toInt b.toInt)
  | integer a, real b => Binary64.compareInt? a.toInt b
  | real a, integer b => (Binary64.compareInt? b.toInt a).map Ordering.swap
  | real a, real b => a.compare? b
  | integer _, text _ | real _, text _ => some .lt
  | text _, integer _ | text _, real _ => some .gt
  | text a, text b => some (compare a b)

/-- The order of sorted answers: empty cells come first. -/
def sortOrder : Cell → Cell → Ordering
  | empty, empty => .eq
  | empty, _ => .lt
  | _, empty => .gt
  | a, b => (compare? a b).getD .eq

/-- The number at the start of a text; zero if there is none. -/
def leadingNumber (s : String) : Binary64 :=
  match scan? (s.toList.dropWhile isSpace) with
  | some scan => scan.value
  | none => .ofInt 0

end Cell

end SampleLibrary
