import SampleLibrary.Decimal.Binary
import SampleLibrary.Text.Class

/-!
# Reading numbers

Whole numbers are signed digits. Decimals may leave out the digits on one side of the point, may
have an exponent, and have words for the infinities and for the value that is no number. Longest
numeric prefixes, for texts that only begin with a number, follow the same shape without the words.
-/

namespace SampleLibrary.Decimal

open Text

/-- The value of decimal digits, read after `acc`. -/
def digitsValue (acc : Nat) : List Char → Nat
  | [] => acc
  | c :: cs => digitsValue (acc * 10 + (c.toNat - 48)) cs

def readDigits? (cs : List Char) : Option Nat :=
  if cs.isEmpty || !cs.all isDecimal then none else some (digitsValue 0 cs)

/-- A sign, if there is one, and the rest: `true` is minus. -/
def readSign : List Char → Bool × List Char
  | '-' :: cs => (true, cs)
  | '+' :: cs => (false, cs)
  | cs => (false, cs)

def readInt? (cs : List Char) : Option Int :=
  let (negative, rest) := readSign cs
  (readDigits? rest).map fun n => if negative then -(n : Int) else n

def readInt64? (cs : List Char) : Option Int64 :=
  (readInt? cs).bind fun n =>
    if Int64.minValue.toInt ≤ n && n ≤ Int64.maxValue.toInt then some (Int64.ofInt n) else none

def readNat? (limit : Nat) (cs : List Char) : Option Nat :=
  (readDigits? (match cs with | '+' :: rest => rest | _ => cs)).bind fun n =>
    if n < limit then some n else none

def readNat64? (cs : List Char) : Option Nat := readNat? UInt64.size cs

/-- The float nearest to `digits * 10 ^ exponent`. Far outside the range of floats the answer is
known without computing the power. -/
def nearest (negative : Bool) (digits : Nat) (exponent : Int) : Binary64 :=
  if digits == 0 then .ofRank negative 0
  else
    let lead := exponent + (digits.log2 : Int) * 30103 / 100000
    if lead > 400 then .infinite negative
    else if lead < -400 then .ofRank negative 0
    else
      let (num, den) := power 10 exponent
      .ofFraction negative (digits * num) den

/-- A decimal taken apart: sign, digits before and after the point, and exponent. -/
structure Scan where
  negative : Bool
  whole : List Char
  places : List Char
  exponent : Int
  rest : List Char

def Scan.value (s : Scan) : Binary64 :=
  nearest s.negative (digitsValue 0 (s.whole ++ s.places)) (s.exponent - s.places.length)

/-- The exponent at the start of the text and what follows it; none if no digits follow the mark. -/
def readExponent (cs : List Char) : Int × List Char :=
  match cs with
  | e :: tail =>
    if e == 'e' || e == 'E' then
      let (negative, digits) := readSign tail
      let ds := digits.takeWhile isDecimal
      if ds.isEmpty then (0, cs)
      else
        let n : Int := digitsValue 0 ds
        (if negative then -n else n, digits.dropWhile isDecimal)
    else (0, cs)
  | [] => (0, cs)

/-- The longest decimal at the start of the text, if there is one. -/
def scan? (cs : List Char) : Option Scan :=
  let (negative, body) := readSign cs
  let whole := body.takeWhile isDecimal
  let tail := body.dropWhile isDecimal
  let (places, rest) := match tail with
    | '.' :: after => (after.takeWhile isDecimal, after.dropWhile isDecimal)
    | _ => ([], tail)
  if whole.isEmpty && places.isEmpty then none
  else
    let (exponent, rest) := readExponent rest
    some ⟨negative, whole, places, exponent, rest⟩

def readWord? (cs : List Char) : Option Binary64 :=
  let (negative, rest) := readSign cs
  let word := rest.map asciiLower
  if word == "inf".toList || word == "infinity".toList then some (.infinite negative)
  else if word == "nan".toList then some .nan
  else none

/-- A float: a decimal that takes up the whole text, or one of the words. -/
def readFloat? (cs : List Char) : Option Binary64 :=
  match readWord? cs with
  | some x => some x
  | none => (scan? cs).bind fun s => if s.rest.isEmpty then some s.value else none

end SampleLibrary.Decimal
