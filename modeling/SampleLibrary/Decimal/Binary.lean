import SampleLibrary.Decimal.Rounding

/-!
# Binary floats as exact numbers

A float of 64 bits is its sign and the rank of its magnitude among the magnitudes that such floats
have, counted upwards from zero. Comparing floats is comparing ranks, and the number that a rank
stands for is a whole number times a power of two, so that everything is done in exact arithmetic.
-/

namespace SampleLibrary

namespace Decimal

/-- The number `mantissa * 2 ^ exponent`. -/
structure Binary where
  mantissa : Nat
  exponent : Int
  /-- The next float below is only half as far away as the next one above. -/
  narrowBelow : Bool
  deriving Repr, DecidableEq

def power (base : Nat) (e : Int) : Nat × Nat := (Nat.pow base e.toNat, Nat.pow base (-e).toNat)

def Binary.fraction (x : Binary) : Nat × Nat :=
  let (num, den) := power 2 x.exponent
  (x.mantissa * num, den)

def Binary.truncated (x : Binary) : Nat := x.fraction.1 / x.fraction.2

def Binary.isWhole (x : Binary) : Bool := x.fraction.1 % x.fraction.2 == 0

/-- The number of ranks between which the distance of neighbours stays the same. -/
def runLength : Nat := Nat.pow 2 52

/-- The rank of the infinities, above that of every number. -/
def infiniteRank : Nat := 0x7FF * runLength

/-- The number with a given rank. Each run of ranks doubles the distance between neighbours, except for
the second one. -/
def Binary.ofRank (rank : Nat) : Binary :=
  let run : Nat := rank / runLength
  let place : Nat := rank % runLength
  if run == 0 then ⟨place, -1074, false⟩
  else ⟨runLength + place, (run : Int) - 1075, place == 0 && run > 1⟩

def log2Floor (num den : Nat) : Int :=
  let k : Int := (num.log2 : Int) - (den.log2 : Int)
  let (up, down) := power 2 k
  if num * down < den * up then k - 1 else k

/-- The rank of the float nearest to a fraction; a tie goes to the even mantissa. -/
def nearestRank (num den : Nat) : Nat :=
  if num == 0 then 0
  else
    let e := max (log2Floor num den - 52) (-1074)
    let (up, down) := power 2 e
    (e + 1074).toNat * runLength + roundDiv (num * down) (den * up)

end Decimal

open Decimal

/-- A binary float of 64 bits: no number at all, or a sign and the rank of the magnitude. -/
inductive Binary64 where
  | nan
  | signed (negative : Bool) (rank : Fin (infiniteRank + 1))
  deriving Repr, DecidableEq

namespace Binary64

/-- The float with a sign and a rank; ranks above that of infinity count as infinity. -/
def ofRank (negative : Bool) (rank : Nat) : Binary64 :=
  .signed negative ⟨min rank infiniteRank, by omega⟩

def ofFraction (negative : Bool) (num den : Nat) : Binary64 := ofRank negative (nearestRank num den)

def ofInt (n : Int) : Binary64 := ofFraction (n < 0) n.natAbs 1

def infinite (negative : Bool) : Binary64 := ofRank negative infiniteRank

def isFinite : Binary64 → Bool
  | .nan => false
  | .signed _ rank => rank.val < infiniteRank

/-- The place of a float on the line of floats; both zeros have the same place. -/
def place? : Binary64 → Option Int
  | .nan => none
  | .signed negative rank => some (if negative then -(rank.val : Int) else rank.val)

/-- How two floats compare; what is no number compares with nothing. -/
def compare? (x y : Binary64) : Option Ordering :=
  match x.place?, y.place? with
  | some a, some b => some (compare a b)
  | _, _ => none

/-- Equality of numbers: the zeros are equal, and what is no number equals nothing. -/
def sameNumber (x y : Binary64) : Bool := x.compare? y == some .eq

def truncate? : Binary64 → Option Int
  | .nan => none
  | .signed negative rank =>
    if rank.val < infiniteRank then
      let n : Int := (Binary.ofRank rank.val).truncated
      some (if negative then -n else n)
    else none

def compareInt? (n : Int) : Binary64 → Option Ordering
  | .nan => none
  | .signed negative rank =>
    if rank.val < infiniteRank then
      let (num, den) := (Binary.ofRank rank.val).fraction
      some (compare (n * (den : Int)) (if negative then -(num : Int) else num))
    else some (if negative then .gt else .lt)

end Binary64

end SampleLibrary
