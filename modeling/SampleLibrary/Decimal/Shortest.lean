import SampleLibrary.Decimal.Binary

/-!
# The fewest digits that read back

A decimal reads back as a float if it lies in the interval of reals that round to it. Of the
decimals with the fewest digits that do, the one nearest to the float is chosen. If two are equally
near, the format decides.
-/

namespace SampleLibrary.Decimal

/-- The number `digits * 10 ^ exponent`. -/
structure Numeral where
  digits : Nat
  exponent : Int
  deriving Repr, DecidableEq

/-- Which one of two decimals is taken if they are equally near: the upper one, or the one with an even
last digit. -/
inductive Tie where
  | upper
  | even
  deriving Repr, DecidableEq

/-- Compare `a * 10 ^ i` with `n * 2 ^ j`, exactly. -/
def compareScaled (a : Nat) (i : Int) (n : Nat) (j : Int) : Ordering :=
  let (ten, ten₁) := power 10 i
  let (two, two₁) := power 2 j
  compare (a * ten * two₁) (n * two * ten₁)

/-- Does the decimal lie among the reals that round to `x`? The ends of the interval count exactly
when the mantissa is even. -/
def Binary.readsBack (x : Binary) (d : Numeral) : Bool :=
  let low := if x.narrowBelow then 4 * x.mantissa - 1 else 4 * x.mantissa - 2
  let high := 4 * x.mantissa + 2
  let closed := x.mantissa % 2 == 0
  let below := compareScaled d.digits d.exponent low (x.exponent - 2)
  let above := compareScaled d.digits d.exponent high (x.exponent - 2)
  (below == .gt || (closed && below == .eq)) && (above == .lt || (closed && above == .eq))

/-- The least power of ten above `x`, found from the binary logarithm. -/
def Binary.scale (x : Binary) : Int :=
  let guess := ((x.mantissa.log2 : Int) + x.exponent) * 30103 / 100000 - 1
  let above := (List.range 5).find? fun (i : Nat) =>
    compareScaled 1 (guess + (i : Int)) x.mantissa x.exponent == .gt
  guess + ((above.getD 5 : Nat) : Int)

/-- The better of the two neighbours of `x` on the grid of multiples of `10 ^ g`, if one reads back. -/
def Binary.onGrid? (x : Binary) (tie : Tie) (g : Int) : Option Numeral :=
  let (num, den) := x.fraction
  let (up, down) := power 10 g
  let lower := num * down / (den * up)
  let low : Numeral := ⟨lower, g⟩
  let high : Numeral := ⟨lower + 1, g⟩
  match x.readsBack low, x.readsBack high with
  | true, true =>
    match compareScaled (2 * lower + 1) g (2 * x.mantissa) x.exponent with
    | .gt => some low
    | .lt => some high
    | .eq => some (if tie == .even && lower % 2 == 0 then low else high)
  | true, false => some low
  | false, true => some high
  | false, false => none

/-- Moves the zeros at the end of `digits` into the exponent; `fuel` bounds their number. -/
def dropZeros : Nat → Numeral → Numeral
  | 0, d => d
  | fuel + 1, d =>
    if d.digits != 0 && d.digits % 10 == 0 then dropZeros fuel ⟨d.digits / 10, d.exponent + 1⟩
    else d

/-- The number itself, with all its digits. -/
def Binary.exact (x : Binary) : Numeral :=
  if x.exponent ≥ 0 then ⟨x.mantissa * Nat.pow 2 x.exponent.toNat, 0⟩
  else ⟨x.mantissa * Nat.pow 5 (-x.exponent).toNat, x.exponent⟩

/-- The shortest decimal that reads back as `x`, without zeros at its end. Seventeen digits suffice. -/
def Binary.shortest (x : Binary) (tie : Tie) : Numeral :=
  if x.mantissa == 0 then ⟨0, 0⟩
  else
    let k := x.scale
    let found := (List.range 17).findSome? fun (i : Nat) => x.onGrid? tie (k - ((i : Int) + 1))
    dropZeros 400 (found.getD x.exact)

def natDigits (n : Nat) : List Char := Nat.toDigits 10 n

/-- The decimal with its point in place and no exponent; a whole number has no point. -/
def Numeral.plain (d : Numeral) : List Char :=
  let ds := natDigits d.digits
  if d.exponent ≥ 0 then ds ++ List.replicate d.exponent.toNat '0'
  else
    let places := (-d.exponent).toNat
    let padded := List.replicate (places + 1 - ds.length) '0' ++ ds
    padded.take (padded.length - places) ++ '.' :: padded.drop (padded.length - places)

end SampleLibrary.Decimal
