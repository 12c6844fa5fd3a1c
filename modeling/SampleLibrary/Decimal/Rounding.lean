/-!
# Rounding a quotient

Main definition: `roundDiv`, the whole number nearest to a fraction, the even one of two.
-/

namespace SampleLibrary.Decimal

/-- The quotient rounded to a whole number, ties to even. -/
def roundDiv (num den : Nat) : Nat :=
  let q := num / den
  let r := num % den
  match compare (2 * r) den with
  | .lt => q
  | .gt => q + 1
  | .eq => if q % 2 == 0 then q else q + 1

end SampleLibrary.Decimal
