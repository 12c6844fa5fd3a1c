import SampleLibrary.Decimal.Shortest

/-!
# A fixed number of places

The exact value is rounded to the nearest multiple of the last place; a tie goes to the even one.
-/

namespace SampleLibrary.Decimal

def Binary.fixed (x : Binary) (places : Nat) : List Char :=
  let (num, den) := x.fraction
  let n := roundDiv (num * Nat.pow 10 places) den
  if places == 0 then natDigits n else Numeral.plain ⟨n, -(places : Int)⟩

end SampleLibrary.Decimal
