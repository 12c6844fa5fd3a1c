/-!
# Classes of characters as ranges

A class of code points beyond ASCII is a list of closed ranges, ascending and apart.
-/

namespace SampleLibrary.Text

/-- Closed ranges of code points, ascending and apart. -/
abbrev Ranges := List (Nat × Nat)

/-- Is the code point in one of the ranges? The search ends at the first range above it. -/
def Ranges.has : Ranges → Nat → Bool
  | [], _ => false
  | (lo, hi) :: rest, n => if n < lo then false else if n ≤ hi then true else Ranges.has rest n

end SampleLibrary.Text
