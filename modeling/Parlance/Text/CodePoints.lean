/-!
# Sets of code points

A set of code points is given as an increasing list of closed ranges, the way the Unicode data files
list a property. Membership reads the list only as far as it has to.
-/

namespace Parlance.Text

/-- Whether one of the closed ranges of the increasing list holds `n`. -/
def covers : List (Nat × Nat) → Nat → Bool
  | [], _ => false
  | (first, last) :: rest, n => if n < first then false else n ≤ last || covers rest n

end Parlance.Text
