/-!
# Powers

The powers of the two bases that numbers are written in here: two for doubles, ten for texts.
-/

namespace Parlance

/-- Two to the power of `k`. -/
def twoTo (k : Nat) : Nat :=
  Nat.pow 2 k

/-- Ten to the power of `k`. -/
def tenTo (k : Nat) : Nat :=
  Nat.pow 10 k

theorem twoTo_pos (k : Nat) : 0 < twoTo k :=
  Nat.pow_pos (by decide)

end Parlance
