import Parlance.Text.CodePoints

/-!
# Properties of characters

The Unicode data say which code points have a property, and a later edition may say otherwise than
an earlier one. A property is held as its code points in the earlier of the two editions in use and
what has changed up to the later one.
-/

namespace Parlance.Text

/-- An edition of the Unicode data: 15.1 or 18.0. -/
inductive Edition where
  | v15
  | v18
  deriving DecidableEq

/-- A property of code points: those that have it in edition 15.1, those that have gained it by
edition 18.0, and those that have lost it by then. -/
structure Property where
  ranges : List (Nat × Nat)
  gained : List (Nat × Nat) := []
  lost : List (Nat × Nat) := []

/-- Whether `c` has a property in an edition. -/
def Property.holds (p : Property) (e : Edition) (c : Char) : Bool :=
  match e with
  | .v15 => covers p.ranges c.toNat
  | .v18 => (covers p.ranges c.toNat && !covers p.lost c.toNat) || covers p.gained c.toNat

end Parlance.Text
