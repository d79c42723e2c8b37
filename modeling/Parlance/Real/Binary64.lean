import Parlance.Real.Power
import Parlance.Real.Rounding

/-!
# Double-precision numbers

The numbers of the IEEE 754 format binary64. A finite one is a sign and a magnitude, and the
magnitude is an exact whole number of units of 2^-1074, the least positive double. Everything that
is computed with them is therefore computed on natural numbers.
-/

namespace Parlance

/-! ## Magnitudes -/

/-- The number of units in one. -/
def unitsPerOne : Nat := twoTo 1074

/-- The exponent of the last binary place that a magnitude of `units` keeps: 53 significant binary
digits are kept, and nothing below one unit. -/
def lastPlace (units : Nat) : Nat :=
  units.log2 - 52

/-- Whether a magnitude is that of a finite double: below 2^1024 and whole in its last place. -/
def Representable (units : Nat) : Prop :=
  units < twoTo 2098 ∧ units % twoTo (lastPlace units) = 0

instance (units : Nat) : Decidable (Representable units) :=
  inferInstanceAs (Decidable (_ ∧ _))

/-! ## Numbers -/

/-- A finite double. Zero has two signs. -/
structure Finite where
  negative : Bool
  units : Nat
  representable : Representable units
  deriving DecidableEq

/-- A double. -/
inductive Binary64 where
  | finite (x : Finite)
  | infinite (negative : Bool)
  | nan
  deriving DecidableEq

namespace Finite

/-- Positive or negative zero. -/
def zero (negative : Bool) : Finite :=
  ⟨negative, 0, by decide +kernel⟩

/-- Equality of numbers: the two zeros are equal. -/
def sameNumber (x y : Finite) : Bool :=
  x.units == y.units && (x.negative == y.negative || x.units == 0)

/-- The number of whole units of one in the magnitude: the magnitude truncated. -/
def wholePart (x : Finite) : Nat :=
  x.units / unitsPerOne

end Finite

namespace Binary64

/-- Equality of numbers: the two zeros are equal, and what is no number equals nothing. -/
def sameNumber : Binary64 → Binary64 → Bool
  | .finite x, .finite y => x.sameNumber y
  | .infinite a, .infinite b => a == b
  | _, _ => false

/-- Whether the number is the natural number `n`. -/
def isNat (x : Binary64) (n : Nat) : Bool :=
  match x with
  | .finite x => x.units == n * unitsPerOne && (!x.negative || n == 0)
  | _ => false

/-! ## Rounding to the nearest double -/

/-- The magnitude with at most `digits` significant binary digits and whole in units of `grain` that
is nearest to `num / den` units, a tie going to the even one. -/
def nearestUnits (digits grain num den : Nat) : Nat :=
  let place := max grain ((num / den).log2 + 1 - digits)
  roundHalfEven num (den * twoTo place) * twoTo place

/-- The double of a magnitude in units: infinite if it is too large. -/
def ofUnits (negative : Bool) (units : Nat) : Binary64 :=
  if h : Representable units then .finite ⟨negative, units, h⟩ else .infinite negative

/-- The double nearest to `num / den`. -/
def ofRatio (negative : Bool) (num den : Nat) : Binary64 :=
  ofUnits negative (nearestUnits 53 0 (num * unitsPerOne) den)

/-- The single-precision number nearest to `num / den`, as a double. A single has 24 significant
binary digits and nothing below 2^-149, and ends at 2^128. -/
def ofRatioSingle (negative : Bool) (num den : Nat) : Binary64 :=
  let units := nearestUnits 24 (1074 - 149) (num * unitsPerOne) den
  if units < twoTo 128 * unitsPerOne then ofUnits negative units else .infinite negative

/-- The product rounded to the nearest double. -/
def mul (x y : Finite) : Binary64 :=
  ofRatio (x.negative != y.negative) (x.units * y.units) (unitsPerOne * unitsPerOne)

/-- The quotient by a positive number rounded to the nearest double. -/
def div (x y : Finite) : Binary64 :=
  ofRatio (x.negative != y.negative) x.units y.units

end Binary64

end Parlance
