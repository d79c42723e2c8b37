import Parlance.Real.Fixed

/-!
# Shortest decimal texts

The fewest decimal digits that read back as the same double, and of those the nearest to it. The
numbers that read back as a double form an interval around it; for one digit, two digits and so on,
the two neighbours of the double on that decimal grid are tried, and the first grid with one inside
the interval gives the digits.

How the digits are laid out is a separate matter, and a `Layout` says it.
-/

namespace Parlance

/-! ## Digits -/

/-- Which of two equally near decimals is taken. -/
inductive Tie where
  | even
  | up
  deriving DecidableEq

/-- A decimal magnitude `digits * 10^exponent`. -/
structure Scientific where
  digits : Nat
  exponent : Int
  deriving DecidableEq

/-- The interval of numbers that round to a magnitude, in quarters of a unit. The ends belong to it
if the significand is even, because a tie goes to the even neighbour. -/
structure RoundingInterval where
  low : Nat
  high : Nat
  closed : Bool

/-- The interval around a positive magnitude. Just below a power of two the doubles are twice as
dense, so the lower half is half as wide there. -/
def RoundingInterval.of (units : Nat) : RoundingInterval :=
  let step := twoTo (lastPlace units)
  let below := if lastPlace units ≠ 0 ∧ units = twoTo units.log2 then step else 2 * step
  { low := 4 * units - below
    high := 4 * units + 2 * step
    closed := units / step % 2 = 0 }

/-- Whether the interval holds `num / den` quarters of a unit. -/
def RoundingInterval.holds (i : RoundingInterval) (num den : Nat) : Bool :=
  if i.closed then i.low * den ≤ num && num ≤ i.high * den
  else i.low * den < num && num < i.high * den

/-- Of the neighbours of a magnitude on the grid of multiples of `10^exponent`, the nearest that
reads back as the magnitude. -/
def onGrid (tie : Tie) (units : Nat) (exponent : Int) : Option Nat :=
  let num := 4 * unitsPerOne * tenTo exponent.toNat
  let den := tenTo (-exponent).toNat
  let low := 4 * units * den / num
  let interval := RoundingInterval.of units
  let lowIn := interval.holds (low * num) den
  let highIn := interval.holds ((low + 1) * num) den
  let twice := 2 * (4 * units * den)
  let middle := (2 * low + 1) * num
  if lowIn && highIn then
    some (if twice < middle ∨ (twice = middle ∧ tie = .even ∧ low % 2 = 0) then low else low + 1)
  else if lowIn then some low
  else if highIn then some (low + 1)
  else none

/-- The exponent of the leading decimal digit of a positive magnitude. It is read off the magnitude
times 10^330, which is whole and above one. -/
def leadingExponent (units : Nat) : Int :=
  (decimal (units * tenTo 330 / unitsPerOne)).length - 331

/-- The grids from `count` digits on, `more` of them after the first, the coarsest first. -/
def shortestFrom (tie : Tie) (units : Nat) (leading : Int) (count : Nat) : Nat → Scientific
  | 0 =>
    let exponent := leading + 1 - count
    ⟨(onGrid tie units exponent).getD 0, exponent⟩
  | more + 1 =>
    let exponent := leading + 1 - count
    match onGrid tie units exponent with
    | some digits => ⟨digits, exponent⟩
    | none => shortestFrom tie units leading (count + 1) more

/-- The shortest decimal that reads back as a positive magnitude. Seventeen digits are enough for
every double. -/
def shortest (tie : Tie) (units : Nat) : Scientific :=
  shortestFrom tie units (leadingExponent units) 1 16

/-! ## Layout -/

/-- How shortest digits are written. A number whose leading digit has an exponent from
`positionalFrom` to `positionalTo` is written positionally, with `.0` if it is whole; any other with
an exponent mark. -/
structure Layout where
  tie : Tie
  positionalFrom : Int
  positionalTo : Int
  exponentPlus : Bool

/-- The digits without trailing zeros. -/
def significantDigits (digits : Nat) : List Char :=
  ((decimal digits).reverse.dropWhile (· == '0')).reverse

namespace Layout

/-- Digits whose first has the given exponent, written positionally. -/
def positional (digits : List Char) (leading : Int) : List Char :=
  if leading < 0 then
    ['0', '.'] ++ List.replicate ((-leading).toNat - 1) '0' ++ digits
  else
    let whole := leading.toNat + 1
    if digits.length ≤ whole then
      digits ++ List.replicate (whole - digits.length) '0' ++ ['.', '0']
    else digits.take whole ++ '.' :: digits.drop whole

/-- Digits whose first has the given exponent, written with an exponent mark. -/
def marked (layout : Layout) (digits : List Char) (leading : Int) : List Char :=
  let mantissa := match digits with
    | first :: second :: rest => first :: '.' :: second :: rest
    | few => few
  let plus := if layout.exponentPlus && 0 ≤ leading then ['+'] else []
  mantissa ++ 'e' :: plus ++ decimalInt leading

/-- A magnitude by its shortest digits. -/
def write (layout : Layout) (units : Nat) : List Char :=
  if units = 0 then ['0', '.', '0']
  else
    let s := shortest layout.tie units
    let leading := s.exponent + (decimal s.digits).length - 1
    let digits := significantDigits s.digits
    if layout.positionalFrom ≤ leading ∧ leading ≤ layout.positionalTo then
      positional digits leading
    else layout.marked digits leading

end Layout

/-- A finite number by its shortest digits. -/
def Finite.text (layout : Layout) (x : Finite) : List Char :=
  signText x.negative ++ layout.write x.units

/-- In diagnostics and plain renderings a number is positional from 0.0001 up to below 10^16, and of
two equally near decimals the larger is taken. -/
def plainLayout : Layout := ⟨.up, -4, 15, false⟩

/-- The plain text of a number. -/
def Binary64.plain : Binary64 → List Char
  | .finite x => x.text plainLayout
  | .infinite negative => signText negative ++ ['i', 'n', 'f']
  | .nan => ['N', 'a', 'N']

end Parlance
