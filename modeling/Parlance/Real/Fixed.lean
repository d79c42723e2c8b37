import Parlance.Real.Binary64

/-!
# Decimal texts with a fixed number of places

The exact value is rounded to the places asked for, a tie going to the even neighbour. The sign is
that of the number, also where zero is left of it.
-/

namespace Parlance

/-- The decimal digits of `n`, without leading zeros. -/
def decimal (n : Nat) : List Char :=
  Nat.toDigits 10 n

theorem isDigit_of_mem_decimal {n : Nat} {c : Char} (h : c ∈ decimal n) : c.isDigit = true :=
  Nat.isDigit_of_mem_toDigits (by decide) (by decide) h

/-- A whole number in decimal. -/
def decimalInt : Int → List Char
  | .ofNat n => decimal n
  | .negSucc n => '-' :: decimal (n + 1)

/-- A minus sign for a negative number. -/
def signText (negative : Bool) : List Char :=
  if negative then ['-'] else []

/-- The decimal digits of `n`, filled up with leading zeros to at least `count`. -/
def paddedDecimal (count n : Nat) : List Char :=
  List.replicate (count - (decimal n).length) '0' ++ decimal n

/-- `scaled / 10^places` written with exactly `places` decimal places, and with no point when there
are none. -/
def placed (places scaled : Nat) : List Char :=
  if places = 0 then decimal scaled
  else
    let digits := paddedDecimal (places + 1) scaled
    digits.take (digits.length - places) ++ '.' :: digits.drop (digits.length - places)

/-- `num / den` rounded to `places` decimal places. -/
def fixedRatio (places num den : Nat) : List Char :=
  placed places (roundHalfEven (num * tenTo places) den)

/-- The decimal places after which every finite double is exact. -/
def exactPlaces : Nat := 1074

/-- A magnitude rounded to `places` decimal places. Beyond its exact places only zeros follow. -/
def fixedUnits (places units : Nat) : List Char :=
  if places ≤ exactPlaces then fixedRatio places units unitsPerOne
  else fixedRatio exactPlaces units unitsPerOne ++ List.replicate (places - exactPlaces) '0'

namespace Binary64

/-- The number with exactly `places` decimal places. -/
def fixed (places : Nat) : Binary64 → List Char
  | .finite x => signText x.negative ++ fixedUnits places x.units
  | .infinite negative => signText negative ++ ['i', 'n', 'f']
  | .nan => ['N', 'a', 'N']

end Binary64

end Parlance
