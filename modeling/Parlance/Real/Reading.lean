import Parlance.Real.Binary64

/-!
# Reading numbers

Whole numbers and decimal fractions as people type them: an optional sign, digits, for a fraction
also a point, an exponent, or the names of infinity and of what is no number.
-/

namespace Parlance

/-! ## Digits -/

/-- The value of a list of decimal digits. -/
def digitsValue (digits : List Char) : Nat :=
  digits.foldl (fun n d => 10 * n + (d.toNat - '0'.toNat)) 0

/-- Splits an optional sign off; true is a minus. -/
def splitSign : List Char → Bool × List Char
  | '-' :: rest => (true, rest)
  | '+' :: rest => (false, rest)
  | rest => (false, rest)

/-- A whole number with an optional sign and at least one digit. -/
def readInt (text : String) : Option Int :=
  let (negative, digits) := splitSign text.toList
  if digits.isEmpty || !digits.all Char.isDigit then none
  else some (if negative then -(digitsValue digits : Int) else digitsValue digits)

/-- The whole numbers of `width` bits in two's complement. -/
def fitsSigned (width : Nat) (n : Int) : Bool :=
  -(twoTo (width - 1) : Int) ≤ n && n < (twoTo (width - 1) : Int)

/-! ## Decimal fractions -/

/-- A decimal fraction `digits * 10^exponent`, before it is rounded to a format. -/
structure DecimalFraction where
  negative : Bool
  digits : Nat
  exponent : Int

/-- What a text can name as a number. -/
inductive NumberText where
  | fraction (value : DecimalFraction)
  | infinity (negative : Bool)
  | notANumber

/-- The exponent behind the digits: absent, or a mark with an optional sign and digits up to the
end. -/
def readExponent : List Char → Option Int
  | [] => some 0
  | mark :: rest =>
    if mark = 'e' || mark = 'E' then readInt (String.ofList rest) else none

/-- An unsigned decimal fraction with at least one digit before or behind the point. -/
def readFraction (negative : Bool) (cs : List Char) : Option DecimalFraction := do
  let whole := cs.takeWhile Char.isDigit
  let (places, rest) := match cs.dropWhile Char.isDigit with
    | '.' :: rest => (rest.takeWhile Char.isDigit, rest.dropWhile Char.isDigit)
    | rest => ([], rest)
  if whole.isEmpty && places.isEmpty then none
  else
    let exponent ← readExponent rest
    some ⟨negative, digitsValue (whole ++ places), exponent - places.length⟩

/-- Reads a number; the names of infinity and of what is no number may be in any case. -/
def readNumberText (text : String) : Option NumberText :=
  let (negative, cs) := splitSign text.toList
  match cs.map Char.toLower with
  | ['n', 'a', 'n'] => some .notANumber
  | ['i', 'n', 'f'] => some (.infinity negative)
  | ['i', 'n', 'f', 'i', 'n', 'i', 't', 'y'] => some (.infinity negative)
  | _ => (readFraction negative cs).map .fraction

/-- A magnitude whose leading digit is beyond this exponent overflows every format here. -/
def overflowExponent : Int := 310

/-- A magnitude below ten to this exponent rounds to zero in every format here. -/
def underflowExponent : Int := -330

/-- Rounds a decimal fraction by `round`, which sees only exponents of a sensible size. -/
def DecimalFraction.rounded (f : DecimalFraction) (round : Bool → Nat → Nat → Binary64) :
    Binary64 :=
  let size := f.exponent + (Nat.toDigits 10 f.digits).length
  if f.digits = 0 then .finite (Finite.zero f.negative)
  else if overflowExponent < size then .infinite f.negative
  else if size < underflowExponent then .finite (Finite.zero f.negative)
  else round f.negative (f.digits * tenTo f.exponent.toNat) (tenTo (-f.exponent).toNat)

/-- Reads a number and rounds it by `round`. -/
def readRounded (round : Bool → Nat → Nat → Binary64) (text : String) : Option Binary64 :=
  (readNumberText text).map fun
    | .fraction f => f.rounded round
    | .infinity negative => .infinite negative
    | .notANumber => .nan

/-- The double nearest to the number that a text names. -/
def readBinary64 (text : String) : Option Binary64 :=
  readRounded Binary64.ofRatio text

/-- The single-precision number nearest to the number that a text names. -/
def readBinary32 (text : String) : Option Binary64 :=
  readRounded Binary64.ofRatioSingle text

end Parlance
