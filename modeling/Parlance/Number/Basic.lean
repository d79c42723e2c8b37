import Parlance.Real.Shortest

/-!
# Numbers and plural tags

A number that a message can show is a whole number of any size or a double. Its plural tag is one of
four: zero, one and two stand for exactly these numbers, and everything else is other.
-/

namespace Parlance

/-- A number to be shown. -/
inductive Number where
  | integer (n : Int)
  | float (x : Binary64)

/-- The coarse plural category of a number. -/
inductive PluralTag where
  | zero
  | one
  | two
  | other
  deriving DecidableEq

/-- The tag in message keys. -/
def PluralTag.text : PluralTag → String
  | .zero => "zero"
  | .one => "one"
  | .two => "two"
  | .other => "other"

namespace Number

/-- Whether the number is the natural number `k`; both zeros are. -/
def isNat (v : Number) (k : Nat) : Bool :=
  match v with
  | .integer n => n == k
  | .float x => x.isNat k

/-- The plural tag of a number. -/
def pluralTag (v : Number) : PluralTag :=
  if v.isNat 0 then .zero
  else if v.isNat 1 then .one
  else if v.isNat 2 then .two
  else .other

/-- How diagnostics show the number, with its kind. -/
def description : Number → String
  | .integer n => "Integer(" ++ String.ofList (decimalInt n) ++ ")"
  | .float x => "Float(" ++ String.ofList x.plain ++ ")"

end Number

end Parlance
