/-!
# Rounding a quotient

The whole number nearest to a quotient of natural numbers, a tie going to the even neighbour.
-/

namespace Parlance

/-- The whole number nearest to `num / den`; of two equally near ones the even one. -/
def roundHalfEven (num den : Nat) : Nat :=
  let low := num / den
  let twice := 2 * (num % den)
  if twice < den then low
  else if den < twice then low + 1
  else if low % 2 = 0 then low
  else low + 1

end Parlance
