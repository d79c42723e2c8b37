import Parlance.Text.EditDistance

/-!
# Suggestions

The keys that someone who wrote a missing key may have meant: at most three, closest first.
-/

namespace Parlance

/-- How far a suggestion may be from the missing key. Keys of up to three bytes allow one edit. -/
def suggestionReach (target : String) : Nat :=
  if target.utf8ByteSize ≤ 3 then 1 else 2

/-- How many suggestions are made. -/
def suggestionCount : Nat := 3

/-- The order of candidates: by distance, and by name where that is the same. -/
def closer (a b : Nat × String) : Bool :=
  a.1 < b.1 || (a.1 == b.1 && decide (a.2 ≤ b.2))

/-- The candidates within reach, each with its distance. -/
def candidates (target : String) (available : List String) : List (Nat × String) :=
  (available.map fun key => (Text.editDistance target.toList key.toList, key)).filter fun c =>
    0 < c.1 && c.1 ≤ suggestionReach target

/-- The suggestions for a missing key among the available ones. -/
def suggest (target : String) (available : List String) : List String :=
  (((candidates target available).mergeSort closer).take suggestionCount).map Prod.snd

end Parlance
