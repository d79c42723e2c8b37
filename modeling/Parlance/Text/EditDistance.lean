/-!
# Edit distance

The least number of insertions, deletions and substitutions of single characters that turn one text
into another, by rows: a row holds the distances from one suffix of the source to every suffix of
the target, the longest suffix first.
-/

namespace Parlance.Text

/-- The distances from the empty text to every suffix of `target`: their lengths. -/
def emptyRow : List Char → List Nat
  | [] => [0]
  | _ :: target => (target.length + 1) :: emptyRow target

/-- The row of `c :: source` from the row of `source`. Each entry is the cheapest of deleting `c`,
inserting the target's character, and matching the two. -/
def nextRow (c : Char) : List Char → List Nat → List Nat
  | d :: target, below :: diagonal :: rest =>
    match nextRow c target (diagonal :: rest) with
    | [] => []
    | right :: row =>
      min (below + 1) (min (right + 1) (diagonal + if c = d then 0 else 1)) :: right :: row
  | [], below :: _ => [below + 1]
  | _, _ => []

/-- The row of `source`. -/
def distanceRow (source target : List Char) : List Nat :=
  source.foldr (fun c row => nextRow c target row) (emptyRow target)

/-- The edit distance between two texts, counted in characters. -/
def editDistance (source target : List Char) : Nat :=
  (distanceRow source target).headD 0

end Parlance.Text
