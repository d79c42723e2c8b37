import Parlance.Dict
import Parlance.Real.Binary64

/-!
# JSON values

A JSON value as a document gives it: an object keeps its members in the order in which they were
written, repeated names included. `Json.canonical` is the same value as data: in every object the
members are sorted, and of several members of one name the last stands.

Integers of 64 bits are kept apart from other numbers, which are finite doubles.
-/

namespace Parlance

/-- A JSON value. -/
inductive Json where
  | null
  | bool (b : Bool)
  | integer (n : Int)
  | real (x : Finite)
  | string (s : String)
  | array (items : List Json)
  | object (members : List (String × Json))

namespace Json

mutual

/-- The value with the members of every object sorted and made unique. -/
def canonical : Json → Json
  | .array items => .array (canonicalItems items)
  | .object members => .object (Dict.ofMembers (canonicalMembers members))
  | j => j

/-- `canonical` for every item of an array. -/
def canonicalItems : List Json → List Json
  | [] => []
  | j :: rest => canonical j :: canonicalItems rest

/-- `canonical` for every member of an object, which stay in place. -/
def canonicalMembers : List (String × Json) → List (String × Json)
  | [] => []
  | (name, j) :: rest => (name, canonical j) :: canonicalMembers rest

end

/-- A value is canonical if the members of every object in it are sorted and unique. -/
def IsCanonical (j : Json) : Prop :=
  j.canonical = j

end Json

end Parlance
