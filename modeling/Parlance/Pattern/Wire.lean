import Parlance.Pattern.Basic
import Parlance.Real.Reading

/-!
# The wire format of patterns

How a pattern is written in JSON: a string is a text, an array holds the segments. A segment is a
string, or an object with exactly one member named `arg` that selects an argument, by an integer of
64 bits or by a string; its other members are the options. Any other item of the array is kept as a
segment that does not compile.
-/

namespace Parlance

/-- The member that selects the argument. -/
def selectorName : String := "arg"

namespace Selector

/-- The selector that a JSON value is, if it is one. -/
def ofJson? : Json → Option Selector
  | .integer n => if fitsSigned 64 n then some (.index n) else none
  | .string s => some (.name s)
  | _ => none

/-- A selector in JSON. -/
def toJson : Selector → Json
  | .index i => .integer i
  | .name n => .string n

end Selector

namespace Segment

/-- The selector among the members of an object: the value of the one member of its name. -/
def selectorOf? (members : List (String × Json)) : Option Selector :=
  match members.filter fun m => m.1 == selectorName with
  | [(_, value)] => Selector.ofJson? value
  | _ => none

/-- The segment that a JSON value is. -/
def ofJson : Json → Segment
  | .string s => .text s
  | .object members =>
    match selectorOf? members with
    | some selector =>
      .argument selector (Options.ofMembers (members.filter fun m => m.1 != selectorName))
    | none => .unsupported (Json.object members).canonical
  | j => .unsupported j.canonical

/-- A segment in JSON: the selector first, then the options. -/
def toJson : Segment → Json
  | .text s => .string s
  | .argument selector options => .object ((selectorName, selector.toJson) :: options.members)
  | .unsupported value => value

end Segment

namespace Pattern

/-- The pattern that a JSON value is. -/
def ofJson? : Json → Option Pattern
  | .string s => some (.text s)
  | .array items => some (.segments (items.map Segment.ofJson))
  | _ => none

/-- A pattern in JSON. -/
def toJson : Pattern → Json
  | .text s => .string s
  | .segments list => .array (list.map Segment.toJson)

end Pattern

end Parlance
