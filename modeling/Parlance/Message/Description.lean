import Parlance.Message.Value
import Parlance.Text.Quoted

/-!
# Describing requests and values

The texts in which diagnostics show requests and values. A request is also shown in this form in
place of a missing text.
-/

namespace Parlance

namespace Value

/-- What a request begins with: its key and the locale it prefers. -/
def requestHead (key : String) (locale : Option String) : String :=
  "MessageRequest(" ++ key ++
    match locale with
    | some tag => ", locale=" ++ Text.quoted tag
    | none => ""

mutual

/-- A value as diagnostics show it. -/
def description : Value → String
  | .string s => Text.quoted s
  | .message r => describeRequest r
  | .list items => "[" ++ describeItems "" items ++ "]"
  | .integer n => String.ofList (decimalInt n)
  | .float x => String.ofList x.plain
  | .custom _ _ text _ => text

/-- A request as diagnostics show it: the key, the preferred locale if there is one, and the
arguments. -/
def describeRequest : Request Value → String
  | ⟨key, locale, args, named⟩ =>
    requestHead key locale ++ ", [" ++ describeItems "" args ++ "], \x7b" ++
      describeNamed "" named ++ "\x7d)"

/-- Values in a row, the first behind `lead`, every other behind a comma. -/
def describeItems (lead : String) : List Value → String
  | [] => ""
  | v :: rest => lead ++ description v ++ describeItems ", " rest

/-- Named values in a row, the first behind `lead`, every other behind a comma. -/
def describeNamed (lead : String) : List (String × Value) → String
  | [] => ""
  | (name, v) :: rest => lead ++ name ++ ": " ++ description v ++ describeNamed ", " rest

end

end Value

/-- A request as diagnostics show it. -/
def Request.description (r : Message) : String :=
  Value.describeRequest r

/-- A request by its fields. -/
def Request.fieldDescription (r : Message) : String :=
  let locale := match r.locale with
    | some tag => "Some(" ++ Text.quoted tag ++ ")"
    | none => "None"
  let quotedNames := r.named.map fun (name, v) => (Text.quoted name, v)
  "MessageRequest \x7b key: " ++ Text.quoted r.key ++ ", locale: " ++ locale ++ ", args: [" ++
    Value.describeItems "" r.args ++ "], named: \x7b" ++ Value.describeNamed "" quotedNames ++
    "\x7d \x7d"

end Parlance
