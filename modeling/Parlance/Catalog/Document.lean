import Parlance.Json.Reader
import Parlance.Pattern.Wire
import Parlance.Text.Quoted

/-!
# Catalog documents

A catalog document is a JSON object whose members give a key and a pattern each. The first fault
ends the reading: one of JSON, a document that is no object, or a member that is no pattern. The
latter is found when the whole member has been read, and its place is behind the blanks after it and
behind a closing bracket if one follows.
-/

namespace Parlance

/-! ## Faults -/

/-- Why a text is not a catalog document or not a pattern. -/
inductive DocumentFault where
  | notJson (fault : Json.Fault)
  | notAMap (found : Json)
  | notAPattern

/-- What a JSON value is, in the error of a document that is no object. -/
def foundText : Json → String
  | .null => "null"
  | .bool b => "boolean `" ++ (if b then "true" else "false") ++ "`"
  | .integer n => "integer `" ++ String.ofList (decimalInt n) ++ "`"
  | .real x => "floating point `" ++ String.ofList (x.text Json.numberLayout) ++ "`"
  | .string s => "string " ++ Text.quoted s
  | .array _ => "sequence"
  | .object _ => "map"

/-- What a person is told of a fault. -/
def DocumentFault.message : DocumentFault → String
  | .notJson fault => fault.message
  | .notAMap found => "invalid type: " ++ foundText found ++ ", expected a map"
  | .notAPattern => "data did not match any variant of untagged enum Pattern"

/-- A fault and its place, if it has one. -/
structure DocumentError where
  fault : DocumentFault
  position : Option Position

/-- The full text of an error. -/
def DocumentError.message (e : DocumentError) : String :=
  e.fault.message ++
    match e.position with
    | some p => " at line " ++ toString p.line ++ " column " ++ toString p.column
    | none => ""

/-! ## Reading -/

namespace Document

/-- The end of a reading: a fault with the number of bytes not read. -/
structure Halt where
  fault : DocumentFault
  left : Nat

/-- A stop of the JSON reader ends the reading. -/
def Halt.ofStop (stop : Json.Stop) : Halt :=
  ⟨.notJson stop.fault, stop.left⟩

/-- A member that is no pattern, with the text behind it. -/
def Halt.notAPattern (rest : List Char) : Halt :=
  match Json.skipSpace rest with
  | '\x7d' :: rest => ⟨.notAPattern, byteCount rest⟩
  | rest => ⟨.notAPattern, byteCount rest⟩

/-- The error that a halt is for the reader of the text. -/
def Halt.toError (h : Halt) (text : List Char) : DocumentError :=
  ⟨h.fault, some (Position.after text (byteCount text - h.left))⟩

/-- The members of a document behind its opening bracket; `seen` holds those before, the last first.
Every member is at least a character, so the length of the text is fuel enough. -/
def membersFrom : (fuel : Nat) → (seen : List (String × Pattern)) → List Char →
    Except Halt (List (String × Pattern) × List Char)
  | 0, _, cs => .error ⟨.notJson .endInObject, byteCount cs⟩
  | fuel + 1, seen, cs =>
    match Json.nextName seen.isEmpty cs with
    | .error stop => .error (.ofStop stop)
    | .ok (none, rest) => .ok (seen.reverse, rest.drop 1)
    | .ok (some key, rest) =>
      match Json.readValue (Json.bracketLimit - 1) rest with
      | .error stop => .error (.ofStop stop)
      | .ok (j, rest) =>
        match Pattern.ofJson? j with
        | some p => membersFrom fuel ((key, p) :: seen) rest
        | none => .error (.notAPattern rest)

/-- The members of a document and the text behind it. A list is refused where it begins, any other
value where it ends. -/
def membersOf (cs : List Char) : Except Halt (List (String × Pattern) × List Char) :=
  match Json.skipSpace cs with
  | '\x7b' :: rest => membersFrom (rest.length + 1) [] rest
  | '[' :: rest => .error ⟨.notAMap (.array []), byteCount ('[' :: rest)⟩
  | rest =>
    match Json.readValue Json.bracketLimit rest with
    | .error stop => .error (.ofStop stop)
    | .ok (j, rest) => .error ⟨.notAMap j, byteCount rest⟩

/-- Reads a document: its keys and patterns in the order of the text. -/
def parse (text : String) : Except DocumentError (List (String × Pattern)) :=
  match membersOf text.toList with
  | .error h => .error (h.toError text.toList)
  | .ok (members, rest) =>
    match Json.readEnd rest with
    | .error stop => .error ((Halt.ofStop stop).toError text.toList)
    | .ok () => .ok members

end Document

/-- Reads a single pattern. A value that is no pattern has no place, and is refused before what
follows it is looked at. -/
def Pattern.parse (text : String) : Except DocumentError Pattern :=
  let fail (stop : Json.Stop) : Except DocumentError Pattern :=
    .error ((Document.Halt.ofStop stop).toError text.toList)
  match Json.readValue Json.bracketLimit text.toList with
  | .error stop => fail stop
  | .ok (j, rest) =>
    match Pattern.ofJson? j with
    | none => .error ⟨.notAPattern, none⟩
    | some p =>
      match Json.readEnd rest with
      | .error stop => fail stop
      | .ok () => .ok p

end Parlance
