import Parlance.Json.Literal

/-!
# Reading JSON

A JSON text is read from left to right; the first fault ends the reading. The members of an object
are kept in order, repeated names included. `room` bounds the brackets that may be open at once.
-/

namespace Parlance.Json

/-- Whether JSON allows `c` between its tokens. -/
def isSpace (c : Char) : Bool :=
  c == ' ' || c == '\n' || c == '\t' || c == '\r'

/-- The text behind leading blanks. -/
def skipSpace (cs : List Char) : List Char :=
  cs.dropWhile isSpace

/-- How many brackets may be open at once. -/
def bracketLimit : Nat := 127

/-- The rest of a name such as `null`, behind its first letter. -/
def readIdent (value : Json) : (expected : List Char) → List Char → Step Json
  | [], rest => .ok (value, rest)
  | _ :: _, [] => stopAt .endInValue []
  | e :: expected, c :: rest =>
    if c = e then readIdent value expected rest else stopOn .expectedIdent (c :: rest)

/-- A name with the colon behind it, behind its opening quote. -/
def readName (cs : List Char) : Step (Option String) :=
  match readString cs with
  | .error stop => .error stop
  | .ok (name, rest) =>
    match skipSpace rest with
    | [] => stopOn .endInObject []
    | ':' :: rest => .ok (some name, rest)
    | rest => stopOn .expectedColon rest

/-- The next name of an object with the colon behind it, or none at the closing bracket, which is
left unread. `first` is true behind the opening bracket. -/
def nextName (first : Bool) (cs : List Char) : Step (Option String) :=
  match skipSpace cs with
  | [] => stopOn .endInObject []
  | '\x7d' :: rest => .ok (none, '\x7d' :: rest)
  | c :: rest =>
    if first then
      if c = '"' then readName rest else stopOn .keyMustBeString (c :: rest)
    else if c = ',' then
      match skipSpace rest with
      | [] => stopOn .endInValue []
      | '"' :: rest => readName rest
      | '\x7d' :: rest => stopOn .trailingComma ('\x7d' :: rest)
      | rest => stopOn .keyMustBeString rest
    else stopOn .expectedObjectCommaOrEnd (c :: rest)

/-- Whether an item of a list follows: at its first character if so, else none at the closing
bracket, which is left unread. -/
def nextItem (first : Bool) (cs : List Char) : Step (Option Unit) :=
  match skipSpace cs with
  | [] => stopOn .endInList []
  | ']' :: rest => .ok (none, ']' :: rest)
  | c :: rest =>
    if first then .ok (some (), c :: rest)
    else if c = ',' then
      match skipSpace rest with
      | [] => stopOn .endInValue []
      | ']' :: rest => stopOn .trailingComma (']' :: rest)
      | rest => .ok (some (), rest)
    else stopOn .expectedListCommaOrEnd (c :: rest)

mutual

/-- A value. Every call reads a character before the next, so the length of the text is fuel
enough. -/
def valueFrom : (fuel room : Nat) → List Char → Step Json
  | 0, _, cs => stopAt .endInValue cs
  | fuel + 1, room, cs =>
    match skipSpace cs with
    | [] => stopOn .endInValue []
    | 'n' :: rest => readIdent .null ['u', 'l', 'l'] rest
    | 't' :: rest => readIdent (.bool true) ['r', 'u', 'e'] rest
    | 'f' :: rest => readIdent (.bool false) ['a', 'l', 's', 'e'] rest
    | '-' :: rest => readNumber true rest
    | '"' :: rest =>
      match readString rest with
      | .error stop => .error stop
      | .ok (s, rest) => .ok (.string s, rest)
    | '[' :: rest =>
      match room with
      | 0 => stopOn .recursionLimit ('[' :: rest)
      | room + 1 => itemsFrom fuel room [] rest
    | '\x7b' :: rest =>
      match room with
      | 0 => stopOn .recursionLimit ('\x7b' :: rest)
      | room + 1 => membersFrom fuel room [] rest
    | c :: rest =>
      if c.isDigit then readNumber false (c :: rest) else stopOn .expectedValue (c :: rest)

/-- The items of a list behind its opening bracket; `seen` holds those before, the last first. -/
def itemsFrom : (fuel room : Nat) → (seen : List Json) → List Char → Step Json
  | 0, _, _, cs => stopAt .endInList cs
  | fuel + 1, room, seen, cs =>
    match nextItem seen.isEmpty cs with
    | .error stop => .error stop
    | .ok (none, rest) => .ok (.array seen.reverse, rest.drop 1)
    | .ok (some (), rest) =>
      match valueFrom fuel room rest with
      | .error stop => .error stop
      | .ok (j, rest) => itemsFrom fuel room (j :: seen) rest

/-- The members of an object behind its opening bracket; `seen` holds those before, the last
first. -/
def membersFrom : (fuel room : Nat) → (seen : List (String × Json)) → List Char → Step Json
  | 0, _, _, cs => stopAt .endInObject cs
  | fuel + 1, room, seen, cs =>
    match nextName seen.isEmpty cs with
    | .error stop => .error stop
    | .ok (none, rest) => .ok (.object seen.reverse, rest.drop 1)
    | .ok (some name, rest) =>
      match valueFrom fuel room rest with
      | .error stop => .error stop
      | .ok (j, rest) => membersFrom fuel room ((name, j) :: seen) rest

end

/-- A value at the start of a text, and the text behind it. -/
def readValue (room : Nat) (cs : List Char) : Step Json :=
  valueFrom (2 * cs.length + 2) room cs

/-- Nothing but blanks may follow. -/
def readEnd (cs : List Char) : Except Stop Unit :=
  match skipSpace cs with
  | [] => .ok ()
  | rest => stopOn .trailingCharacters rest

/-- A text that is one JSON value. -/
def parse (room : Nat) (text : String) : Except Stop Json := do
  let (j, rest) ← readValue room text.toList
  readEnd rest
  return j

end Parlance.Json
