/-!
# Faults in JSON texts

Why a text is not JSON, and where. A reader notes a fault by the number of bytes it has not read
yet; a person is told the line and the column.
-/

namespace Parlance

/-! ## Places in a text -/

/-- How many bytes the characters take in UTF-8. -/
def byteCount : List Char → Nat
  | [] => 0
  | c :: rest => c.utf8Size + byteCount rest

/-- A place in a text: the line, from 1, and the bytes read on that line. -/
structure Position where
  line : Nat
  column : Nat
  deriving DecidableEq

/-- The place reached from `p` when `count` bytes of the text are read. -/
def Position.advance (p : Position) : List Char → Nat → Position
  | [], _ => p
  | c :: rest, count =>
    if count < c.utf8Size then ⟨p.line, p.column + count⟩
    else if c = '\n' then advance ⟨p.line + 1, 0⟩ rest (count - c.utf8Size)
    else advance ⟨p.line, p.column + c.utf8Size⟩ rest (count - c.utf8Size)

/-- The place after the first `count` bytes of a text. -/
def Position.after (text : List Char) (count : Nat) : Position :=
  Position.advance ⟨1, 0⟩ text count

namespace Json

/-! ## Faults -/

/-- Why a text is not JSON. -/
inductive Fault where
  | endInValue
  | endInList
  | endInObject
  | endInString
  | expectedColon
  | expectedListCommaOrEnd
  | expectedObjectCommaOrEnd
  | expectedIdent
  | expectedValue
  | invalidEscape
  | invalidNumber
  | numberOutOfRange
  | controlCharacter
  | keyMustBeString
  | loneSurrogate
  | endOfHexEscape
  | trailingComma
  | trailingCharacters
  | recursionLimit
  deriving DecidableEq

/-- What a person is told of a fault. -/
def Fault.message : Fault → String
  | .endInValue => "EOF while parsing a value"
  | .endInList => "EOF while parsing a list"
  | .endInObject => "EOF while parsing an object"
  | .endInString => "EOF while parsing a string"
  | .expectedColon => "expected `:`"
  | .expectedListCommaOrEnd => "expected `,` or `]`"
  | .expectedObjectCommaOrEnd => "expected `,` or `\x7d`"
  | .expectedIdent => "expected ident"
  | .expectedValue => "expected value"
  | .invalidEscape => "invalid escape"
  | .invalidNumber => "invalid number"
  | .numberOutOfRange => "number out of range"
  | .controlCharacter => "control character (\\u0000-\\u001F) found while parsing a string"
  | .keyMustBeString => "key must be a string"
  | .loneSurrogate => "lone leading surrogate in hex escape"
  | .endOfHexEscape => "unexpected end of hex escape"
  | .trailingComma => "trailing comma"
  | .trailingCharacters => "trailing characters"
  | .recursionLimit => "recursion limit exceeded"

/-- A reader's stop: the fault and the number of bytes not read. -/
structure Stop where
  fault : Fault
  left : Nat
  deriving DecidableEq

/-- What a reader gives: a result and the characters behind it, or a stop. -/
abbrev Step (α : Type) := Except Stop (α × List Char)

/-- A stop before `rest`. -/
def stopAt {α : Type} (fault : Fault) (rest : List Char) : Except Stop α :=
  .error ⟨fault, byteCount rest⟩

/-- A stop at the byte that `rest` begins with, which counts as read. -/
def stopOn {α : Type} (fault : Fault) (rest : List Char) : Except Stop α :=
  .error ⟨fault, byteCount rest - 1⟩

end Json

end Parlance
