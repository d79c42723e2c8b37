import Parlance.Json.Basic
import Parlance.Real.Shortest

/-!
# Writing JSON

Two forms of a value: compact, without any blank, and pretty, with two blanks for each level. Both
keep members in their order and leave all characters but quotes, backslashes and controls as they
are.
-/

namespace Parlance.Json

/-- In JSON a number is positional from 0.00001 up to below 10^16, its exponent always has a sign,
and of two equally near decimals the even one is taken. -/
def numberLayout : Layout := ⟨.even, -5, 15, true⟩

/-- One hexadecimal digit. -/
def hexDigit (n : Nat) : Char :=
  (Nat.toDigits 16 n).headD '0'

/-- One character inside a JSON string. -/
def escapedChar (c : Char) : List Char :=
  match c with
  | '"' => ['\\', '"']
  | '\\' => ['\\', '\\']
  | '\x08' => ['\\', 'b']
  | '\x0c' => ['\\', 'f']
  | '\n' => ['\\', 'n']
  | '\r' => ['\\', 'r']
  | '\t' => ['\\', 't']
  | c =>
    let n := c.toNat
    if n < 0x20 then ['\\', 'u', '0', '0', hexDigit (n / 16), hexDigit (n % 16)] else [c]

/-- A JSON string literal. -/
def stringLiteral (s : String) : String :=
  String.ofList ('"' :: s.toList.flatMap escapedChar ++ ['"'])

/-- The text of a value that has no parts. -/
def atom : Json → String
  | .null => "null"
  | .bool b => if b then "true" else "false"
  | .integer n => String.ofList (decimalInt n)
  | .real x => String.ofList (x.text numberLayout)
  | .string s => stringLiteral s
  | .array _ => "[]"
  | .object _ => "\x7b\x7d"

/-! ## Compact -/

mutual

/-- The value without any blank. -/
def compact : Json → String
  | .array items => "[" ++ compactItems "" items ++ "]"
  | .object members => "\x7b" ++ compactMembers "" members ++ "\x7d"
  | j => atom j

/-- The items, the first behind `lead`, every other behind a comma. -/
def compactItems (lead : String) : List Json → String
  | [] => ""
  | j :: rest => lead ++ compact j ++ compactItems "," rest

/-- The members, the first behind `lead`, every other behind a comma. -/
def compactMembers (lead : String) : List (String × Json) → String
  | [] => ""
  | (name, j) :: rest =>
    lead ++ stringLiteral name ++ ":" ++ compact j ++ compactMembers "," rest

end

/-! ## Pretty -/

/-- A new line at the given level. -/
def newLine (level : Nat) : String :=
  String.ofList ('\n' :: List.replicate (2 * level) ' ')

mutual

/-- The value with one item or member a line. -/
def pretty (level : Nat) : Json → String
  | .array (j :: rest) =>
    "[" ++ prettyItems (level + 1) "" (j :: rest) ++ newLine level ++ "]"
  | .object (m :: rest) =>
    "\x7b" ++ prettyMembers (level + 1) "" (m :: rest) ++ newLine level ++ "\x7d"
  | j => atom j

/-- The items, each on a line of its own, the first behind `lead`, every other behind a comma. -/
def prettyItems (level : Nat) (lead : String) : List Json → String
  | [] => ""
  | j :: rest => lead ++ newLine level ++ pretty level j ++ prettyItems level "," rest

/-- The members, each on a line of its own, the first behind `lead`, every other behind a comma. -/
def prettyMembers (level : Nat) (lead : String) : List (String × Json) → String
  | [] => ""
  | (name, j) :: rest =>
    lead ++ newLine level ++ stringLiteral name ++ ": " ++ pretty level j ++
      prettyMembers level "," rest

end

end Parlance.Json
