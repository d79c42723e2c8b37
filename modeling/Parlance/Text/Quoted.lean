import Parlance.Text.Extending
import Parlance.Text.Ignorable
import Parlance.Text.Unprintable

/-!
# Quoted text

The form in which diagnostics show a text: in double quotes, with every character escaped that a
reader could not see or could not tell from the quotes. An apostrophe stands as it is.
-/

namespace Parlance.Text

/-- Whether `c` merges into the character before it. -/
def isMerging (c : Char) : Bool :=
  extending.holds .v18 c

/-- Whether a quoted text shows `c` as itself: it prints, and it does not merge into the character
before it. -/
def isVisible (c : Char) : Bool :=
  let n := c.toNat
  if n < 0x7F then 0x20 ≤ n else !(isUnprintable c || isMerging c || isIgnorable c)

/-- The lower-case hexadecimal digits of `n`, without leading zeros. -/
def hexDigits (n : Nat) : List Char :=
  Nat.toDigits 16 n

/-- One character inside quotes: the short escapes first, then the character itself if it is
visible, else its code point in braces. -/
def quotedChar (c : Char) : List Char :=
  match c with
  | '\x00' => ['\\', '0']
  | '\t' => ['\\', 't']
  | '\r' => ['\\', 'r']
  | '\n' => ['\\', 'n']
  | '"' => ['\\', '"']
  | '\\' => ['\\', '\\']
  | c => if isVisible c then [c] else ['\\', 'u', '\x7b'] ++ hexDigits c.toNat ++ ['\x7d']

/-- The quoted form of `s`. -/
def quoted (s : String) : String :=
  String.ofList ('"' :: s.toList.flatMap quotedChar ++ ['"'])

end Parlance.Text
