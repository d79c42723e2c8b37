import Parlance.Json.Basic
import Parlance.Json.Fault
import Parlance.Real.Reading

/-!
# Reading JSON strings and numbers

The leaves of a JSON text. A string may hold any character but quotes, backslashes and controls, and
escapes for those; a character beyond the sixteen-bit range is escaped as a pair of surrogates.

A number without point and exponent that fits 64 bits is an integer. Of any other the leading digits
that fit 64 bits are rounded to a double, which is then multiplied or divided by a power of ten.
-/

namespace Parlance.Json

/-! ## Strings -/

/-- The value of a hexadecimal digit. -/
def hexValue (c : Char) : Option Nat :=
  if c.isDigit then some (c.toNat - '0'.toNat)
  else if 'a' ≤ c ∧ c ≤ 'f' then some (c.toNat - 'a'.toNat + 10)
  else if 'A' ≤ c ∧ c ≤ 'F' then some (c.toNat - 'A'.toNat + 10)
  else none

/-- The number that four hexadecimal digits spell. -/
def fourHex (a b c d : Char) : Option Nat := do
  some ((((← hexValue a) * 16 + (← hexValue b)) * 16 + (← hexValue c)) * 16 + (← hexValue d))

/-- The four bytes of a hexadecimal escape. -/
def hexEscape (cs : List Char) : Step Nat :=
  let bad := if byteCount cs < 4 then .error ⟨.endInString, 0⟩
    else .error ⟨.invalidEscape, byteCount cs - 4⟩
  match cs with
  | a :: b :: c :: d :: rest =>
    match fourHex a b c d with
    | some n => .ok (n, rest)
    | none => bad
  | _ => bad

/-- The second half of a pair of surrogates, whose first half is `lead`. -/
def trailingSurrogate (lead : Nat) : List Char → Step Char
  | [] => stopAt .endInString []
  | '\\' :: [] => stopAt .endInString []
  | '\\' :: 'u' :: rest =>
    match hexEscape rest with
    | .error stop => .error stop
    | .ok (trail, rest) =>
      if trail < 0xDC00 || 0xDFFF < trail then stopAt .loneSurrogate rest
      else .ok (Char.ofNat ((lead - 0xD800) * 0x400 + (trail - 0xDC00) + 0x10000), rest)
  | '\\' :: rest => stopOn .endOfHexEscape rest
  | rest => stopOn .endOfHexEscape rest

/-- The character of an escape by number, behind its backslash and mark. -/
def numberedEscape (cs : List Char) : Step Char :=
  match hexEscape cs with
  | .error stop => .error stop
  | .ok (n, rest) =>
    if 0xDC00 ≤ n && n ≤ 0xDFFF then stopAt .loneSurrogate rest
    else if 0xD800 ≤ n && n ≤ 0xDBFF then trailingSurrogate n rest
    else .ok (Char.ofNat n, rest)

/-- The character of an escape, behind its backslash. -/
def escape : List Char → Step Char
  | [] => stopAt .endInString []
  | '"' :: rest => .ok ('"', rest)
  | '\\' :: rest => .ok ('\\', rest)
  | '/' :: rest => .ok ('/', rest)
  | 'b' :: rest => .ok ('\x08', rest)
  | 'f' :: rest => .ok ('\x0c', rest)
  | 'n' :: rest => .ok ('\n', rest)
  | 'r' :: rest => .ok ('\r', rest)
  | 't' :: rest => .ok ('\t', rest)
  | 'u' :: rest => numberedEscape rest
  | rest => stopOn .invalidEscape rest

/-- The characters of a string up to its closing quote; `seen` holds those before, the last first.
Every step reads a character, so the length of the text is fuel enough. -/
def stringBody : (fuel : Nat) → (seen : List Char) → List Char → Step String
  | 0, _, rest => stopAt .endInString rest
  | _ + 1, _, [] => stopAt .endInString []
  | _ + 1, seen, '"' :: rest => .ok (String.ofList seen.reverse, rest)
  | fuel + 1, seen, '\\' :: rest =>
    match escape rest with
    | .error stop => .error stop
    | .ok (c, rest) => stringBody fuel (c :: seen) rest
  | fuel + 1, seen, c :: rest =>
    if c.toNat < 0x20 then stopOn .controlCharacter (c :: rest)
    else stringBody fuel (c :: seen) rest

/-- A string, behind its opening quote. -/
def readString (cs : List Char) : Step String :=
  stringBody (cs.length + 1) [] cs

/-! ## Numbers -/

/-- The natural numbers kept exactly while digits are read. -/
def significandLimit : Nat := twoTo 64

/-- Adds digits to a number as long as it stays below the limit. Gives the number, how many digits
were added, and the rest from the first character on that was not. -/
def accumulate (n : Nat) : List Char → Nat × Nat × List Char
  | [] => (n, 0, [])
  | c :: rest =>
    let next := 10 * n + (c.toNat - '0'.toNat)
    if c.isDigit && next < significandLimit then
      let (total, count, rest) := accumulate next rest
      (total, count + 1, rest)
    else (n, 0, c :: rest)

/-- A power of ten as a double. -/
def powerOfTen (k : Nat) : Binary64 :=
  Binary64.ofRatio false (tenTo k) 1

/-- The largest power of ten that is a double. -/
def largestPower : Nat := 308

/-- Multiplies a non-negative double by a power of ten in double arithmetic. It is `none` beyond the
largest double. Two divisions by the largest power bring any double of a significand to zero. -/
def scaled (f : Finite) (exponent : Int) : (fuel : Nat) → Option Finite
  | 0 => some (Finite.zero false)
  | fuel + 1 =>
    if f.units = 0 then some f
    else if 0 ≤ exponent then
      if largestPower < exponent.toNat then none
      else match powerOfTen exponent.toNat with
        | .finite p => match Binary64.mul f p with
          | .finite x => some x
          | _ => none
        | _ => none
    else
      let k := min largestPower (-exponent).toNat
      match powerOfTen k with
      | .finite p => match Binary64.div f p with
        | .finite x => if k = (-exponent).toNat then some x else scaled x (exponent + k) fuel
        | _ => none
      | _ => none

/-- The double for `significand * 10^exponent`; `none` beyond the largest double. -/
def magnitude (significand : Nat) (exponent : Int) : Option Finite :=
  match Binary64.ofRatio false significand 1 with
  | .finite f => scaled f exponent 4
  | _ => none

/-- A number of the given magnitude, if there is a double for it. -/
def ofMagnitude (negative : Bool) (rest : List Char) : Option Finite → Step Json
  | some x => .ok (.real { x with negative := negative }, rest)
  | none => stopAt .numberOutOfRange rest

/-- The number `significand * 10^exponent`, with its sign. -/
def ofParts (negative : Bool) (significand : Nat) (exponent : Int) (rest : List Char) : Step Json :=
  ofMagnitude negative rest (magnitude significand exponent)

/-- The exponents that are told apart. -/
def exponentLimit : Nat := twoTo 31

/-- Adds digits to an exponent as long as it stays below the limit; `none` if it does not, with the
rest behind the digit that is too many. -/
def exponentDigits (n : Nat) : List Char → Option Nat × List Char
  | [] => (some n, [])
  | c :: rest =>
    let next := 10 * n + (c.toNat - '0'.toNat)
    if !c.isDigit then (some n, c :: rest)
    else if next < exponentLimit then exponentDigits next rest
    else (none, rest)

/-- The exponent of a number, behind its mark. -/
def exponentPart (negative : Bool) (significand : Nat) (start : Int) (cs : List Char) :
    Step Json :=
  let (down, digits) := splitSign cs
  match digits with
  | [] => stopAt .endInValue []
  | c :: rest =>
    if !c.isDigit then stopOn .invalidNumber (c :: rest)
    else match exponentDigits 0 (c :: rest) with
      | (some n, rest) => ofParts negative significand (if down then start - n else start + n) rest
      | (none, rest) =>
        if significand ≠ 0 && !down then stopAt .numberOutOfRange rest
        else .ok (.real (Finite.zero negative), rest.dropWhile Char.isDigit)

/-- What follows the digits of a number with a point or with too many digits. -/
def fractionEnd (negative : Bool) (significand : Nat) (exponent : Int) (cs : List Char) :
    Step Json :=
  match cs with
  | 'e' :: rest => exponentPart negative significand exponent rest
  | 'E' :: rest => exponentPart negative significand exponent rest
  | rest => ofParts negative significand exponent rest

/-- The decimal places of a number, behind its point; `skipped` digits of its whole part were not
added to the significand. -/
def placesPart (negative : Bool) (significand skipped : Nat) (cs : List Char) : Step Json :=
  let (total, count, rest) := accumulate significand cs
  let excess := rest.takeWhile Char.isDigit
  if count = 0 && excess.isEmpty then
    if rest.isEmpty then stopOn .endInValue rest else stopOn .invalidNumber rest
  else fractionEnd negative total (skipped - count) (rest.drop excess.length)

/-- The number behind the digits of its whole part. -/
def wholeEnd (negative : Bool) (significand : Nat) (cs : List Char) : Step Json :=
  match cs with
  | '.' :: rest => placesPart negative significand 0 rest
  | 'e' :: rest => exponentPart negative significand 0 rest
  | 'E' :: rest => exponentPart negative significand 0 rest
  | rest =>
    if !negative then .ok (.integer significand, rest)
    else if 0 < significand && significand ≤ twoTo 63 then .ok (.integer (-significand), rest)
    else ofParts true significand 0 rest

/-- A number, behind its minus sign if it has one. -/
def readNumber (negative : Bool) (cs : List Char) : Step Json :=
  match cs with
  | [] => stopAt .endInValue []
  | '0' :: rest =>
    match rest with
    | c :: _ => if c.isDigit then stopOn .invalidNumber rest else wholeEnd negative 0 rest
    | [] => wholeEnd negative 0 []
  | c :: _ =>
    if !c.isDigit then stopOn .invalidNumber cs
    else
      let (significand, _, rest) := accumulate 0 cs
      let excess := rest.takeWhile Char.isDigit
      let rest := rest.drop excess.length
      if excess.isEmpty then wholeEnd negative significand rest
      else match rest with
        | '.' :: rest => placesPart negative significand excess.length rest
        | rest => fractionEnd negative significand excess.length rest

end Parlance.Json
