import Parlance.Number.Spec

/-!
# Applying number formats

A format is applied to a number by replacing every conversion. A whole-number conversion cuts the
places of a double off, without a sign if nothing is left, and has no text for an infinity or for
what is no number.
-/

namespace Parlance

namespace Conversion

/-- The precision of a fixed conversion that names none. -/
def defaultPrecision : Nat := 6

/-- A double cut to a whole number; `none` if it is not finite. -/
def truncated : Binary64 → Option (List Char)
  | .finite x =>
    let whole := x.wholePart
    some (if whole = 0 then ['0'] else signText x.negative ++ decimal whole)
  | _ => none

/-- A plain text cut to the precision. -/
def clip (c : Conversion) (text : List Char) : List Char :=
  match c.precision with
  | some n => text.take n
  | none => text

/-- The number by the kind of the conversion, with a sign only if it is negative. -/
def body (c : Conversion) (v : Number) : Option (List Char) :=
  match c.kind, v with
  | .integer, .integer n => some (decimalInt n)
  | .integer, .float x => truncated x
  | .fixed, .integer n =>
    let places := c.precision.getD defaultPrecision
    some (if places = 0 then decimalInt n
      else decimalInt n ++ '.' :: List.replicate places '0')
  | .fixed, .float x => some (x.fixed (c.precision.getD defaultPrecision))
  | .plain, .integer n => some (c.clip (decimalInt n))
  | .plain, .float x => some (c.clip x.plain)

/-- A plus sign where the flag asks for it and no minus stands. -/
def sign (c : Conversion) (text : List Char) : List Char :=
  if c.plusSign && text.head? != some '-' then '+' :: text else text

/-- Splits a leading sign off. -/
def splitLeadingSign : List Char → List Char × List Char
  | '-' :: rest => (['-'], rest)
  | '+' :: rest => (['+'], rest)
  | rest => ([], rest)

/-- A text filled up to the width: with blanks behind it if it is left-aligned, else with zeros
behind its sign if the flag asks for them and the kind is not plain, else with blanks before it. -/
def pad (c : Conversion) (text : List Char) : List Char :=
  let fill := c.width.getD 0 - text.length
  if c.leftAlign then text ++ List.replicate fill ' '
  else if c.zeroPad && c.kind != .plain then
    let (sign, digits) := splitLeadingSign text
    sign ++ List.replicate fill '0' ++ digits
  else List.replicate fill ' ' ++ text

/-- The text of a number under a conversion. -/
def apply (c : Conversion) (v : Number) : Option (List Char) :=
  (c.body v).map fun text => c.pad (c.sign text)

end Conversion

namespace NumberSpec

/-- The text of the pieces, or the place of the first conversion that has none. -/
def applyPieces (v : Number) : List Piece → Except Nat (List Char)
  | [] => .ok []
  | .literal text :: rest =>
    match applyPieces v rest with
    | .ok tail => .ok (text ++ tail)
    | .error offset => .error offset
  | .conversion offset c :: rest =>
    match c.apply v with
    | none => .error offset
    | some text =>
      match applyPieces v rest with
      | .ok tail => .ok (text ++ tail)
      | .error offset => .error offset

/-- The text of a number in a format. -/
def apply (spec : NumberSpec) (v : Number) : Except SpecError String :=
  match applyPieces v spec.pieces with
  | .ok text => .ok (String.ofList text)
  | .error offset => .error ⟨spec.source, offset, .notAnInteger v⟩

end NumberSpec

end Parlance
