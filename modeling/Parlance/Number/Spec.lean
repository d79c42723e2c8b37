import Parlance.Json.Fault
import Parlance.Number.Basic
import Parlance.Real.Reading

/-!
# Number formats

A number format is a text with conversions in it. A conversion begins with a percent sign and may
have flags, a width and a precision: `%[-+0]*[width][.precision]type`, where the type is `d` or `i`
for a whole number, `f` or `F` for a fixed number of places and `s` for the plain text. Two percent
signs stand for one. A format is read piece by piece; the first place where no piece begins is an
error.
-/

namespace Parlance

/-! ## Formats -/

/-- What a conversion makes of a number. -/
inductive ConversionKind where
  | integer
  | fixed
  | plain
  deriving DecidableEq

/-- A conversion. -/
structure Conversion where
  leftAlign : Bool
  plusSign : Bool
  zeroPad : Bool
  width : Option Nat
  precision : Option Nat
  kind : ConversionKind
  deriving DecidableEq

/-- A piece of a format. A conversion knows its place in the format, in bytes. -/
inductive Piece where
  | literal (text : List Char)
  | conversion (offset : Nat) (c : Conversion)
  deriving DecidableEq

/-- A number format and the text it was read from. -/
structure NumberSpec where
  source : String
  pieces : List Piece

/-! ## Errors -/

/-- Why a format cannot be read or applied. -/
inductive SpecFault where
  | unsupportedConversion (lead : String)
  | notAnInteger (value : Number)

/-- What is wrong, without the place. -/
def SpecFault.message : SpecFault → String
  | .unsupportedConversion lead => "unsupported conversion '" ++ lead ++ "'"
  | .notAnInteger value => "cannot convert " ++ value.description ++ " to an integer"

/-- An error at a place of a format, in bytes. -/
structure SpecError where
  spec : String
  offset : Nat
  fault : SpecFault

/-- The full text of an error. -/
def SpecError.message (e : SpecError) : String :=
  "invalid number format '" ++ e.spec ++ "' at offset " ++ toString e.offset ++ ": " ++
    e.fault.message

/-! ## Reading -/

namespace NumberSpec

/-- The flags of a conversion. -/
def isFlag (c : Char) : Bool :=
  c == '-' || c == '+' || c == '0'

/-- Widths and precisions stay below this. -/
def sizeLimit : Nat := twoTo 64

/-- A width or precision at the start of a text: all digits there, if there are any and the number
is not too large. -/
def readSize (cs : List Char) : Option Nat × List Char :=
  let digits := cs.takeWhile Char.isDigit
  let n := digitsValue digits
  if digits.isEmpty || sizeLimit ≤ n then (none, cs) else (some n, cs.dropWhile Char.isDigit)

/-- A precision with its point; a point without a precision is left unread. -/
def readPrecision (cs : List Char) : Option Nat × List Char :=
  match cs with
  | '.' :: rest =>
    match readSize rest with
    | (some n, rest) => (some n, rest)
    | (none, _) => (none, cs)
  | _ => (none, cs)

/-- The kind that a type letter names. -/
def kindOf : Char → Option ConversionKind
  | 'd' => some .integer
  | 'i' => some .integer
  | 'f' => some .fixed
  | 'F' => some .fixed
  | 's' => some .plain
  | _ => none

/-- A conversion, behind its percent sign. -/
def readConversion (cs : List Char) : Option (Conversion × List Char) :=
  let flags := cs.takeWhile isFlag
  let (width, afterWidth) := readSize (cs.dropWhile isFlag)
  let (precision, afterPrecision) := readPrecision afterWidth
  match afterPrecision with
  | [] => none
  | letter :: rest =>
    (kindOf letter).map fun kind =>
      ({ leftAlign := flags.contains '-'
         plusSign := flags.contains '+'
         zeroPad := flags.contains '0'
         width := width
         precision := precision
         kind := kind }, rest)

/-- The first piece of a text that is not empty, and the text behind it. The text stands at `offset`
in its format. -/
def nextPiece (offset : Nat) : List Char → Option (Piece × List Char)
  | [] => none
  | '%' :: '%' :: rest => some (.literal ['%'], rest)
  | '%' :: rest => (readConversion rest).map fun (c, rest) => (.conversion offset c, rest)
  | c :: rest => some (.literal (c :: rest.takeWhile (· != '%')), rest.dropWhile (· != '%'))

/-! ### A piece is not empty -/

theorem readSize_length_le (cs : List Char) : (readSize cs).2.length ≤ cs.length := by
  simp only [readSize]
  split
  · exact Nat.le_refl _
  · exact (List.dropWhile_sublist _).length_le

theorem readPrecision_length_le (cs : List Char) : (readPrecision cs).2.length ≤ cs.length := by
  unfold readPrecision
  split
  · next rest =>
    split
    · next n rest' h =>
      have hle := readSize_length_le rest
      rw [h] at hle
      exact Nat.le_succ_of_le hle
    · exact Nat.le_refl _
  · exact Nat.le_refl _

theorem readConversion_length_lt {cs rest : List Char} {c : Conversion}
    (h : readConversion cs = some (c, rest)) : rest.length < cs.length := by
  have hflags : (cs.dropWhile isFlag).length ≤ cs.length :=
    (List.dropWhile_sublist _).length_le
  have hwidth := readSize_length_le (cs.dropWhile isFlag)
  have hprecision := readPrecision_length_le (readSize (cs.dropWhile isFlag)).2
  simp only [readConversion] at h
  split at h
  · simp at h
  · next letter rest' hrest =>
    rw [hrest] at hprecision
    simp only [List.length_cons] at hprecision
    obtain ⟨kind, _, hkind⟩ := Option.map_eq_some_iff.1 h
    obtain ⟨_, rfl⟩ := Prod.mk.inj hkind
    omega

theorem nextPiece_length_lt {offset : Nat} {cs rest : List Char} {p : Piece}
    (h : nextPiece offset cs = some (p, rest)) : rest.length < cs.length := by
  unfold nextPiece at h
  split at h
  · simp at h
  · obtain ⟨_, rfl⟩ := Prod.mk.inj (Option.some.inj h)
    simp only [List.length_cons]
    omega
  · obtain ⟨⟨c, rest'⟩, hc, heq⟩ := Option.map_eq_some_iff.1 h
    obtain ⟨_, rfl⟩ := Prod.mk.inj heq
    have := readConversion_length_lt hc
    simp only [List.length_cons]
    omega
  · next c rest' _ _ =>
    obtain ⟨_, rfl⟩ := Prod.mk.inj (Option.some.inj h)
    have : (rest'.dropWhile (· != '%')).length ≤ rest'.length :=
      (List.dropWhile_sublist _).length_le
    simp only [List.length_cons]
    omega

/-! ### The whole format -/

/-- The pieces of a text that stands at `offset` in its format, or the place where none begins and
the text from there on. -/
def piecesFrom (offset : Nat) (cs : List Char) : Except (Nat × List Char) (List Piece) :=
  if cs.isEmpty then .ok []
  else
    match h : nextPiece offset cs with
    | none => .error (offset, cs)
    | some (p, rest) =>
      have := nextPiece_length_lt h
      match piecesFrom (offset + (byteCount cs - byteCount rest)) rest with
      | .ok pieces => .ok (p :: pieces)
      | .error place => .error place
termination_by cs.length

/-- Reads a number format. An error shows the percent sign that begins no conversion and the
character behind it. -/
def parse (spec : String) : Except SpecError NumberSpec :=
  match piecesFrom 0 spec.toList with
  | .ok pieces => .ok ⟨spec, pieces⟩
  | .error (offset, rest) =>
    .error ⟨spec, offset, .unsupportedConversion (String.ofList (rest.take 2))⟩

end NumberSpec

end Parlance
