import Parlance.Json.Fault
import Parlance.Text.Width

/-!
# Excerpts

A fault in a text is shown by its line and columns in an excerpt: the lines of the fault and two
more before and behind it. A line feed, alone or behind a carriage return, ends a line of an
excerpt. Where the excerpt begins and ends, a carriage return alone counts as the end of a line as
well.
-/

namespace Parlance

/-! ## Spans -/

/-- A part of a text by its first byte and the number of its bytes. -/
structure Span where
  offset : Nat
  length : Nat
  deriving DecidableEq

namespace Span

/-- The byte behind a span. -/
def stop (s : Span) : Nat :=
  s.offset + s.length

/-- The last byte of a span. -/
def last (s : Span) : Nat :=
  s.stop - 1

end Span

/-- The characters that begin before a byte. -/
def charsBefore : (bytes : Nat) → List Char → List Char
  | 0, _ => []
  | _ + 1, [] => []
  | n + 1, c :: rest => c :: charsBefore (n + 1 - c.utf8Size) rest

/-- The characters that begin at a byte or behind it. -/
def charsFrom : (bytes : Nat) → List Char → List Char
  | 0, cs => cs
  | _ + 1, [] => []
  | n + 1, c :: rest => charsFrom (n + 1 - c.utf8Size) rest

namespace Excerpt

/-! ## Extent -/

/-- The end of a line: its first and its last byte. -/
structure Break where
  first : Nat
  last : Nat

/-- The ends of lines in a text that begins at `offset`. -/
def breaks (offset : Nat) : List Char → List Break
  | [] => []
  | '\r' :: '\n' :: rest => ⟨offset, offset + 1⟩ :: breaks (offset + 2) rest
  | c :: rest =>
    if c = '\r' ∨ c = '\n' then ⟨offset, offset⟩ :: breaks (offset + 1) rest
    else breaks (offset + c.utf8Size) rest

/-- How many lines are shown before and behind a span. -/
def contextLines : Nat := 2

/-- How many lines of a text come before its excerpt. -/
def linesBefore (text : List Char) (s : Span) : Nat :=
  ((breaks 0 text).filter fun b => b.last < s.offset).length - contextLines

/-- The first byte of an excerpt. -/
def start (text : List Char) (s : Span) : Nat :=
  match linesBefore text s with
  | 0 => 0
  | n + 1 => ((breaks 0 text)[n]?.map fun b => b.last + 1).getD 0

/-- The byte behind an excerpt. -/
def stop (text : List Char) (s : Span) : Nat :=
  match ((breaks 0 text).filter fun b => s.last < b.first)[contextLines]? with
  | some b => b.last + 1
  | none => byteCount text

/-! ## Lines -/

/-- A line of an excerpt: its number, its first byte and its text. `isEnd` says that the excerpt
ends with the end of this line. -/
structure Line where
  number : Nat
  offset : Nat
  text : List Char
  isEnd : Bool

/-- The lines of the rest of an excerpt, of which `seen` holds the characters of the first that are
read already, the last first. A carriage return at the very end belongs to its line, which is then
counted with the line before. -/
def linesFrom (number offset : Nat) (seen : List Char) : List Char → List Line
  | [] =>
    match seen with
    | [] => []
    | '\r' :: _ => [⟨number - 1, offset, seen.reverse, true⟩]
    | _ => [⟨number, offset, seen.reverse, false⟩]
  | '\r' :: '\n' :: rest =>
    ⟨number, offset, seen.reverse, rest.isEmpty⟩ ::
      linesFrom (number + 1) (offset + byteCount seen + 2) [] rest
  | c :: rest =>
    if c = '\n' then
      ⟨number, offset, seen.reverse, rest.isEmpty⟩ ::
        linesFrom (number + 1) (offset + byteCount seen + 1) [] rest
    else linesFrom number offset (c :: seen) rest

/-- The lines of the excerpt of a span. -/
def lines (text : List Char) (s : Span) : List Line :=
  let first := start text s
  let shown := charsBefore (stop text s - first) (charsFrom first text)
  linesFrom (linesBefore text s + 1) first [] shown

/-! ## Marks -/

/-- What a line shows of a span: all of it, its beginning or its end. Columns are counted from
one. -/
inductive Mark where
  | whole (first last : Nat)
  | beginning (column : Nat)
  | ending (column : Nat)

/-- Whether `c` is a control character. -/
def isControl (c : Char) : Bool :=
  c.toNat < 0x20 || (0x7F ≤ c.toNat && c.toNat < 0xA0)

/-- The edition of the Unicode data by which excerpts count columns. -/
def edition : Text.Edition := .v15

/-- The columns that characters take each by itself, where control characters take none. -/
def separateColumns : List Char → Nat
  | [] => 0
  | c :: rest => (if isControl c then 0 else Text.columns edition c) + separateColumns rest

/-- The columns before a byte of a line. If no character begins there, every character counts by
itself. -/
def columnsBefore (text : List Char) (bytes : Nat) : Nat :=
  let shown := charsBefore bytes text
  if byteCount shown = bytes then Text.width edition shown else separateColumns shown

/-- The mark of a span on a line. -/
def Line.mark? (l : Line) (s : Span) : Option Mark :=
  let lineStop := l.offset + byteCount l.text
  let begins := l.offset ≤ s.offset
  let ends := l.isEnd || s.stop ≤ lineStop
  let first := columnsBefore l.text (s.offset - l.offset) + 1
  let last := columnsBefore l.text (s.stop - l.offset)
  if begins && ends then some (.whole first (if s.length = 0 then first else last))
  else if begins && s.offset ≤ lineStop then some (.beginning first)
  else if ends && l.offset ≤ s.stop then some (.ending last)
  else none

/-- A mark on a numbered line. -/
def Mark.text (number : Nat) : Mark → String
  | .whole first last =>
    if first = last then "label at line " ++ toString number ++ ", column " ++ toString first
    else "label at line " ++ toString number ++ ", columns " ++ toString first ++ " to " ++
      toString last
  | .beginning column =>
    "label starting at line " ++ toString number ++ ", column " ++ toString column
  | .ending column =>
    "label ending at line " ++ toString number ++ ", column " ++ toString column

/-- The last mark in the excerpt of a span. There is none in an empty text. -/
def label? (text : String) (s : Span) : Option String :=
  (lines text.toList s).reverse.findSome? fun l =>
    (l.mark? s).map fun mark => mark.text l.number ++ ": here"

end Excerpt

end Parlance
