import Parlance.Text.Blank

/-!
# Locale tags

A locale is named by alphanumeric segments joined by underscores, from the language to what narrows
it down: `de`, `de_CH`, `sr_RS_latin`. Raw names from the outside (`de-CH.UTF-8`, `fr_FR@euro`) are
brought to that form, and the names `C` and `POSIX` stand for no locale at all.
-/

namespace Parlance.Locale

/-- The segments of a tag. -/
def segments (tag : List Char) : List (List Char) :=
  tag.splitOn '_'

/-- A segment holds at least one ASCII letter or digit, and nothing else. -/
def isSegment (segment : List Char) : Bool :=
  !segment.isEmpty && segment.all Char.isAlphanum

/-- The names that stand for no locale. -/
def placeholders : List String :=
  ["C", "POSIX"]

/-- Whether a tag names a locale. -/
def isTag (tag : List Char) : Bool :=
  (segments tag).all isSegment && !(placeholders.map String.toList).contains tag

/-- Whether `c` begins the encoding or the modifier of a raw name. -/
def beginsSuffix (c : Char) : Bool :=
  c == '.' || c == '@'

/-- A raw name without encoding and modifier. -/
def withoutSuffix (cs : List Char) : List Char :=
  cs.takeWhile fun c => !beginsSuffix c

/-- Hyphens count as underscores. -/
def underscored (cs : List Char) : List Char :=
  cs.map fun c => if c = '-' then '_' else c

/-- The tag that a raw name stands for, if it names a locale. -/
def normalize (raw : String) : Option String :=
  let tag := underscored (Text.trim (withoutSuffix (Text.trim raw.toList)))
  if isTag tag then some (String.ofList tag) else none

end Parlance.Locale
