import Parlance.Text.Extending
import Parlance.Text.Ignorable
import Parlance.Text.Wide

/-!
# Columns of a character

How many columns of a terminal a character takes by itself: two if it is wide, none if it is drawn
on or within a neighbor or is invisible, three for one Khmer sign, one otherwise. A control
character counts as one column.
-/

namespace Parlance.Text

/-! ## Characters without columns -/

/-- Whether `c` is a vowel or a final consonant of a Korean syllable, drawn in the place of its
first consonant. -/
def completesSyllable (c : Char) : Bool :=
  let n := c.toNat
  (0x1160 ≤ n && n ≤ 0x11FF) || (0xD7B0 ≤ n && n ≤ 0xD7C6) || (0xD7CB ≤ n && n ≤ 0xD7FB)

/-- The vowel signs that are written as two extending marks in their decomposed form. -/
def doubleVowelRanges : List (Nat × Nat) :=
  [(0xcc0, 0xcc0), (0xcc7, 0xcc8), (0xcca, 0xccb), (0x1b3b, 0x1b3b), (0x1b3d, 0x1b3d),
   (0x1b43, 0x1b43)]

/-- The signs that are drawn over or under the number or the word behind them. -/
def spanningRanges : List (Nat × Nat) :=
  [(0x605, 0x605), (0x70f, 0x70f), (0x890, 0x891), (0x8e2, 0x8e2)]

/-- The letters that merge with the letter behind them, which begins their grapheme. -/
def prefixing : Property :=
  { ranges := [(0xd4e, 0xd4e), (0x111c2, 0x111c3), (0x1193f, 0x1193f), (0x11941, 0x11941),
      (0x11a3a, 0x11a3a), (0x11a84, 0x11a89), (0x11d46, 0x11d46), (0x11f02, 0x11f02)]
    gained := [(0x113d1, 0x113d1)]
    lost := [(0x11a3a, 0x11a3a)] }

/-- Whether `c` takes no column. The filler of a first consonant and the sign that joins two
Tifinagh consonants do, as does nothing else that extends a character or is ignored by default. -/
def isColumnless (e : Edition) (c : Char) : Bool :=
  let n := c.toNat
  n ≠ 0x115F && n ≠ 0x2D7F &&
    (extending.holds e c || isIgnorable c || completesSyllable c || covers doubleVowelRanges n ||
      covers spanningRanges n || prefixing.holds e c || n = 0xA8FA)

/-! ## Columns -/

/-- The columns that `c` takes. -/
def columns (e : Edition) (c : Char) : Nat :=
  let n := c.toNat
  if n ≤ 0xA0 then 1
  else if n = 0x17D8 then 3
  else if n = 0x17A4 then 2
  else if isColumnless e c then 0
  else if wide.holds e c then 2
  else 1

end Parlance.Text
