import Parlance.Text.Columns
import Parlance.Text.Emoji

/-!
# Joined characters

Some characters take other columns before certain characters than by themselves: two letters share a
column, a picture swallows its parts, a selector makes a character wide or narrow. So a text is
measured from its end, and what has been seen last, the follower of the next character, says
whether that character joins it.

Marks that are ignored by default and zero width joiners may stand anywhere between joined letters;
between Arabic letters any mark may that does not take part in joining.
-/

namespace Parlance.Text

/-! ## Followers -/

/-- A sequence of tags at the end of the flag of a region: nothing but its end, with letters before
it, or with digits before these. -/
inductive Tags where
  | ending
  | letters (count : Nat)
  | digits (count : Nat)

/-- What stands behind a zero width joiner that follows a picture. -/
inductive Joined where
  | picture
  | keycap
  | flagLetter
  | evenFlagLetters
  | oddFlagLetters
  | tags (t : Tags)

/-- What stands behind a character, as far as it matters for the columns of the character. Of
letters that join only over a zero width joiner, `joined` says whether it is there. -/
inductive Follower where
  | other
  | picture
  | skinTone
  | flagLetter
  | flagLetters
  | joinedPicture (part : Joined)
  | kiratRaiE
  | kiratRaiAi
  | arabicAlef
  | hebrewLamed (joined : Bool)
  | khmerLetter
  | bugineseYa (joined : Bool)
  | bugineseVowelYa
  | tifinagh (joined : Bool)
  | tifinaghPair
  | lisuTone
  | turkicI (joined : Bool)

/-! ## Letters -/

/-- The code points with the Joining_Group Alef. -/
def arabicAlefRanges : List (Nat × Nat) :=
  [(0x622, 0x623), (0x625, 0x625), (0x627, 0x627), (0x671, 0x673), (0x675, 0x675), (0x773, 0x774),
   (0x870, 0x882)]

/-- The code points with the Joining_Group Lam. -/
def arabicLamRanges : List (Nat × Nat) :=
  [(0x644, 0x644), (0x6b5, 0x6b8), (0x76a, 0x76a), (0x8a6, 0x8a6), (0x8c7, 0x8c7)]

/-- The characters without columns whose Joining_Type is not T: Arabic letters do not join over
them. -/
def separatingRanges : List (Nat × Nat) :=
  [(0x605, 0x605), (0x890, 0x891), (0x8e2, 0x8e2), (0x9be, 0x9be), (0x9d7, 0x9d7), (0xb3e, 0xb3e),
   (0xb57, 0xb57), (0xbbe, 0xbbe), (0xbd7, 0xbd7), (0xcc0, 0xcc0), (0xcc2, 0xcc2), (0xcc7, 0xcc8),
   (0xcca, 0xccb), (0xcd5, 0xcd6), (0xd3e, 0xd3e), (0xd4e, 0xd4e), (0xd57, 0xd57), (0xdcf, 0xdcf),
   (0xddf, 0xddf), (0x1160, 0x11ff), (0x1715, 0x1715), (0x1734, 0x1734), (0x180e, 0x180e),
   (0x1b35, 0x1b35), (0x1b3b, 0x1b3b), (0x1b3d, 0x1b3d), (0x1b43, 0x1b44), (0x1baa, 0x1baa),
   (0x1bf2, 0x1bf3), (0x200c, 0x200d), (0x2065, 0x2069), (0x302e, 0x302f), (0x3164, 0x3164),
   (0xa8fa, 0xa8fa), (0xa953, 0xa953), (0xa9c0, 0xa9c0), (0xd7b0, 0xd7c6), (0xd7cb, 0xd7fb),
   (0xff9e, 0xffa0), (0xfff0, 0xfff8), (0x111c0, 0x111c0), (0x111c2, 0x111c3), (0x11235, 0x11235),
   (0x1133e, 0x1133e), (0x1134d, 0x1134d), (0x11357, 0x11357), (0x113b8, 0x113b8),
   (0x113c2, 0x113c2), (0x113c5, 0x113c5), (0x113c7, 0x113c9), (0x113cf, 0x113cf),
   (0x113d1, 0x113d1), (0x114b0, 0x114b0), (0x114bd, 0x114bd), (0x115af, 0x115af),
   (0x116b6, 0x116b6), (0x11930, 0x11930), (0x1193d, 0x1193d), (0x1193f, 0x1193f),
   (0x11941, 0x11941), (0x11a3a, 0x11a3a), (0x11a84, 0x11a89), (0x11d46, 0x11d46),
   (0x11f02, 0x11f02), (0x11f41, 0x11f41), (0x16ff0, 0x16ff1), (0x1d165, 0x1d166),
   (0x1d16d, 0x1d172), (0x1d250, 0x1d252), (0x1d25b, 0x1d25c), (0x1d25f, 0x1d25f),
   (0x1d280, 0x1d281), (0xe0000, 0xe0000), (0xe0002, 0xe001f), (0xe0080, 0xe00ff),
   (0xe01f0, 0xe0fff)]

/-- Whether Arabic letters join over `c`. -/
def isArabicMark (e : Edition) (c : Char) : Bool :=
  columns e c = 0 && !covers separatingRanges c.toNat

/-- The Khmer letters whose subscript form takes no column. -/
def khmerRanges : List (Nat × Nat) :=
  [(0x1780, 0x1782), (0x1784, 0x1787), (0x1789, 0x178c), (0x178e, 0x1793), (0x1795, 0x1798),
   (0x179b, 0x179d), (0x17a0, 0x17a0), (0x17a2, 0x17a2), (0x17a7, 0x17a7), (0x17ab, 0x17ac),
   (0x17af, 0x17af)]

/-- Whether `c` is a Tifinagh consonant. -/
def isTifinagh (c : Char) : Bool :=
  (0x2D31 ≤ c.toNat && c.toNat ≤ 0x2D65) || c.toNat = 0x2D6F

/-- Whether `c` is a first part of a tone letter. -/
def isLisuToneStart (c : Char) : Bool :=
  0xA4F8 ≤ c.toNat && c.toNat ≤ 0xA4FB

/-- Whether `c` is a second part of a tone letter. -/
def isLisuToneEnd (c : Char) : Bool :=
  0xA4FC ≤ c.toNat && c.toNat ≤ 0xA4FD

/-- Whether `c` is the zero width joiner. -/
def isJoiner (c : Char) : Bool :=
  c.toNat = 0x200D

/-- The combining marks that are ignored by default: they stand between joined letters. -/
def fillingRanges : List (Nat × Nat) :=
  [(0x34f, 0x34f), (0x17b4, 0x17b5), (0x180b, 0x180d), (0x180f, 0x180f), (0xfe00, 0xfe0f),
   (0xe0100, 0xe01ef)]

/-- What `c` is to the character before it. -/
def followerOf (e : Edition) (c : Char) : Follower :=
  let n := c.toNat
  if n ≤ 0xA0 then .other
  else if isFlagLetter c then .flagLetter
  else if isSkinTone c then .skinTone
  else if pictures.holds e c then .picture
  else if covers arabicAlefRanges n then .arabicAlef
  else if n = 0x5DC then .hebrewLamed false
  else if covers khmerRanges n then .khmerLetter
  else if n = 0x1A10 then .bugineseYa false
  else if isTifinagh c then .tifinagh false
  else if isLisuToneEnd c then .lisuTone
  else if n = 0x10C03 then .turkicI false
  else if e = .v18 && n = 0x16D67 then .kiratRaiE
  else if e = .v18 && n = 0x16D68 then .kiratRaiAi
  else .other

/-! ## Joining -/

/-- Another tag before a sequence of tags, if it may stand there. -/
def Tags.extend? (n : Nat) : Tags → Option Tags
  | .ending =>
    if 0xE0061 ≤ n && n ≤ 0xE007A then some (.letters 1)
    else if 0xE0030 ≤ n && n ≤ 0xE0039 then some (.digits 1)
    else none
  | .letters count =>
    if 0xE0061 ≤ n && n ≤ 0xE007A && count < 6 then some (.letters (count + 1))
    else if 0xE0030 ≤ n && n ≤ 0xE0039 && count < 5 then some (.digits 1)
    else none
  | .digits count =>
    if 0xE0030 ≤ n && n ≤ 0xE0039 && count < 3 then some (.digits (count + 1)) else none

/-- Whether a sequence of tags names a region. -/
def Tags.isWhole : Tags → Bool
  | .ending => false
  | .letters count => 3 ≤ count
  | .digits count => count = 3

/-- The columns that `c` adds before a part of a joined picture, and the follower that it becomes;
nothing if it does not join. -/
def Joined.join? (e : Edition) (c : Char) : Joined → Option (Int × Follower)
  | .picture =>
    if c.toNat = 0x20E3 then some (0, .joinedPicture .keycap)
    else if isFlagLetter c then some (1, .joinedPicture .flagLetter)
    else if isSkinTone c then some (0, .skinTone)
    else if c.toNat = 0xE007F then some (0, .joinedPicture (.tags .ending))
    else if pictures.holds e c then some (0, .picture)
    else none
  | .keycap => none
  | .flagLetter => if isFlagLetter c then some (-1, .joinedPicture .evenFlagLetters) else none
  | .evenFlagLetters =>
    if isFlagLetter c then some (3, .joinedPicture .oddFlagLetters)
    else if isJoiner c then some (0, .joinedPicture .picture)
    else none
  | .oddFlagLetters =>
    if isFlagLetter c then some (-1, .joinedPicture .evenFlagLetters)
    else if isJoiner c then some (0, .joinedPicture .picture)
    else none
  | .tags t =>
    if c.toNat = 0x1F3F4 && t.isWhole then some (0, .picture)
    else (t.extend? c.toNat).map fun t => (0, .joinedPicture (.tags t))

/-- The columns that `c` adds before a follower, and the follower that it becomes; nothing if it
does not join. -/
def Follower.join? (e : Edition) (c : Char) : Follower → Option (Int × Follower)
  | .other => none
  | .picture => if isJoiner c then some (0, .joinedPicture .picture) else none
  | .skinTone =>
    if bodies.holds e c then some (0, .picture)
    else if isJoiner c then some (0, .joinedPicture .picture)
    else none
  | .flagLetter => if isFlagLetter c then some (1, .flagLetters) else none
  | .flagLetters =>
    if isFlagLetter c then some (1, .flagLetters)
    else if isJoiner c then some (0, .joinedPicture .picture)
    else none
  | .joinedPicture part => part.join? e c
  | .kiratRaiE =>
    if c.toNat = 0x16D63 || c.toNat = 0x16D69 then some (0, .other)
    else if c.toNat = 0x16D67 then some (0, .kiratRaiAi)
    else if c.toNat = 0x16D68 then some (1, .kiratRaiE)
    else none
  | .kiratRaiAi => if c.toNat = 0x16D63 then some (0, .other) else none
  | .arabicAlef =>
    if covers arabicLamRanges c.toNat then some (0, .other)
    else if isArabicMark e c then some (0, .arabicAlef)
    else none
  | .hebrewLamed joined => if joined && c.toNat = 0x5D0 then some (0, .other) else none
  | .khmerLetter => if c.toNat = 0x17D2 then some (-1, .other) else none
  | .bugineseYa joined => if joined && c.toNat = 0x1A17 then some (0, .bugineseVowelYa) else none
  | .bugineseVowelYa => if c.toNat = 0x1A15 then some (0, .other) else none
  | .tifinagh joined =>
    if c.toNat = 0x2D7F then some (1, .tifinaghPair)
    else if joined && isTifinagh c then some (0, .other)
    else none
  | .tifinaghPair => if isTifinagh c then some (-1, .other) else none
  | .lisuTone => if isLisuToneStart c then some (0, .other) else none
  | .turkicI joined => if joined && c.toNat = 0x10C32 then some (0, .other) else none

/-- Whether a follower is a letter that joins over marks ignored by default. -/
def Follower.joinsOverMarks : Follower → Bool
  | .hebrewLamed _ | .khmerLetter | .bugineseYa _ | .bugineseVowelYa | .tifinagh _ | .tifinaghPair
  | .lisuTone | .turkicI _ => true
  | _ => false

/-- A letter with a zero width joiner before it. -/
def Follower.withJoiner : Follower → Follower
  | .hebrewLamed _ => .hebrewLamed true
  | .bugineseYa _ => .bugineseYa true
  | .tifinagh _ => .tifinagh true
  | .turkicI _ => .turkicI true
  | f => f

/-- The columns that `c` adds before a follower, and the follower that it becomes. -/
def Follower.before (e : Edition) (c : Char) (f : Follower) : Int × Follower :=
  if f.joinsOverMarks && isJoiner c then (0, f.withJoiner)
  else if f.joinsOverMarks && covers fillingRanges c.toNat then (0, f)
  else (f.join? e c).getD (columns e c, followerOf e c)

end Parlance.Text
