import Parlance.Text.Joining

/-!
# Width of a text

The columns of a terminal that a text of one line takes, by an edition of the Unicode data. A
selector behind a character asks for one of its forms: a picture, which is wide, a narrow one, or,
of a quotation mark, a wide one. Before a letter that joins over them several selectors may stand,
and each counts.
-/

namespace Parlance.Text

/-! ## Selectors -/

/-- The form that a selector asks for. -/
inductive Selector where
  | picture
  | narrow
  | wideQuote
  deriving DecidableEq

/-- The selector that `c` is. The one for quotation marks is younger than edition 15.1. -/
def selectorOf? (e : Edition) (c : Char) : Option Selector :=
  let n := c.toNat
  if n = 0xFE0F then some .picture
  else if n = 0xFE0E then some .narrow
  else if e = .v18 && n = 0xFE01 then some .wideQuote
  else none

/-- Whether `c` is a quotation mark with a wide form. -/
def isQuotationMark (c : Char) : Bool :=
  [0x2018, 0x2019, 0x201C, 0x201D].contains c.toNat

/-- Whether a follower can still be joined over a selector. -/
def Follower.joinsOver (s : Selector) : Follower → Bool
  | .joinedPicture .picture | .joinedPicture .keycap => s = .picture
  | .arabicAlef => true
  | f => f.joinsOverMarks

/-! ## Measuring -/

/-- What stands behind a character: a follower, and the selectors before it. -/
structure Behind where
  follower : Follower
  selectors : List Selector

namespace Behind

/-- Nothing of consequence. -/
def plain : Behind :=
  ⟨.other, []⟩

/-- A follower without a selector. -/
def ofFollower (f : Follower) : Behind :=
  ⟨f, []⟩

/-- Whether a picture before this is a part of a joined picture. -/
def isJoined (b : Behind) : Bool :=
  match b.follower with
  | .joinedPicture _ => true
  | _ => false

/-- This without a selector for pictures, which has a meaning only directly before it: no picture is
joined over it otherwise. -/
def withoutPictureForm (b : Behind) : Behind :=
  if b.selectors.contains .picture then
    ⟨if b.isJoined then .other else b.follower, b.selectors.erase .picture⟩
  else b

/-- A selector before this. It hides what cannot be joined over it, and the selectors there. -/
def select (s : Selector) (b : Behind) : Behind :=
  if b.follower.joinsOver s then ⟨b.follower, b.selectors.insert s⟩ else ⟨.other, [s]⟩

/-- The columns that `c` adds before this, and what then stands behind the next character. -/
def before (e : Edition) (c : Char) (b : Behind) : Int × Behind :=
  if b.selectors.contains .picture && hasPictureForm c then
    (if b.isJoined then 0 else 2, ofFollower .picture)
  else if c.toNat ≤ 0xA0 then (1, plain)
  else
    let b := b.withoutPictureForm
    match selectorOf? e c with
    | some s => (0, b.select s)
    | none =>
      if b.selectors.contains .narrow && hasNarrowForm c then (1, plain)
      else if b.selectors.contains .wideQuote && isQuotationMark c then (2, plain)
      else
        let (added, f) := b.follower.before e c
        (added, ofFollower f)

end Behind

/-- The columns of a text, and what stands behind a character before it. -/
def measure (e : Edition) (cs : List Char) : Int × Behind :=
  cs.foldr
    (fun c (total, behind) =>
      let (added, behind) := behind.before e c
      (total + added, behind))
    (0, .plain)

/-- The columns that a text takes. -/
def width (e : Edition) (cs : List Char) : Nat :=
  (measure e cs).1.toNat

end Parlance.Text
