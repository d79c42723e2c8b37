import Parlance.Pattern.Basic

/-!
# Building patterns

Patterns put together in code, one segment after the other.
-/

namespace Parlance

/-- The segments of a pattern so far, in order. -/
structure PatternBuilder where
  segments : List Segment

namespace PatternBuilder

/-- No segments yet. -/
def empty : PatternBuilder :=
  ⟨[]⟩

/-- Adds a text. -/
def text (b : PatternBuilder) (s : String) : PatternBuilder :=
  ⟨b.segments ++ [.text s]⟩

/-- Adds a reference with options. -/
def argWith (b : PatternBuilder) (selector : Selector) (options : Options) : PatternBuilder :=
  ⟨b.segments ++ [.argument selector options]⟩

/-- Adds a reference by name. -/
def arg (b : PatternBuilder) (name : String) : PatternBuilder :=
  b.argWith (.name name) .none

/-- Adds a reference by position. -/
def index (b : PatternBuilder) (i : Int) : PatternBuilder :=
  b.argWith (.index i) .none

/-- The pattern of the segments. -/
def build (b : PatternBuilder) : Pattern :=
  .segments b.segments

end PatternBuilder

end Parlance
