import Parlance.Json.Canonical
import Parlance.Json.Writer
import Parlance.Text.Quoted

/-!
# Patterns

The author's definition of a message: a text taken as it is, or a list of texts and references to
arguments. A pattern is compiled once, into fragments; compiling refuses segments that are no
pattern and positions below zero.
-/

namespace Parlance

/-! ## Options -/

/-- The options of a reference to an argument: a canonical JSON object. -/
structure Options where
  members : List (String × Json)
  canonical : (Json.object members).IsCanonical

namespace Options

/-- No options. -/
def none : Options :=
  ⟨[], rfl⟩

/-- The options that some JSON members give; of several of one name the last stands. -/
def ofMembers (members : List (String × Json)) : Options where
  members := Dict.ofMembers (Json.canonicalMembers members)
  canonical := Json.canonical_isCanonical (.object members)

/-- The option of the given name. -/
def get? (options : Options) (name : String) : Option Json :=
  Dict.get? name options.members

/-- The names of the options, in order. -/
def names (options : Options) : List String :=
  Dict.names options.members

/-- Whether there are no options. -/
def isEmpty (options : Options) : Bool :=
  options.members.isEmpty

/-- The options as compact JSON. -/
def text (options : Options) : String :=
  (Json.object options.members).compact

end Options

/-! ## Patterns -/

/-- How a pattern names an argument. -/
inductive Selector where
  | index (i : Int)
  | name (n : String)

/-- One element of a pattern. What is neither a text nor a reference is kept as it was found. -/
inductive Segment where
  | text (s : String)
  | argument (selector : Selector) (options : Options)
  | unsupported (value : Json)

/-- The definition of a message. -/
inductive Pattern where
  | text (s : String)
  | segments (list : List Segment)

/-! ## Compiled patterns -/

/-- How a fragment finds its argument. -/
inductive Reference where
  | position (n : Nat)
  | name (n : String)
  deriving DecidableEq

/-- A piece of a compiled pattern. -/
inductive Fragment where
  | text (s : String)
  | argument (reference : Reference) (options : Options)

/-- A compiled pattern. -/
structure Compiled where
  fragments : List Fragment

/-- The compiled pattern that always renders `s`. -/
def Compiled.ofText (s : String) : Compiled :=
  ⟨[.text s]⟩

/-- Why a pattern cannot be compiled. -/
inductive PatternError where
  | unsupportedSegment (position : Nat) (segment : Json)
  | negativeIndex (position : Nat) (index : Int)

/-- What a person is told of an error. -/
def PatternError.message : PatternError → String
  | .unsupportedSegment position segment =>
    "unsupported pattern segment at position " ++ toString position ++ ": " ++ segment.compact
  | .negativeIndex position index =>
    "argument index " ++ String.ofList (decimalInt index) ++ " at position " ++
      toString position ++ " must not be negative"

/-! ## Compiling -/

/-- The reference that a selector gives. -/
def Selector.compile (position : Nat) : Selector → Except PatternError Reference
  | .index (.ofNat n) => .ok (.position n)
  | .index i => .error (.negativeIndex position i)
  | .name n => .ok (.name n)

/-- The fragment that a segment gives. -/
def Segment.compile (position : Nat) : Segment → Except PatternError Fragment
  | .text s => .ok (.text s)
  | .argument selector options =>
    match selector.compile position with
    | .ok reference => .ok (.argument reference options)
    | .error e => .error e
  | .unsupported value => .error (.unsupportedSegment position value)

/-- The fragments of segments of which the first stands at `position`. The first bad segment is the
error. -/
def Segment.compileAll (position : Nat) : List Segment → Except PatternError (List Fragment)
  | [] => .ok []
  | s :: rest =>
    match s.compile position with
    | .error e => .error e
    | .ok fragment =>
      match compileAll (position + 1) rest with
      | .error e => .error e
      | .ok fragments => .ok (fragment :: fragments)

/-- Compiles a pattern. -/
def Pattern.compile : Pattern → Except PatternError Compiled
  | .text s => .ok (Compiled.ofText s)
  | .segments list =>
    match Segment.compileAll 0 list with
    | .ok fragments => .ok ⟨fragments⟩
    | .error e => .error e

/-! ## Texts -/

/-- A reference as diagnostics show it. -/
def Reference.text : Reference → String
  | .position n => "[" ++ toString n ++ "]"
  | .name n => "[" ++ Text.quoted n ++ "]"

/-- A fragment as diagnostics show it. -/
def Fragment.description : Fragment → String
  | .text s => "text(" ++ Text.quoted s ++ ")"
  | .argument reference options =>
    if options.isEmpty then "arg(" ++ reference.text ++ ")"
    else "arg(" ++ reference.text ++ ", " ++ options.text ++ ")"

/-- A compiled pattern as diagnostics show it. -/
def Compiled.description (c : Compiled) : String :=
  "CompiledFormatter(" ++ String.intercalate ", " (c.fragments.map Fragment.description) ++ ")"

end Parlance
