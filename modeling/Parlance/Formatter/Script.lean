import Parlance.Catalog.Basic

/-!
# Formatter scripts

A formatter renders one value. It does so by a script: a tree of requests to the translator it works
for, with the continuation for every answer. A script may translate messages, have smaller values
formatted and look at the messages that are being rendered, as often as it likes; an answer may be
an error, which the script is free to pass on or to ignore. Nothing else is in its reach.

That a script can only hand smaller values on is what makes every rendering end.
-/

namespace Parlance

/-! ## Views -/

/-- A message that is being rendered, and the locale it is rendered in. -/
structure Frame where
  request : Message
  locale : String

/-- Whether two frames render equal requests in the same locale. -/
def Frame.same (f g : Frame) : Bool :=
  f.locale == g.locale && f.request.same g.request

theorem Frame.same_iff (f g : Frame) :
    f.same g = true ↔ f.locale = g.locale ∧ f.request.same g.request = true := by
  simp [Frame.same]

/-- What a script can see of its surroundings: the catalog, the default locale and the messages that
are being rendered, the outermost first. -/
structure View where
  catalog : Catalog
  defaultLocale : String
  callStack : List Frame

/-- How many messages are being rendered. -/
def View.depth (v : View) : Nat :=
  v.callStack.length

/-- The keys of the messages that are being rendered. -/
def View.keys (v : View) : List String :=
  v.callStack.map fun f => f.request.key

/-! ## Scripts -/

/-- A script for a value of size `bound` with a result of type `α`. -/
inductive Script (bound : Nat) (α : Type) where
  /-- Ends with a result. -/
  | done (result : α)
  /-- Ends with an error. -/
  | fail (error : RenderError)
  /-- Translates a message, in the locale it prefers or else in the given one. -/
  | translate (request : Message) (locale : String)
      (next : Except RenderError String → Script bound α)
  /-- Has a smaller value formatted. -/
  | format (part : Value) (smaller : part.size < bound) (locale : String) (options : Options)
      (next : Except RenderError String → Script bound α)
  /-- Looks at its surroundings. -/
  | inspect (next : View → Script bound α)

namespace Script

variable {bound : Nat} {α β : Type}

/-- Goes on with the result of a script. -/
def bind : Script bound α → (α → Script bound β) → Script bound β
  | .done a, k => k a
  | .fail e, _ => .fail e
  | .translate r l next, k => .translate r l fun x => (next x).bind k
  | .format part h l o next, k => .format part h l o fun x => (next x).bind k
  | .inspect next, k => .inspect fun v => (next v).bind k

instance : Monad (Script bound) where
  pure := .done
  bind := bind

/-- Ends with a result or an error. -/
def ofExcept : Except RenderError α → Script bound α
  | .ok a => .done a
  | .error e => .fail e

/-- A script for a value serves for any larger one. -/
def weaken {larger : Nat} (h : bound ≤ larger) : Script bound α → Script larger α
  | .done a => .done a
  | .fail e => .fail e
  | .translate r l next => .translate r l fun x => (next x).weaken h
  | .format part smaller l o next =>
    .format part (Nat.lt_of_lt_of_le smaller h) l o fun x => (next x).weaken h
  | .inspect next => .inspect fun v => (next v).weaken h

/-- Translates a message and passes an error on. -/
def translated (request : Message) (locale : String) : Script bound String :=
  .translate request locale ofExcept

/-- Translates the message of a key without arguments and passes an error on. -/
def translatedKey (key locale : String) : Script bound String :=
  translated (Request.ofKey key) locale

/-- Has a smaller value formatted and passes an error on. -/
def formatted (part : Value) (smaller : part.size < bound) (locale : String) (options : Options) :
    Script bound String :=
  .format part smaller locale options ofExcept

end Script

/-! ## Formatters -/

/-- A formatter gives a script for every value. -/
abbrev Formatter := (v : Value) → Script v.size String

/-- A factory of formatters: its name, the values it handles, and the formatter for a locale and
options. -/
structure Factory where
  name : String
  canHandle : Value → Bool
  create : (locale : String) → Options → Except RenderError Formatter

end Parlance
