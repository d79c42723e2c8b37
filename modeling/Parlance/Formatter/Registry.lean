import Parlance.Formatter.Builtin

/-!
# The registry of formatters

Factories are tried in the order of their registration, and the first that handles a value is
remembered for all values of its type. A factory registered later does not change what is
remembered, and a failure is not remembered. The registry notes which factories it has asked.
-/

namespace Parlance

/-- Factories in order, the factory remembered for each type, and the factories asked so far, the
latest first. Factories are known by their place. -/
structure Registry where
  factories : List Factory
  resolved : List (ValueType × Nat) := []
  asked : List Nat := []

namespace Registry

/-- No factories. -/
def empty : Registry :=
  { factories := [] }

/-- The built-in factories. -/
def builtins (lookup : Factory.PluralLookup) : Registry :=
  { factories := Factory.builtins lookup }

/-- Adds a factory behind all others. -/
def register (r : Registry) (f : Factory) : Registry :=
  { r with factories := r.factories ++ [f] }

/-- The number of factories. -/
def size (r : Registry) : Nat :=
  r.factories.length

/-- Whether there are no factories. -/
def isEmpty (r : Registry) : Bool :=
  r.factories.isEmpty

/-- The factory remembered for a type. -/
def remembered? (r : Registry) (type : ValueType) : Option Factory := do
  let place ← r.resolved.lookup type
  r.factories[place]?

/-- Notes that the first `count` factories have been asked, in order. -/
def noteAsked (r : Registry) (count : Nat) : Registry :=
  { r with asked := (List.range count).reverse ++ r.asked }

/-- Remembers a factory for a type. -/
def remember (r : Registry) (type : ValueType) (place : Nat) : Registry :=
  { r with resolved := (type, place) :: r.resolved }

/-- The factory for a value: the one remembered for its type, else the first that handles the value,
which is then remembered. -/
def factoryFor (r : Registry) (v : Value) : Except RenderError Factory × Registry :=
  match r.remembered? v.type with
  | some f => (.ok f, r)
  | none =>
    let place := r.factories.findIdx fun f => f.canHandle v
    match r.factories[place]? with
    | some f => (.ok f, (r.noteAsked (place + 1)).remember v.type place)
    | none => (.error (.noFormatter v), r.noteAsked r.factories.length)

/-- The formatter for a value in a locale and with options. -/
def formatterFor (r : Registry) (v : Value) (locale : String) (options : Options) :
    Except RenderError Formatter × Registry :=
  match r.factoryFor v with
  | (.ok f, r) => (f.create locale options, r)
  | (.error e, r) => (.error e, r)

end Registry

end Parlance
