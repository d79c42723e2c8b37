import Parlance.Catalog.Store
import Parlance.Catalog.Suggestions
import Parlance.Locale.Fallback
import Parlance.Translator.Error

/-!
# Catalogs

A catalog is a store together with two strategies: which locales are searched for a message, in
which order, and what happens when none of them has it.
-/

namespace Parlance

/-! ## Missing texts -/

/-- A search that found nothing. -/
structure MissingText where
  request : Message
  locale : String
  searched : List String
  store : Store

namespace MissingText

/-- The keys of the searched locales, in order and without repetition. -/
def knownKeys (m : MissingText) : List String :=
  Dict.names (Dict.ofMembers ((m.searched.flatMap m.store.keys).map fun key => (key, ())))

/-- The error of a missing text. -/
def error (m : MissingText) : RenderError :=
  .missingText m.request.key m.locale m.searched (suggest m.request.key m.knownKeys)

end MissingText

/-- What is rendered in place of a missing text, or the error to fail with. -/
abbrev MissingTextStrategy := MissingText → Except RenderError Compiled

/-- Fails on a missing text. -/
def failFast : MissingTextStrategy :=
  fun m => .error m.error

/-- Renders the description of the request in place of a missing text. -/
def substitute : MissingTextStrategy :=
  fun m => .ok (Compiled.ofText m.request.description)

/-! ## Catalogs -/

/-- The locales to be searched for a requested one, in order. -/
abbrev FallbackStrategy := String → List String

/-- A store with its strategies. -/
structure Catalog where
  store : Store
  fallback : FallbackStrategy
  missing : MissingTextStrategy

namespace Catalog

/-- A catalog without messages. -/
def new (fallback : FallbackStrategy) (missing : MissingTextStrategy) : Catalog :=
  ⟨.empty, fallback, missing⟩

/-- The locales that are searched for a locale. -/
def chain (c : Catalog) (locale : String) : List String :=
  c.fallback locale

/-- The message under exactly this key and locale. -/
def get? (c : Catalog) (key locale : String) : Option Compiled :=
  c.store.get? locale key

/-- The first message for a key along the chain of a locale. -/
def find? (c : Catalog) (key locale : String) : Option Compiled :=
  c.store.find? (c.chain locale) key

/-- Whether a key has a message along the chain of a locale. -/
def contains (c : Catalog) (key locale : String) : Bool :=
  (c.find? key locale).isSome

/-- The message for a request, or what the strategy for missing texts puts in its place. -/
def lookup (c : Catalog) (request : Message) (locale : String) : Except RenderError Compiled :=
  match c.find? request.key locale with
  | some compiled => .ok compiled
  | none => c.missing ⟨request, locale, c.chain locale, c.store⟩

/-- Stores a compiled message. -/
def registerCompiled (c : Catalog) (key locale : String) (compiled : Compiled) : Catalog :=
  { c with store := c.store.insert locale key compiled }

/-- Compiles a pattern and stores it. -/
def register (c : Catalog) (key locale : String) (pattern : Pattern) :
    Except PatternError Catalog :=
  match pattern.compile with
  | .ok compiled => .ok (c.registerCompiled key locale compiled)
  | .error e => .error e

end Catalog

end Parlance
