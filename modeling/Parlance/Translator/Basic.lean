import Parlance.Catalog.Loading
import Parlance.Locale.Default
import Parlance.Translator.Rendering

/-!
# Translators

A translator holds a catalog and a registry of formatters. Messages and factories are registered
first; then requests are translated. Translating leaves the catalog as it was and the registry with
what it has learned about the formatters of types.
-/

namespace Parlance

/-- How deep messages may be nested where nothing else is said. -/
def defaultMaxDepth : Nat := 64

/-- A translator. -/
structure Translator where
  setting : Setting
  registry : Registry

namespace Translator

/-! ## Building -/

/-- A translator over a default locale with the built-in formatters: with the truncating chain, and
failing on missing texts, unless other strategies are given. -/
def new (defaultLocale : String) (missing : MissingTextStrategy := failFast)
    (fallback : FallbackStrategy := Locale.truncatingChain defaultLocale)
    (lookup : Factory.PluralLookup := .byTag) (maxDepth : Nat := defaultMaxDepth) : Translator where
  setting :=
    { catalog := Catalog.new fallback missing
      defaultLocale := defaultLocale
      maxDepth := maxDepth }
  registry := Registry.builtins lookup

/-- The catalog. -/
def catalog (t : Translator) : Catalog :=
  t.setting.catalog

/-- The same translator with another catalog. -/
def withCatalog (t : Translator) (catalog : Catalog) : Translator :=
  { t with setting := { t.setting with catalog := catalog } }

/-- Compiles a pattern and stores it. -/
def register (t : Translator) (key locale : String) (pattern : Pattern) :
    Except PatternError Translator :=
  match t.catalog.register key locale pattern with
  | .ok catalog => .ok (t.withCatalog catalog)
  | .error e => .error e

/-- Adds a factory behind all others. -/
def registerFactory (t : Translator) (f : Factory) : Translator :=
  { t with registry := t.registry.register f }

/-- Stores the English texts of the built-in keys under a locale. -/
def registerBuiltins (t : Translator) (locale : String) : Translator :=
  t.withCatalog <| builtinMessages.foldl
    (fun catalog m => catalog.registerCompiled m.1 locale (Compiled.ofText m.2)) t.catalog

/-- Loads a document into a locale. -/
def load (t : Translator) (locale text : String) : Except LoadError (Translator × Nat) :=
  match t.catalog.load locale text with
  | .ok (catalog, count) => .ok (t.withCatalog catalog, count)
  | .error e => .error e

/-! ## Translating -/

/-- Translates a request to a locale, whatever locale it prefers. -/
def translateTo (t : Translator) (r : Message) (locale : String) :
    Except TranslateError String × Translator :=
  let (outcome, p) := (t.setting.translateWithin t.setting.maxDepth r locale).run
    ⟨t.registry, []⟩
  let after := { t with registry := p.registry }
  match outcome with
  | .ok text => (.ok text, after)
  | .error cause => (.error ⟨r, locale, cause⟩, after)

/-- Translates a request to the locale given, else to the one it prefers, else to the default
locale. -/
def translate (t : Translator) (r : Message) (locale : Option String := none) :
    Except TranslateError String × Translator :=
  t.translateTo r ((locale.orElse fun _ => r.locale).getD t.setting.defaultLocale)

end Translator

end Parlance
