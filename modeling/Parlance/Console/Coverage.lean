import Parlance.Console.Outcome
import Parlance.Console.Table

/-!
# Coverage

How much of a source catalog other locales translate. The keys of the source are the whole; they are
noted before any other file is loaded, so that no file can add to them. A locale translates the keys
that the catalog then has for exactly this locale.
-/

namespace Parlance

/-- The source, the locales to be compared with it, the folder of their files if it is not that of
the source, whether incomplete locales make the command fail, and whether the figures are written as
JSON. -/
structure CoverageCommand where
  source : String
  locales : List String
  ownFolder : Option String
  strict : Bool
  json : Bool

/-- The figures for one locale: how many keys it translates, how many there are, and the missing
ones in order. -/
structure LocaleCoverage where
  locale : String
  translated : Nat
  total : Nat
  missing : List String

namespace LocaleCoverage

/-- The figures for a locale by the keys of the source and those of the locale. -/
def of (locale : String) (total : Nat) (source keys : List String) : LocaleCoverage :=
  let missing := source.filter fun key => !keys.contains key
  ⟨locale, total - missing.length, total, missing⟩

/-- The translated part in percent. -/
def percent (c : LocaleCoverage) : Binary64 :=
  if c.total = 0 then Binary64.ofRatio false 100 1
  else Binary64.ofRatio false (c.translated * 100) c.total

/-- The row of a locale. -/
def row (c : LocaleCoverage) : List String :=
  [c.locale, toString c.translated ++ "/" ++ toString c.total,
   String.ofList (c.percent.fixed 1) ++ "%", toString c.missing.length]

/-- The missing keys as a list below the table; nothing if there are none. -/
def missingText (c : LocaleCoverage) : String :=
  if c.missing.isEmpty then ""
  else "\nMissing in " ++ c.locale ++ ":\n" ++
    String.join (c.missing.map fun key => "  - " ++ key ++ "\n")

/-- The figures in JSON. -/
def toJson (c : LocaleCoverage) : Json :=
  .object [("locale", .string c.locale), ("translated", .integer c.translated),
    ("total", .integer c.total), ("missing", .array (c.missing.map .string))]

end LocaleCoverage

namespace CoverageCommand

/-- The folder of the files of the locales. -/
def folder (c : CoverageCommand) : String :=
  c.ownFolder.getD (Path.folder c.source)

/-- The file of a locale. -/
def fileOf (c : CoverageCommand) (locale : String) : String :=
  Path.join c.folder (locale ++ ".json")

/-- Loads the file of a locale, if there is one. -/
def loadLocale (c : CoverageCommand) (files : Files) (catalog : Catalog) (locale : String) :
    Except FileError Catalog :=
  if (files (c.fileOf locale)).isThere then
    match catalog.loadAt files (c.fileOf locale) with
    | .ok loaded => .ok loaded.catalog
    | .error e => .error e
  else .ok catalog

/-- The figures for some locales, whose files are loaded one after the other into one catalog. -/
def figuresFrom (c : CoverageCommand) (files : Files) (total : Nat) (source : List String)
    (catalog : Catalog) : List String → Except FileError (List LocaleCoverage)
  | [] => .ok []
  | locale :: rest =>
    match c.loadLocale files catalog locale with
    | .error e => .error e
    | .ok catalog =>
      match c.figuresFrom files total source catalog rest with
      | .error e => .error e
      | .ok others => .ok (.of locale total source (catalog.store.keys locale) :: others)

/-- The figures for all locales. -/
def figures (c : CoverageCommand) (files : Files) : Except FileError (List LocaleCoverage) :=
  match Catalog.blank.loadAt files c.source with
  | .error e => .error e
  | .ok loaded =>
    let source := loaded.catalog.store.keys loaded.locale
    c.figuresFrom files loaded.count source loaded.catalog c.locales

/-- The headings of the table. -/
def headings : List String :=
  ["Locale", "Coverage", "Percent", "Missing"]

/-- The figures as they are written. -/
def output (c : CoverageCommand) (figures : List LocaleCoverage) : String :=
  if c.json then (Json.array (figures.map LocaleCoverage.toJson)).pretty 0 ++ "\n"
  else Table.render headings (figures.map LocaleCoverage.row) ++ "\n" ++
    String.join (figures.map LocaleCoverage.missingText)

/-- Computes and writes the figures. -/
def run (c : CoverageCommand) (files : Files) : Outcome :=
  match c.figures files with
  | .error e => .notLoaded e
  | .ok figures =>
    let incomplete := figures.any fun f => !f.missing.isEmpty
    { code := if c.strict && incomplete then .invalidData else .success
      output := c.output figures }

end CoverageCommand

end Parlance
