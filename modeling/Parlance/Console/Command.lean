import Parlance.Console.Arguments
import Parlance.Console.Check
import Parlance.Console.Coverage
import Parlance.Console.Eval

/-!
# Commands

The commands of the program and how they are written on a command line: the three that work on
catalogs, and the option that tells the version. A command line that does not fit is not understood
as a whole.
-/

namespace Parlance

/-- A command. -/
inductive Command where
  | check (c : CheckCommand)
  | coverage (c : CoverageCommand)
  | eval (c : EvalCommand)
  | version

namespace Command

/-- The name of the program and its version. -/
def versionText : String := "tolk 0.1.0"

/-! ## Options -/

/-- The options that may stand before and behind a command. -/
def globalSpecs : List Arguments.Spec :=
  [{ name := "color", takesValue := true }, { name := "verbose", letter := some 'v' }]

/-- The options before a command. -/
def headSpecs : List Arguments.Spec :=
  { name := "version", letter := some 'V', answers := true } :: globalSpecs

/-- The options of the check. -/
def checkSpecs : List Arguments.Spec :=
  { name := "json" } :: globalSpecs

/-- The options of the coverage. -/
def coverageSpecs : List Arguments.Spec :=
  [{ name := "source", takesValue := true },
   { name := "lang", takesValue := true, repeats := true },
   { name := "translations", takesValue := true }, { name := "strict" }, { name := "json" }] ++
    globalSpecs

/-- The options for translating a message. -/
def evalSpecs : List Arguments.Spec :=
  [{ name := "key", takesValue := true },
   { name := "catalog", takesValue := true, repeats := true },
   { name := "locale", takesValue := true }, { name := "default-locale", takesValue := true },
   { name := "param", letter := some 'p', takesValue := true, repeats := true },
   { name := "lenient" }, { name := "json" }] ++
    globalSpecs

/-- When to use colors. -/
def colorChoices : List String :=
  ["auto", "always", "never"]

/-- Whether the options that every command has are in order. -/
def globalsFit (items : List Arguments.Item) : Bool :=
  (Arguments.values items "color").all colorChoices.contains

/-! ## Reading -/

/-- The options and operands behind a command. -/
def itemsOf (specs : List Arguments.Spec) (words : List String) : Option (List Arguments.Item) :=
  (Arguments.read specs words).filter globalsFit

/-- The options behind a command that has no operands. -/
def optionsOf (specs : List Arguments.Spec) (words : List String) : Option (List Arguments.Item) :=
  (itemsOf specs words).filter fun items => (Arguments.operands items).isEmpty

/-- Paths are not empty. -/
def arePaths (paths : List String) : Bool :=
  paths.all fun path => !path.isEmpty

/-- A check, with at least one file. -/
def readCheck (words : List String) : Option CheckCommand := do
  let items ← itemsOf checkSpecs words
  let files := Arguments.operands items
  guard (!files.isEmpty && arePaths files)
  return { files := files, json := Arguments.has items "json" }

/-- The locales of a list with commas. -/
def localesOf (list : String) : List String :=
  (list.toList.splitOn ',').map String.ofList

/-- A coverage, with a source. -/
def readCoverage (words : List String) : Option CoverageCommand := do
  let items ← optionsOf coverageSpecs words
  let source ← Arguments.value? items "source"
  let folder := Arguments.value? items "translations"
  guard (arePaths (source :: folder.toList))
  return {
    source := source
    locales := (Arguments.values items "lang").flatMap localesOf
    ownFolder := folder
    strict := Arguments.has items "strict"
    json := Arguments.has items "json" }

/-- An argument of a message: a name and a text with an equals sign between them. -/
def argumentOf (word : String) : Option (String × String) :=
  match Arguments.splitAtEquals word.toList with
  | (_, none) => none
  | (name, some text) => some (String.ofList name, String.ofList text)

/-- A message to be translated, with a key and at least one catalog. -/
def readEval (words : List String) : Option EvalCommand := do
  let items ← optionsOf evalSpecs words
  let key ← Arguments.value? items "key"
  let catalogs := Arguments.values items "catalog"
  let arguments ← (Arguments.values items "param").mapM argumentOf
  guard (!catalogs.isEmpty && arePaths catalogs)
  return {
    key := key
    catalogs := catalogs
    locale := Arguments.value? items "locale"
    defaultLocale := Arguments.value? items "default-locale"
    arguments := arguments
    lenient := Arguments.has items "lenient"
    json := Arguments.has items "json" }

/-- The command on a command line. -/
def ofWords (words : List String) : Option Command := do
  let (items, command) ← Arguments.readCommand headSpecs words
  guard (globalsFit items)
  if Arguments.has items "version" then return .version
  match command with
  | some ("check", words) => (readCheck words).map .check
  | some ("coverage", words) => (readCoverage words).map .coverage
  | some ("eval", words) => (readEval words).map .eval
  | _ => none

/-! ## Running -/

/-- Runs a command, with the variables of the environment and the host's locale. -/
def run (c : Command) (files : Files) (lookup : String → Option String) (host : Option String) :
    Outcome :=
  match c with
  | .check c => c.run files
  | .coverage c => c.run files
  | .eval c => c.run files lookup host
  | .version => { code := .success, output := versionText ++ "\n" }

/-- The paths whose entries a command asks for. Those of the files in a folder are left out. -/
def paths : Command → List String
  | .check c => c.files
  | .coverage c => c.source :: c.locales.map c.fileOf
  | .eval c => c.catalogs
  | .version => []

/-- How commands are written. -/
def usage : String :=
  "usage: tolk [--color auto|always|never] [-v] check FILE... [--json]\n" ++
  "       tolk coverage --source FILE [--lang LOCALE,...] [--translations FOLDER] [--strict] " ++
  "[--json]\n" ++
  "       tolk eval --key KEY --catalog PATH... [--locale LOCALE] [--default-locale LOCALE] " ++
  "[-p NAME=VALUE]... [--lenient] [--json]\n" ++
  "       tolk --version\n"

/-- Runs the command on a command line. -/
def runWords (words : List String) (files : Files) (lookup : String → Option String)
    (host : Option String := Locale.hostLocale lookup) : Outcome :=
  match ofWords words with
  | none => .badUsage
  | some c => c.run files lookup host

end Command

end Parlance
