import Parlance.Console.Outcome
import Parlance.Translator.Basic

/-!
# Translating one message

A request is put together from the command line and translated with the catalogs named there. The
English texts of the built-in keys are in the catalog before any file is loaded.
-/

namespace Parlance

/-- The key of the message, the catalog files and folders, the locale to translate to, the default
locale, the arguments by name in order, whether missing texts are substituted, and whether the
result is written as JSON. -/
structure EvalCommand where
  key : String
  catalogs : List String
  locale : Option String
  defaultLocale : Option String
  arguments : List (String × String)
  lenient : Bool
  json : Bool

/-- The value that a text on the command line stands for: a whole number of 128 bits, else a number,
else the text itself. -/
def Value.ofArgument (text : String) : Value :=
  match (readInt text).filter (fitsSigned 128) with
  | some n => .integer n
  | none =>
    match readBinary64 text with
    | some x => .float x
    | none => .string text

namespace EvalCommand

/-- The request of the command. -/
def request (c : EvalCommand) : Message :=
  c.arguments.foldl (fun r (name, text) => r.bind name (Value.ofArgument text))
    (Request.ofKey c.key)

/-- The default locale: the one given, else the override of the environment as it stands, else the
one detected. -/
def resolvedDefault (c : EvalCommand) (lookup : String → Option String) (host : Option String) :
    String :=
  match c.defaultLocale.orElse fun _ => lookup Locale.overrideVariable with
  | some locale => locale
  | none => Locale.detectDefault lookup host

/-- The extension of catalog files in a folder. -/
def catalogExtension : String := "json"

/-- The files that a path stands for: the catalog files of a folder in order, or the path itself. -/
def catalogFiles (files : Files) (path : String) : List String :=
  match files path with
  | .folder names =>
    ((names.filter (Path.hasExtension catalogExtension)).mergeSort (· ≤ ·)).map (Path.join path)
  | _ => [path]

/-- Loads files one after the other into a translator. -/
def loadAll (files : Files) (t : Translator) : List String → Except FileError Translator
  | [] => .ok t
  | path :: rest =>
    match t.catalog.loadAt files path with
    | .error e => .error e
    | .ok loaded => loadAll files (t.withCatalog loaded.catalog) rest

/-- The translator for a default locale before any file is loaded. -/
def translator (c : EvalCommand) (default : String) : Translator :=
  (Translator.new default (if c.lenient then substitute else failFast)).registerBuiltins default

/-- The translated text as it is written. -/
def output (c : EvalCommand) (locale text : String) : String :=
  if c.json then
    let result := Json.object
      [("key", .string c.key), ("locale", .string locale), ("result", .string text)]
    result.pretty 0 ++ "\n"
  else text ++ "\n"

/-- The failure of the request as it is reported. -/
def complaint (c : EvalCommand) (e : TranslateError) : String :=
  if c.json then (Json.object [("error", .string e.message)]).pretty 0 ++ "\n"
  else "Translation error: " ++ e.message ++ "\n"

/-- Translates the request, with the variables of the environment and the host's locale. -/
def run (c : EvalCommand) (files : Files) (lookup : String → Option String)
    (host : Option String) : Outcome :=
  let default := c.resolvedDefault lookup host
  match loadAll files (c.translator default) (c.catalogs.flatMap (catalogFiles files)) with
  | .error e => .notLoaded e
  | .ok t =>
    let locale := c.locale.getD default
    match t.translateTo c.request locale with
    | (.ok text, _) => { code := .success, output := c.output locale text }
    | (.error e, _) => { code := .invalidData, complaint := c.complaint e }

end EvalCommand

end Parlance
