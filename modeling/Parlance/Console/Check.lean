import Parlance.Console.Outcome

/-!
# Checking catalog files

Every file is checked on its own, and after a bad one the others are still checked. The result of
each is a line or an error, or for all of them one JSON list.
-/

namespace Parlance

/-- The files to check, and whether the results are written as JSON. -/
structure CheckCommand where
  files : List String
  json : Bool

/-- The result for one file: its locale and the number of its messages, or the error. -/
abbrev CheckResult := Except FileError (String × Nat)

/-- Checks one file. -/
def checkFile (files : Files) (path : String) : CheckResult :=
  match Catalog.blank.loadAt files path with
  | .ok loaded => .ok (loaded.locale, loaded.count)
  | .error e => .error e

namespace CheckResult

/-- The result for the file at a path in JSON. -/
def toJson (path : String) : CheckResult → Json
  | .ok (locale, count) =>
    .object [("file", .string path), ("locale", .string locale), ("messages", .integer count),
      ("error", .null)]
  | .error e =>
    .object [("file", .string path), ("locale", .null), ("messages", .integer 0),
      ("error", .string e.message)]

/-- The word for a good file, in green. -/
def okText : String :=
  "\x1b[32mok\x1b[39m"

/-- The line for a good file; there is none for a bad one. -/
def line (path : String) : CheckResult → String
  | .ok (locale, count) =>
    okText ++ " " ++ path ++ " (" ++ locale ++ ", " ++ toString count ++ " messages)\n"
  | .error _ => ""

/-- The error for a bad file. -/
def error? : CheckResult → Option FileError
  | .ok _ => none
  | .error e => some e

end CheckResult

/-- Checks all files. -/
def CheckCommand.run (c : CheckCommand) (files : Files) : Outcome :=
  let results := c.files.map fun path => (path, checkFile files path)
  let errors := results.filterMap fun (_, result) => result.error?
  let code : ExitCode := if errors.isEmpty then .success else .invalidData
  if c.json then
    let list := Json.array (results.map fun (path, result) => result.toJson path)
    { code := code, output := list.pretty 0 ++ "\n" }
  else
    { code := code
      output := String.join (results.map fun (path, result) => result.line path)
      errors := errors }

end Parlance
