import Parlance.Console.Command

/-!
# The command line

Reads what a command asks for, runs it, and writes what it leaves behind. A folder is seen as an
entry that cannot be read: its files are named one by one on the command line.
-/

namespace Parlance.Main

/-- Whether a failure has the given number, which some calls report negated. -/
def hasNumber (osCode number : UInt32) : Bool :=
  osCode = number || 0 - osCode = number

/-- What a path leads to if reading it fails. -/
def entryOfError : IO.Error → Entry
  | .noFileOrDirectory .. => .missing .notFound
  | .invalidArgument _ osCode text =>
    if hasNumber osCode 36 then .missing .nameTooLong else .file (.error (.other text))
  | .inappropriateType _ osCode _ =>
    if hasNumber osCode 21 then .file (.error .isADirectory) else .missing .notADirectory
  | .permissionDenied .. => .file (.error (.other "Permission denied (os error 13)"))
  | e => .file (.error (.other (toString e)))

/-- What a path leads to. -/
def look (path : String) : IO Entry := do
  try
    let bytes ← IO.FS.readBinFile path
    match String.fromUTF8? bytes with
    | some text => return .file (.ok text)
    | none => return .file (.error .notText)
  catch e => return entryOfError e

/-- The entries of some paths. -/
def lookAll (paths : List String) : IO Files := do
  let entries ← paths.mapM fun path => do return (path, ← look path)
  return fun path => (entries.lookup path).getD (.missing .notFound)

/-- The variables of the environment that name a locale. -/
def localeVariables : IO (String → Option String) := do
  let names := Locale.overrideVariable :: Locale.hostVariables
  let values ← names.mapM fun name => do return (name, ← IO.getEnv name)
  return fun name => (values.lookup name).join

/-- Runs the command on a command line. -/
def run (words : List String) : IO UInt32 := do
  let paths := ((Command.ofWords words).map Command.paths).getD []
  let lookup ← localeVariables
  let host := Locale.hostLocale lookup
  let outcome := Command.runWords words (← lookAll paths) lookup host
  IO.print outcome.output
  IO.eprint (String.join (outcome.errors.map FileError.report) ++ outcome.complaint)
  if outcome.code = .usage then IO.eprint Command.usage
  return outcome.code.number.toUInt32

end Parlance.Main

/-- The program. -/
def main (words : List String) : IO UInt32 :=
  Parlance.Main.run words
