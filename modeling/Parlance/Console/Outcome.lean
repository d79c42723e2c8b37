import Parlance.Console.CatalogFile

/-!
# Outcomes of commands

What a command leaves behind: an exit code, what it has written, and what it complains of, which is
either a text of its own or errors of catalog files, one report each.
-/

namespace Parlance

/-- How a command ends. -/
inductive ExitCode where
  | success
  | usage
  | invalidData
  | failure
  deriving DecidableEq

/-- The number of an exit code. -/
def ExitCode.number : ExitCode → Nat
  | .success => 0
  | .usage => 2
  | .invalidData => 65
  | .failure => 70

/-- What a command leaves behind. -/
structure Outcome where
  code : ExitCode
  output : String := ""
  complaint : String := ""
  errors : List FileError := []

namespace Outcome

/-- The command line is not understood. -/
def badUsage : Outcome :=
  { code := .usage }

/-- A catalog file that the command needs cannot be loaded. -/
def notLoaded (e : FileError) : Outcome :=
  { code := .failure, errors := [e] }

end Outcome

end Parlance
