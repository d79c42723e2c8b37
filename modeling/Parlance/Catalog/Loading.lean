import Parlance.Catalog.Basic
import Parlance.Catalog.Document

/-!
# Loading catalog documents

A document is loaded into one locale as a whole or not at all. Of several members of one key the
last counts; of several bad patterns the one with the smallest key is reported.
-/

namespace Parlance

/-! ## Errors -/

/-- Why a file cannot be read. -/
inductive ReadFailure where
  | notFound
  | notADirectory
  | isADirectory
  | nameTooLong
  | notText
  | other (text : String)

/-- What a person is told of a failure to read. -/
def ReadFailure.message : ReadFailure → String
  | .notFound => "No such file or directory (os error 2)"
  | .notADirectory => "Not a directory (os error 20)"
  | .isADirectory => "Is a directory (os error 21)"
  | .nameTooLong => "File name too long (os error 36)"
  | .notText => "stream did not contain valid UTF-8"
  | .other text => text

/-- Why a document cannot be loaded. -/
inductive LoadError where
  | read (path : String) (failure : ReadFailure)
  | document (locale : String) (error : DocumentError)
  | pattern (key locale : String) (error : PatternError)

/-- What a person is told of an error. -/
def LoadError.message : LoadError → String
  | .read path failure => "failed to read '" ++ path ++ "': " ++ failure.message
  | .document locale error =>
    "invalid catalog document for locale '" ++ locale ++ "': " ++ error.message
  | .pattern key locale error =>
    "invalid pattern for '" ++ key ++ "' in locale '" ++ locale ++ "': " ++ error.message

/-! ## Loading -/

/-- Compiles the patterns of a document in the order given; the first bad one is the error. -/
def compileMembers (locale : String) :
    List (String × Pattern) → Except LoadError (List (String × Compiled))
  | [] => .ok []
  | (key, pattern) :: rest =>
    match pattern.compile with
    | .error e => .error (.pattern key locale e)
    | .ok compiled =>
      match compileMembers locale rest with
      | .error e => .error e
      | .ok others => .ok ((key, compiled) :: others)

namespace Catalog

/-- The compiled messages of a document, in the order of their keys. -/
def compileDocument (locale text : String) : Except LoadError (List (String × Compiled)) :=
  match Document.parse text with
  | .error e => .error (.document locale e)
  | .ok members => compileMembers locale (Dict.ofMembers members)

/-- Loads a document into a locale. Gives the catalog with its messages and how many they are. -/
def load (c : Catalog) (locale text : String) : Except LoadError (Catalog × Nat) :=
  match compileDocument locale text with
  | .error e => .error e
  | .ok messages => .ok ({ c with store := c.store.insertAll locale messages }, messages.length)

/-- Loads what was read from a file into a locale. -/
def loadFile (c : Catalog) (locale path : String) (content : Except ReadFailure String) :
    Except LoadError (Catalog × Nat) :=
  match content with
  | .error failure => .error (.read path failure)
  | .ok text => c.load locale text

end Catalog

end Parlance
