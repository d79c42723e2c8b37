import Parlance.Console.Excerpt
import Parlance.Console.Files

/-!
# Catalog files

A catalog file holds the document of the locale that its name tells: `de_CH.json` is for `de_CH`. A
failure to load one is reported with the place of the fault in the document, where there is one.
-/

namespace Parlance

/-! ## Errors -/

/-- Why a catalog file cannot be loaded. A fault in the document keeps the document. -/
inductive FileError where
  | unnamed (path : String)
  | unreadable (path : String) (failure : ReadFailure)
  | document (path text : String) (error : DocumentError)
  | pattern (path text key : String) (error : PatternError)

/-- A line without the carriage return at its end, if it has one. -/
def withoutReturn (line : List Char) : List Char :=
  if line.getLast? = some '\r' then line.dropLast else line

/-- The bytes of a line with one byte for its end. A carriage return at the end is not counted. -/
def lineBytes (line : List Char) : Nat :=
  byteCount (withoutReturn line) + 1

/-- The bytes of the first lines of a text. -/
def bytesOfLines (text : List Char) (count : Nat) : Nat :=
  ((text.splitOn '\n').take count).foldr (fun line total => lineBytes line + total) 0

/-- The byte of a text that a place names. -/
def offsetOf (text : List Char) (p : Position) : Nat :=
  min (bytesOfLines text (p.line - 1) + (p.column - 1)) (byteCount text)

/-- The bytes before the first occurrence of `part` in a text. -/
def bytesBefore? (part : List Char) : List Char → Option Nat
  | [] => if part.isEmpty then some 0 else none
  | c :: rest =>
    if part.isPrefixOf (c :: rest) then some 0
    else (bytesBefore? part rest).map (c.utf8Size + ·)

/-- The first place of a key in quotes in a text, or the beginning of the text if there is none. -/
def keySpan (text : List Char) (key : String) : Span :=
  let quoted := '"' :: key.toList ++ ['"']
  match bytesBefore? quoted text with
  | some offset => ⟨offset, byteCount quoted⟩
  | none => ⟨0, 0⟩

namespace FileError

/-- What a person is told of an error. -/
def message : FileError → String
  | .unnamed path => path ++ " has no file stem to use as locale"
  | .unreadable path _ => "cannot read " ++ path
  | .document _ _ error => "invalid catalog document: " ++ error.message
  | .pattern _ _ key error => "invalid pattern for '" ++ key ++ "': " ++ error.message

/-- The code of an error. -/
def code : FileError → String
  | .unnamed _ => "tolk::locale"
  | .unreadable .. => "tolk::io"
  | .document .. => "tolk::catalog"
  | .pattern .. => "tolk::catalog"

/-- What may help against an error. -/
def help? : FileError → Option String
  | .unnamed _ => some "name catalog files after their locale, e.g. en_US.json"
  | .unreadable .. => none
  | .document .. =>
    some "a catalog is a JSON object mapping message keys to a string or a list of segments"
  | .pattern _ _ _ (.negativeIndex ..) => some "argument indices start at 0"
  | .pattern _ _ _ (.unsupportedSegment ..) =>
    some "segments are strings, or objects with an \"arg\" index or name"

/-- What lies behind an error. -/
def cause? : FileError → Option String
  | .unreadable _ failure => some failure.message
  | _ => none

/-- The part of the document that is at fault. -/
def span? : FileError → Option Span
  | .document _ text error =>
    some ⟨(error.position.map (offsetOf text.toList)).getD 0, 1⟩
  | .pattern _ text key _ => some (keySpan text.toList key)
  | _ => none

/-- Where the document is at fault, in words. -/
def label? : FileError → Option String
  | e@(.document _ text _) => e.span?.bind (Excerpt.label? text)
  | e@(.pattern _ text _ _) => e.span?.bind (Excerpt.label? text)
  | _ => none

/-- The message in a report, where lines end with a line feed alone and none is empty. -/
def headline (e : FileError) : String :=
  let shown := (e.message.toList.splitOn '\n').map withoutReturn
  String.ofList (List.intercalate ['\n'] (shown.filter fun line => !line.isEmpty))

/-- The report of an error, one part a line. -/
def report (e : FileError) : String :=
  let parts := [some ("Error: " ++ e.headline), e.cause?.map ("  caused by: " ++ ·),
    e.label?.map ("  " ++ ·), e.help?.map ("  help: " ++ ·), some ("  code: " ++ e.code)]
  String.join (parts.filterMap fun part => part.map (· ++ "\n"))

end FileError

/-! ## Loading -/

/-- What a load failure of the document at a path is to a person. -/
def FileError.ofLoad (path text : String) : LoadError → FileError
  | .read _ failure => .unreadable path failure
  | .document _ error => .document path text error
  | .pattern key _ error => .pattern path text key error

/-- A catalog with the messages of a file, their locale and their number. -/
structure Loaded where
  catalog : Catalog
  locale : String
  count : Nat

/-- Loads the file at a path under the locale of its name. -/
def Catalog.loadAt (c : Catalog) (files : Files) (path : String) : Except FileError Loaded :=
  match Path.stem? path with
  | none => .error (.unnamed path)
  | some locale =>
    match (files path).read with
    | .error failure => .error (.unreadable path failure)
    | .ok text =>
      match c.load locale text with
      | .error e => .error (.ofLoad path text e)
      | .ok (catalog, count) => .ok ⟨catalog, locale, count⟩

/-- The catalog that commands check documents with: without messages, and strict. -/
def Catalog.blank : Catalog :=
  Catalog.new (Locale.truncatingChain "") failFast

end Parlance
