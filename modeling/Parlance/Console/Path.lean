import Parlance.Text.Blank

/-!
# Paths

A path is a text with slashes between its segments. Empty segments and single dots lead nowhere, and
the name of the file is the last segment that does. The name has an extension behind its last dot,
unless the dot is its first character; what precedes the dot is the stem.
-/

namespace Parlance.Path

/-! ## Names -/

/-- The segments of a path as they are written. -/
def segments (path : String) : List (List Char) :=
  path.toList.splitOn '/'

/-- Whether a segment stays where it is. -/
def isIdle (segment : List Char) : Bool :=
  segment == [] || segment == ['.']

/-- The segment for the folder above. -/
def above : List Char := ['.', '.']

/-- The name of the file or folder that a path ends with. -/
def name? (path : String) : Option (List Char) :=
  match ((segments path).filter fun s => !isIdle s).getLast? with
  | none => none
  | some last => if last = above then none else some last

/-- What precedes the last dot of a name; empty if there is no dot or if it comes first. -/
def beforeDot (name : List Char) : List Char :=
  ((name.reverse.dropWhile (· != '.')).drop 1).reverse

/-- A name without its extension. -/
def stem (name : List Char) : List Char :=
  if (beforeDot name).isEmpty then name else beforeDot name

/-- The extension of a name. -/
def extension? (name : List Char) : Option (List Char) :=
  if (beforeDot name).isEmpty then none else some (name.reverse.takeWhile (· != '.')).reverse

/-- The stem of the name that a path ends with. -/
def stem? (path : String) : Option String :=
  (name? path).map fun name => String.ofList (stem name)

/-- Whether the name of a path has the given extension. -/
def hasExtension (extension : String) (path : String) : Bool :=
  ((name? path).bind extension?) == some extension.toList

/-! ## Folders -/

/-- A path of segments as they are written. -/
def ofSegments (segments : List (List Char)) : String :=
  String.ofList (List.intercalate ['/'] segments)

/-- The folder of a path that ends with the name of a file: what precedes the name, without segments
that stay where they are. It is empty for a name alone. -/
def folder (path : String) : String :=
  match segments path with
  | [] => ""
  | [_] => ""
  | first :: rest =>
    match first, Text.dropWhileEnd isIdle rest.dropLast with
    | [], [] => "/"
    | first, kept => ofSegments (first :: kept)

/-- A path seen from a folder; a path that begins with a slash is the same from everywhere. -/
def join (folder path : String) : String :=
  if path.toList.head? = some '/' || folder.isEmpty then path
  else if folder.toList.getLast? = some '/' then folder ++ path
  else folder ++ "/" ++ path

end Parlance.Path
