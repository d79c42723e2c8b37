import Parlance.Catalog.Loading
import Parlance.Console.Path

/-!
# Files

What a command sees of the files: the entry that a path leads to. A tree of files in memory gives
such a view; of the folders above its root nothing is known but the files that were put there.
-/

namespace Parlance

/-! ## Views -/

/-- What a path leads to. -/
inductive Entry where
  | file (content : Except ReadFailure String)
  | folder (names : List String)
  | missing (failure : ReadFailure)

/-- The entries of paths. -/
abbrev Files := String → Entry

namespace Entry

/-- The text of an entry. -/
def read : Entry → Except ReadFailure String
  | .file content => content
  | .folder _ => .error .isADirectory
  | .missing failure => .error failure

/-- Whether a path leads to anything. -/
def isThere : Entry → Bool
  | .missing _ => false
  | _ => true

end Entry

/-! ## Trees -/

/-- A place in a tree of files, as the names that lead to it from the root. A place outside the tree
begins with as many steps up as it takes. -/
abbrev Place := List (List Char)

/-- The place that a segment of a path leads to. -/
def Place.further (place : Place) (segment : List Char) : Place :=
  if Path.isIdle segment then place
  else if segment = Path.above && place.getLast?.any (· ≠ Path.above) then place.dropLast
  else place ++ [segment]

/-- The places that segments of a path lead to one after the other, the last one apart. -/
def Place.passed (place : Place) : List (List Char) → List Place
  | [] => []
  | segment :: rest => place :: (place.further segment).passed rest

/-- A tree of files: every file with its place, and folders that may be empty. The folders on the
way to a place belong to the tree as well. -/
structure FileTree where
  files : List (Place × String)
  folders : List Place

namespace FileTree

/-- The tree without files. -/
def empty : FileTree :=
  ⟨[], []⟩

/-- Adds a file under a path, or a folder if the path ends with a slash, and the folders that the
path passes. -/
def add (t : FileTree) (path content : String) : FileTree :=
  let segments := Path.segments path
  let place := segments.foldl Place.further []
  let folders := Place.passed [] segments ++ t.folders
  if path.toList.getLast? = some '/' then { t with folders := place :: folders }
  else ⟨(place, content) :: t.files, folders⟩

/-- All places of files and folders. -/
def places (t : FileTree) : List Place :=
  t.files.map Prod.fst ++ t.folders

/-- Whether there is a folder at a place. -/
def isFolder (t : FileTree) (place : Place) : Bool :=
  place.all (· == Path.above) || t.folders.contains place ||
    t.places.any fun other => place.isPrefixOf other && place.length < other.length

/-- The names in a folder, in order. -/
def namesIn (t : FileTree) (folder : Place) : List String :=
  let inside := t.places.filterMap fun place =>
    if folder.isPrefixOf place then place[folder.length]? else none
  let names := inside.filter fun name => name != Path.above
  Dict.names (Dict.ofMembers (names.map fun name => (String.ofList name, ())))

/-- Where the walk along a path has led: to a folder of the tree, to a file of the tree, or to a
folder of which nothing is known. -/
inductive Standing where
  | folder (place : Place)
  | file (content : String)
  | outside

/-- The most bytes of the name of a file or folder. -/
def nameLimit : Nat := 255

/-- The most bytes of a path. -/
def pathLimit : Nat := 4095

/-- Why a name leads nowhere in a folder that does not have it. -/
def absence (name : List Char) : ReadFailure :=
  if nameLimit < byteCount name then .nameTooLong else .notFound

/-- Goes one segment further. -/
def step (t : FileTree) (standing : Standing) (segment : List Char) : Except ReadFailure Standing :=
  match standing with
  | .file _ => .error .notADirectory
  | .outside =>
    if Path.isIdle segment || segment == Path.above then .ok .outside else .error (absence segment)
  | .folder place =>
    let next := place.further segment
    match t.files.find? fun f => f.1 == next with
    | some (_, content) => .ok (.file content)
    | none => if t.isFolder next then .ok (.folder next) else .error (absence segment)

/-- What a path leads to from the root of the tree. -/
def view (t : FileTree) : Files := fun path =>
  let start : Standing := if path.toList.head? = some '/' then .outside else .folder []
  if path.isEmpty then .missing .notFound
  else if pathLimit < byteCount path.toList then .missing .nameTooLong
  else
    match (Path.segments path).foldlM t.step start with
    | .ok (.file content) => .file (.ok content)
    | .ok (.folder place) => .folder (t.namesIn place)
    | .ok .outside => .folder []
    | .error failure => .missing failure

end FileTree

end Parlance
