import SourceFacts.Text.Pieces

namespace SourceFacts.Disk.Path

/-!
# The text of paths

A path is a text with slashes between names. Slashes that repeat or stand at the
end separate nothing, and a dot is no name except at the beginning.
-/

open Text

/-- The longest runs of characters without a slash; some are empty. -/
def segments : List Char → List (List Char)
  | [] => [[]]
  | '/' :: rest => [] :: segments rest
  | c :: rest =>
      match segments rest with
      | [] => [[c]]
      | first :: others => (c :: first) :: others

/-- The names in a path, dots included. -/
def names (path : String) : List String :=
  ((segments path.toList).filter (!·.isEmpty)).map String.ofList

/-- Whether a path begins at the top of the system. -/
def isAbsolute (path : String) : Bool := beginsWith path "/"

/-- Whether a path ends with a slash. -/
def endsWithSlash (path : String) : Bool := endsWith path "/"

/-- The parts of a path: its names without the dots that say nothing. -/
def parts (path : String) : List String :=
  match names path with
  | [] => []
  | first :: rest =>
      let rest := rest.filter (· ≠ ".")
      if first = "." && isAbsolute path then rest else first :: rest

/-- The last part of a path, if it is a name. -/
def fileName? (path : String) : Option String :=
  match (parts path).getLast? with
  | some "." | some ".." | none => none
  | some name => some name

/-- What follows the last dot of a name, unless the name begins with it. -/
def extensionOfName? (name : String) : Option String :=
  match name.toList.reverse.span (· ≠ '.') with
  | (_, []) | (_, [_]) => none
  | (ending, _) => some (String.ofList ending.reverse)

/-- The extension of the last part of a path. -/
def extension? (path : String) : Option String := (fileName? path).bind extensionOfName?

/-- Whether a piece between slashes says nothing at the end of a path. -/
def isSilent (piece : List Char) : Bool := piece.isEmpty || piece = ['.']

/-- Pieces up to the last one that says something; the first one stays. -/
def trimmed : List (List Char) → List (List Char)
  | [] => []
  | first :: rest => first :: (rest.reverse.dropWhile isSilent).reverse

/-- The path of the directory that a path is in, empty if it has one part only. -/
def parent? (path : String) : Option String :=
  if (parts path).isEmpty then none
  else
    match trimmed (trimmed (segments path.toList)).dropLast with
    | [[]] => some "/"
    | pieces => some (join "/" (pieces.map String.ofList))

/-- The path of something in the directory at a path. -/
def child (path name : String) : String :=
  if isAbsolute name then name
  else if path = "" || endsWithSlash path then path ++ name
  else path ++ "/" ++ name

/-- The path of something in the directory that a path is in. -/
def sibling (path name : String) : String :=
  match fileName? path with
  | none => child path name
  | some _ => child ((parent? path).getD "") name

end SourceFacts.Disk.Path
