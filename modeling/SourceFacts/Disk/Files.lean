import SourceFacts.Disk.OsError
import SourceFacts.Disk.Path
import SourceFacts.Disk.Tree

namespace SourceFacts.Disk

/-!
# Files and directories

What the operating system does with paths: it follows them name by name and also
follows the links that it meets. Nothing is found above the working directory.
-/

open Text Time

/-! ## Following paths -/

/-- Where a path leads. -/
inductive Destination where
  /-- There is something. -/
  | found (place : Place) (node : Node)
  /-- There is a directory, but nothing of the last name in it. -/
  | vacant (place : Place)
deriving Repr, DecidableEq, Inhabited

/-- How many links are followed on the way. -/
def maxLinks : Nat := 40

/-- The longest name in bytes. -/
def maxNameLength : Nat := 255

/-- The longest path in bytes. -/
def maxPathLength : Nat := 4095

/-- The names in a path; one that ends with a slash leads into the directory. -/
def steps (path : String) : List String :=
  Path.names path ++ if Path.endsWithSlash path then ["."] else []

/-- Follows names from a directory. The link that the last name may be is followed
only if that is wanted. -/
def follow (disk : Disk) (followsLast : Bool) (links : Nat) (base : Place) (names : List String) :
    Except OsError Destination :=
  match names with
  | [] => .ok (.found base .directory)
  | "." :: rest => follow disk followsLast links base rest
  | ".." :: rest => follow disk followsLast links base.dropLast rest
  | name :: rest =>
      if maxNameLength < name.utf8ByteSize then .error .nameTooLong
      else
        let place := base ++ [name]
        match disk.node? place with
        | none => if rest.isEmpty then .ok (.vacant place) else .error .noSuchFile
        | some .directory => follow disk followsLast links place rest
        | some (.file content modified) =>
            if rest.isEmpty then .ok (.found place (.file content modified))
            else .error .notDirectory
        | some (.link target) =>
            if rest.isEmpty && !followsLast then .ok (.found place (.link target))
            else
              match links with
              | 0 => .error .tooManyLinks
              | links + 1 =>
                  if Path.isAbsolute target then .error .noSuchFile
                  else follow disk followsLast links base (steps target ++ rest)
termination_by (links, names.length)

/-- Where a path leads. -/
def destination (disk : Disk) (followsLast : Bool) (path : String) :
    Except OsError Destination :=
  if path.toList.contains '\x00' then .error .nulInPath
  else if path = "" then .error .noSuchFile
  else if maxPathLength < path.utf8ByteSize then .error .nameTooLong
  else if Path.isAbsolute path then .error .noSuchFile
  else follow disk followsLast maxLinks [] (steps path)

/-- What a path leads to, which must be there. -/
def find (disk : Disk) (followsLast : Bool) (path : String) : Except OsError (Place × Node) :=
  match disk.destination followsLast path with
  | .error error => .error error
  | .ok (.found place node) => .ok (place, node)
  | .ok (.vacant _) => .error .noSuchFile

/-- Whether there is a directory at a path. -/
def isDirectory (disk : Disk) (path : String) : Bool :=
  match disk.find true path with
  | .ok (_, .directory) => true
  | _ => false

/-! ## Reading -/

/-- The size that is given for a directory. -/
def directorySize : Nat := 4096

/-- The size of something in bytes. -/
def Node.size : Node → Nat
  | .file content _ => content.length
  | .link target => target.utf8ByteSize
  | .directory => directorySize

/-- The content of a file. -/
def read (disk : Disk) (path : String) : Except OsError Bytes :=
  match disk.find true path with
  | .error error => .error error
  | .ok (_, .file content _) => .ok content
  | .ok (_, .link _) => .error .tooManyLinks
  | .ok (_, .directory) => .error .isDirectory

/-- What is directly in a directory. -/
def readDirectory (disk : Disk) (path : String) : Except OsError (List (String × Node)) :=
  match disk.find true path with
  | .error error => .error error
  | .ok (place, .directory) => .ok (disk.children place)
  | .ok _ => .error .notDirectory

/-! ## Writing -/

/-- Gives a file a new content; a file that is not there is made. -/
def write (disk : Disk) (path : String) (content : Bytes) (now : Instant) :
    Except OsError Disk :=
  match disk.destination true path with
  | .error error => .error error
  | .ok (.found place (.file ..)) | .ok (.vacant place) => .ok (disk.set place (.file content now))
  | .ok (.found _ (.link _)) => .error .tooManyLinks
  | .ok (.found _ .directory) => .error .isDirectory

/-- A path without slashes at its end. -/
def withoutSlashes (path : String) : String :=
  match (path.toList.reverse.dropWhile (· = '/')).reverse with
  | [] => path
  | chars => String.ofList chars

/-- Makes a directory. -/
def createDirectory (disk : Disk) (path : String) : Except OsError Disk :=
  match disk.destination false (withoutSlashes path) with
  | .error error => .error error
  | .ok (.found ..) => .error .alreadyExists
  | .ok (.vacant place) => .ok (disk.set place .directory)

/-- Makes a directory if there is none. -/
def ensureDirectory (disk : Disk) (path : String) : Except OsError Unit × Disk :=
  match disk.createDirectory path with
  | .ok disk => (.ok (), disk)
  | .error error => (if disk.isDirectory path then .ok () else .error error, disk)

/-- Makes a directory and those of at most a number of directories that it is in.
Those that were made stay when another one cannot be made. -/
def ensureWithin (disk : Disk) : Nat → String → Except OsError Unit × Disk
  | 0, path => disk.ensureDirectory path
  | depth + 1, path =>
      match disk.ensureDirectory path, Path.parent? path with
      | (.error .noSuchFile, _), some "" => (.error .noSuchFile, disk)
      | (.error .noSuchFile, _), some parent =>
          match ensureWithin disk depth parent with
          | (.error error, disk) => (.error error, disk)
          | (.ok (), disk) => disk.ensureDirectory path
      | result, _ => result

/-- Makes a directory and all that it is in. -/
def createDirectories (disk : Disk) (path : String) : Except OsError Unit × Disk :=
  if path = "" then (.ok (), disk) else disk.ensureWithin path.length path

/-- Removes a file or a link. -/
def removeFile (disk : Disk) (path : String) : Except OsError Disk :=
  match disk.find false path with
  | .error error => .error error
  | .ok (_, .directory) => .error .isDirectory
  | .ok (place, _) => .ok (disk.erase place)

/-- Removes a directory that holds nothing. -/
def removeDirectory (disk : Disk) (path : String) : Except OsError Disk :=
  match disk.find false (withoutSlashes path) with
  | .error error => .error error
  | .ok (place, .directory) =>
      if (disk.children place).isEmpty then .ok (disk.erase place) else .error .notEmpty
  | .ok _ => .error .notDirectory

/-- Whether the last name of a path stands for a directory that is there anyway. -/
def endsInDots (path : String) : Bool :=
  match (Path.names path).getLast? with
  | some "." | some ".." => true
  | _ => false

/-- Moves a file to another path, in place of a file that is there. -/
def rename (disk : Disk) (source target : String) : Except OsError Disk := do
  let (place, node) ← disk.find false source
  if endsInDots target then .error .busy
  else
    match ← disk.destination false (withoutSlashes target) with
    | .found _ .directory => .error .isDirectory
    | .found other _ | .vacant other =>
        if Path.endsWithSlash target then .error .notDirectory
        else .ok ((disk.erase place).set other node)

end SourceFacts.Disk
