import SourceFacts.Cache.Failure
import SourceFacts.Disk.Files
import SourceFacts.Facts.Descriptor

namespace SourceFacts.Scan

/-!
# Finding source files

The Python files below a directory, in the order of their paths name by name.
Hidden directories and those of other people's code are left out, and links are
not followed.
-/

open Disk Facts

/-!
## Describing files

The descriptor of a file that is there tells its size, its fingerprint and when
it was last changed.
-/

section Describing

open Hash Text Time

/-- The language of a file, which is taken to be Python if its name does not tell. -/
def languageOf (path : String) : SourceLanguage :=
  ((Path.extension? path).bind SourceLanguage.ofExtension?).getD .python

/-- A moment whose nanoseconds since the beginning of 1970 are kept in a signed word
of 64 bits. -/
def wordInstant (moment : Instant) : Instant :=
  Instant.ofNanoseconds (moment.toNanoseconds.bmod 18446744073709551616)

/-- The descriptor of a file with a content, last changed at a moment. -/
def describeFile (path : String) (content : Bytes) (modified : Instant) :
    Except Cache.Failure Descriptor :=
  if modified.before {} then .error .beforeEpoch
  else .ok {
    path
    sizeBytes := UInt64.ofNat content.length
    fingerprint? := some (Fingerprint.ofContent content)
    language := languageOf path
    modified? := some (wordInstant modified) }

/-- The descriptor of the file at a path. -/
def describe (disk : Disk) (path : String) : Except Cache.Failure Descriptor :=
  match disk.find true path with
  | .error error => .error (.io error)
  | .ok (_, .file content modified) => describeFile path content modified
  | .ok (_, .link _) => .error (.io .tooManyLinks)
  | .ok (_, .directory) => .error (.io .isDirectory)

end Describing

/-! ## Looking for files -/

/-- Names of directories that hold no code of the project. -/
def skippedNames : List String := ["__pycache__", "node_modules", "venv", "site-packages"]

/-- Whether a directory of a name is left out. -/
def isSkipped (name : String) : Bool := Text.beginsWith name "." || skippedNames.contains name

/-- Whether a file of a name holds Python. -/
def isSourceName (name : String) : Bool :=
  ((Path.extensionOfName? name).bind SourceLanguage.ofExtension?).isSome

/-- Whether a file with the given names on the way to it belongs to a project. -/
def isProjectFile (place : Place) (node : Node) : Bool :=
  match node, place.getLast? with
  | .file .., some name => isSourceName name && !place.dropLast.any isSkipped
  | _, _ => false

/-- The path of something with the given names on the way from a path. -/
def pathBelow (root : String) (place : Place) : String := place.foldl Path.child root

/-- What the system says about files that may not be read; a tree does not tell. -/
abbrev Refusals := String → Option OsError

/-- The descriptor of the file at a path, if it may be read. -/
def describeAmid (refusals : Refusals) (disk : Disk) (path : String) :
    Except Cache.Failure Descriptor :=
  match refusals path with
  | some error => .error (.io error)
  | none => describe disk path

/-- The size of what is at a path, as far as the path can be followed. -/
def sizeAt (disk : Disk) (path : String) : Nat :=
  match disk.find false path with
  | .ok (_, node) => node.size
  | .error _ => 0

/-- The descriptor of a file, of which little may be known but its size. -/
def describeOr (refusals : Refusals) (disk : Disk) (path : String) : Descriptor :=
  match describeAmid refusals disk path with
  | .ok descriptor => descriptor
  | .error _ => { path, sizeBytes := UInt64.ofNat (sizeAt disk path) }

/-- Why a project cannot be scanned. -/
def missingRoot : String := "root does not exist"

/-- Whether one place comes before another or is the same, name by name. -/
def isInOrder : Place → Place → Bool
  | [], _ => true
  | _ :: _, [] => false
  | left :: lefts, right :: rights =>
      left < right || (left = right && isInOrder lefts rights)

/-- Whether the directory that something is in can be listed by its path. -/
def isListed (disk : Disk) (root : String) (place : Place) : Bool :=
  (disk.readDirectory (pathBelow root place.dropLast)).toBool

/-- The descriptors of the Python files below a place that a path leads to. -/
def describeBelow (refusals : Refusals) (disk : Disk) (root : String) (place : Place) :
    List Descriptor :=
  let files := (disk.below place).filter fun (place, node) =>
    isProjectFile place node && isListed disk root place
  let ordered := files.mergeSort fun left right => isInOrder left.1 right.1
  ordered.map fun (place, _) => describeOr refusals disk (pathBelow root place)

/-- The descriptors of the Python files of a project, of which some may not be read. -/
def sourceFilesAmid? (refusals : Refusals) (disk : Disk) (root : String) :
    Option (List Descriptor) :=
  match disk.find true root, disk.find false root with
  | .ok (place, .directory), .ok _ => some (describeBelow refusals disk root place)
  | .ok _, .ok (_, .file ..) =>
      if ((Path.fileName? root).map isSourceName).getD false then
        some [describeOr refusals disk root]
      else some []
  | .ok _, _ => some []
  | .error _, _ => none

/-- The descriptors of the Python files of a project. -/
def sourceFiles? (disk : Disk) (root : String) : Option (List Descriptor) :=
  sourceFilesAmid? (fun _ => none) disk root

end SourceFacts.Scan
