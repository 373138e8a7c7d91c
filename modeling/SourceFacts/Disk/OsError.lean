namespace SourceFacts.Disk

/-!
# Errors of the operating system
-/

/-- Why the operating system refused something. -/
inductive OsError where
  | notPermitted
  | noSuchFile
  | permissionDenied
  | busy
  | alreadyExists
  | notDirectory
  | isDirectory
  | invalidArgument
  | noSpace
  | nameTooLong
  | notEmpty
  | tooManyLinks
  /-- A path with a NUL character, which the system is not asked about. -/
  | nulInPath
  /-- Anything else, in the words of the system. -/
  | other (text : String)
deriving Repr, DecidableEq, Inhabited

namespace OsError

/-- The words of the system. -/
def message : OsError → String
  | .notPermitted => "Operation not permitted (os error 1)"
  | .noSuchFile => "No such file or directory (os error 2)"
  | .permissionDenied => "Permission denied (os error 13)"
  | .busy => "Device or resource busy (os error 16)"
  | .alreadyExists => "File exists (os error 17)"
  | .notDirectory => "Not a directory (os error 20)"
  | .isDirectory => "Is a directory (os error 21)"
  | .invalidArgument => "Invalid argument (os error 22)"
  | .noSpace => "No space left on device (os error 28)"
  | .nameTooLong => "File name too long (os error 36)"
  | .notEmpty => "Directory not empty (os error 39)"
  | .tooManyLinks => "Too many levels of symbolic links (os error 40)"
  | .nulInPath => "file name contained an unexpected NUL byte"
  | .other text => text

end OsError

end SourceFacts.Disk
