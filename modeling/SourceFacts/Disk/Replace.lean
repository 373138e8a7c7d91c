import SourceFacts.Disk.Files

namespace SourceFacts.Disk

/-!
# Replacing files

A file gets a new content in steps: the content is written to a new file beside
it, which then takes its place. Each step may fail, and what ran before it stays
done; the new file is removed when a step has failed. At every moment the file has
its old content or the new one.
-/

open Text Time

/-- A step of a replacement. -/
inductive ReplaceStep where
  /-- Make the new file. -/
  | create
  /-- Write the content. -/
  | fill
  /-- Wait until the content has reached the medium. -/
  | sync
  /-- Let the new file take the place of the old one. -/
  | move
deriving Repr, DecidableEq, Inhabited

/-- The steps of a replacement in order. -/
def ReplaceStep.all : List ReplaceStep := [.create, .fill, .sync, .move]

/-- A step that fails, whatever the tree is like. -/
structure ReplaceFault where
  step : ReplaceStep
  error : OsError
  /-- How much of the content is written before the failure. -/
  written : Nat := 0
deriving Repr, DecidableEq, Inhabited

/-- What can go wrong with a replacement besides what the tree forbids. -/
structure ReplaceTrouble where
  fault? : Option ReplaceFault := none
  /-- Whether the new file cannot be removed after a failure. -/
  keepsTemporary : Bool := false
deriving Repr, DecidableEq, Inhabited

/-- A replacement. -/
structure Replacement where
  path : String
  content : Bytes
  /-- What makes the name of the new file different from all others. -/
  tag : String
  now : Instant
  trouble : ReplaceTrouble := {}
deriving Repr, DecidableEq, Inhabited

namespace Replacement

/-- The name that stands in for that of a path without one. -/
def unnamed : String := "entry"

/-- The path of the new file. -/
def temporary (replacement : Replacement) : String :=
  let name := (Path.fileName? replacement.path).getD unnamed
  Path.sibling replacement.path ("." ++ name ++ "." ++ replacement.tag ++ ".tmp")

/-- What a step does if nothing goes wrong besides what the tree forbids. -/
def perform (replacement : Replacement) (disk : Disk) : ReplaceStep → Except OsError Disk
  | .create => disk.write replacement.temporary [] replacement.now
  | .fill => disk.write replacement.temporary replacement.content replacement.now
  | .sync => .ok disk
  | .move => disk.rename replacement.temporary replacement.path

/-- The tree after a step that fails. -/
def spoil (replacement : Replacement) (disk : Disk) (fault : ReplaceFault) : Disk :=
  match fault.step with
  | .fill =>
      let content := replacement.content.take fault.written
      (disk.write replacement.temporary content replacement.now).toOption.getD disk
  | _ => disk

/-- Takes steps until one fails. -/
def take (replacement : Replacement) : List ReplaceStep → Disk → Option OsError × Disk
  | [], disk => (none, disk)
  | step :: rest, disk =>
      match replacement.trouble.fault?.filter (·.step = step) with
      | some fault => (some fault.error, replacement.spoil disk fault)
      | none =>
          match replacement.perform disk step with
          | .error error => (some error, disk)
          | .ok disk => replacement.take rest disk

/-- The tree after the new file is removed, if that is possible. -/
def cleanUp (replacement : Replacement) (disk : Disk) : Disk :=
  if replacement.trouble.keepsTemporary then disk
  else (disk.removeFile replacement.temporary).toOption.getD disk

/-- Takes all steps, and removes the new file if one fails. -/
def run (replacement : Replacement) (disk : Disk) : Except OsError Unit × Disk :=
  match replacement.take ReplaceStep.all disk with
  | (none, disk) => (.ok (), disk)
  | (some error, disk) => (.error error, replacement.cleanUp disk)

end Replacement

/-- The tag with a number: 32 hexadecimal digits. -/
def tagText (number : Nat) : String :=
  String.ofList ((List.range 32).reverse.map fun index => hexDigit (number / Nat.pow 16 index % 16))

/-- Replaces the content of the file at a path. -/
def replace (disk : Disk) (path : String) (content : Bytes) (tag : String) (now : Instant) :
    Except OsError Unit × Disk :=
  Replacement.run { path, content, tag, now } disk

end SourceFacts.Disk
