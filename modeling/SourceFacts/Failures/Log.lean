import SourceFacts.Disk.Replace
import SourceFacts.Failures.Statistics
import SourceFacts.Json.Printer

namespace SourceFacts.Failures

/-!
# The log of a run

The failures of a run in the order in which they came, and how many files
succeeded.
-/

open Disk Json Time

/-- What a run has met with so far. -/
structure Log where
  records : List Record := []
  successful : Nat := 0
  /-- The number of files that the run was announced to have. -/
  declaredTotal : Nat := 0
deriving Repr, DecidableEq, Inhabited

namespace Log

/-- Adds a failure. -/
def addRecord (log : Log) (record : Record) : Log :=
  { log with records := log.records ++ [record] }

/-- Adds a success. -/
def addSuccess (log : Log) : Log := { log with successful := log.successful + 1 }

/-- Announces the number of files. -/
def declareTotal (log : Log) (total : Nat) : Log := { log with declaredTotal := total }

/-- The statistics so far. -/
def statistics (log : Log) (elapsed : Nat) : Statistics :=
  Statistics.compute log.declaredTotal log.successful log.records elapsed

/-- The failures in a category. -/
def recordsIn (log : Log) (category : Category) : List Record :=
  log.records.filter (·.category = category)

/-- The failures after which another attempt may succeed. -/
def retryable (log : Log) : List Record := log.records.filter (·.isRetryable)

/-- Whether there are failures. -/
def hasFailures (log : Log) : Bool := !log.records.isEmpty

/-- How many paths are listed for a category. -/
def listedPaths : Nat := 3

/-- The first paths of a category in words, nothing if there are none. -/
def pathsText (log : Log) (category : Category) : String :=
  let paths := (log.recordsIn category).map (·.path)
  if paths.isEmpty then ""
  else
    "\n" ++ category.name ++ ":\n" ++
      Text.join "" ((paths.take listedPaths).map fun path => "    - " ++ path ++ "\n") ++
      if paths.length > listedPaths then
        "    ... and " ++ toString (paths.length - listedPaths) ++ " more\n"
      else ""

/-- The log in words. -/
def summary (log : Log) (elapsed : Nat) : String :=
  (log.statistics elapsed).toText ++ Text.join "" (Category.all.map log.pathsText)

/-- The report on a project at a moment. -/
def report (log : Log) (project : String) (now : Instant) (elapsed : Nat) : Json :=
  .object [
    ("timestamp", instantJson now),
    ("project_path", .string project),
    ("summary", (log.statistics elapsed).toJson),
    ("errors", .array (log.records.map Record.toJson))]

end Log

/-! ## Writing reports -/

/-- Writes a report to a file, whose directory is made if it is not there. -/
def saveReport (disk : Disk) (path : String) (report : Json) (tag : String) (now : Instant) :
    Except OsError Unit × Disk :=
  match disk.createDirectories ((Path.parent? path).getD "") with
  | (.error error, disk) => (.error error, disk)
  | (.ok (), disk) => disk.replace path (Text.encode report.pretty) tag now

end SourceFacts.Failures
