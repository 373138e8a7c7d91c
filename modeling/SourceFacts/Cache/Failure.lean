import SourceFacts.Disk.OsError

namespace SourceFacts.Cache

/-!
# Why the cache cannot be used
-/

open Disk

/-- Why the cache cannot be used, or a file not be described. -/
inductive Failure where
  | io (error : OsError)
  /-- The file was last changed before the beginning of 1970. -/
  | beforeEpoch
  /-- Other metrics of the same names are counted already. -/
  | metricsTaken
deriving Repr, DecidableEq, Inhabited

namespace Failure

/-- What is wrong inside of a failure, in words. -/
def cause : Failure → String
  | .io error => error.message
  | .beforeEpoch => "second time provided was later than self"
  | .metricsTaken => "Duplicate metrics collector registration attempted"

/-- A failure in words. -/
def message (failure : Failure) : String :=
  match failure with
  | .io _ => "cache I/O failed: " ++ failure.cause
  | .beforeEpoch => "file modification time is before the epoch: " ++ failure.cause
  | .metricsTaken => "cache metrics registration failed: " ++ failure.cause

/-- The name of a kind of failure. -/
def kind : Failure → String
  | .io _ => "Io"
  | .beforeEpoch => "Mtime"
  | .metricsTaken => "Metrics"

end Failure

end SourceFacts.Cache
