import SourceFacts.Analysis.Failure
import SourceFacts.Cache.Failure
import SourceFacts.Config.Failure

namespace SourceFacts.Run

/-!
# Why a run ends early
-/

open Disk

/-- Why there is no enrichment of a file. -/
inductive EnrichmentFailure where
  | unavailable (reason : String)
  | invalidResponse (reason : String)
deriving Repr, DecidableEq, Inhabited

/-- Why there is no enrichment, in words. -/
def EnrichmentFailure.message : EnrichmentFailure → String
  | .unavailable reason => "Enrichment backend failed: " ++ reason
  | .invalidResponse reason => "Invalid enrichment response: " ++ reason

/-- Why files cannot be found or reports not be delivered. -/
inductive DeliveryFailure where
  | scan (path reason : String)
  | publish (path reason : String)
  | serialization (reason : String)
  | io (error : OsError)
deriving Repr, DecidableEq, Inhabited

namespace DeliveryFailure

/-- A failure in words. -/
def message : DeliveryFailure → String
  | .scan path reason => "Scan failed under " ++ path ++ ": " ++ reason
  | .publish path reason => "Publish failed for " ++ path ++ ": " ++ reason
  | .serialization reason => "Serialization failed: " ++ reason
  | .io error => "I/O error: " ++ error.message

/-- The name of a kind of failure. -/
def kind : DeliveryFailure → String
  | .scan .. => "Scan"
  | .publish .. => "Publish"
  | .serialization _ => "Serialization"
  | .io _ => "Io"

end DeliveryFailure

/-- Why a run cannot begin or ends early. -/
inductive Failure where
  | analysis (failure : Analysis.Failure)
  | cache (failure : Cache.Failure)
  | config (failure : Config.Failure)
  /-- The report on failures cannot be written. -/
  | report (error : OsError)
  | delivery (failure : DeliveryFailure)
deriving Repr, DecidableEq, Inhabited

/-- Why the report on failures cannot be written, in words. -/
def reportMessage (error : OsError) : String := "I/O error: " ++ error.message

namespace Failure

/-- A failure in words. -/
def message : Failure → String
  | .analysis failure => "Analysis error: " ++ failure.message
  | .cache failure => "Cache error: " ++ failure.message
  | .config failure => "Configuration error: " ++ failure.message
  | .report error => "Report error: " ++ reportMessage error
  | .delivery failure => "Pipeline error: " ++ failure.message

/-- The name of a kind of failure. -/
def kind : Failure → String
  | .analysis _ => "Analysis"
  | .cache _ => "Cache"
  | .config _ => "Config"
  | .report _ => "Report"
  | .delivery _ => "Pipeline"

end Failure

end SourceFacts.Run
