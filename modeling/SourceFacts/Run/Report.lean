import SourceFacts.Analysis.Outcome
import SourceFacts.Hash.Fingerprint

namespace SourceFacts.Run

/-!
# Reports on files

What a run tells about a file: what its analysis came to, and where its enrichment
came from.
-/

open Analysis Hash Json

/-! ## Enrichments -/

/-- What became of the enrichment of a file. -/
inductive Enrichment where
  /-- It was stored by an earlier run. -/
  | cached (payload : Json)
  | fresh (payload : Json)
  | failed (message : String)
  /-- There is no model that could be enriched. -/
  | skipped
  /-- Enrichment is turned off. -/
  | disabled
deriving Repr, Inhabited

namespace Enrichment

/-- What the enrichment consists of, if there is one. -/
def payload? : Enrichment → Option Json
  | .cached payload | .fresh payload => some payload
  | _ => none

/-- Whether the enrichment was stored by an earlier run. -/
def isCached : Enrichment → Bool
  | .cached _ => true
  | _ => false

/-- Whether the enrichment was made in this run. -/
def isFresh : Enrichment → Bool
  | .fresh _ => true
  | _ => false

/-- The name of what became of an enrichment. -/
def state : Enrichment → String
  | .cached _ => "cached"
  | .fresh _ => "fresh"
  | .failed _ => "failed"
  | .skipped => "skipped"
  | .disabled => "disabled"

/-- What became of an enrichment as a record with the name of that. -/
def toJson (enrichment : Enrichment) : Json :=
  .object (("state", .string enrichment.state) ::
    match enrichment with
    | .cached payload | .fresh payload => [("payload", payload)]
    | .failed message => [("message", .string message)]
    | .skipped | .disabled => [])

/-- The payload in the fields of a record. -/
def payloadOf? (content : Json) : Option Json := do
  field? (fun json => some json.canonical) "payload" (← content.asRecord? ["payload"])

/-- What a record tells about an enrichment. -/
def ofJson? (json : Json) : Option Enrichment := do
  let (state, content) ← json.tagged? "state"
  match state with
  | "cached" => (payloadOf? content).map .cached
  | "fresh" => (payloadOf? content).map .fresh
  | "failed" => (field? asString? "message" (← content.asRecord? ["message"])).map .failed
  | "skipped" => (content.asRecord? []).map fun _ => .skipped
  | "disabled" => (content.asRecord? []).map fun _ => .disabled
  | _ => none

end Enrichment

/-! ## Reports -/

/-- What a run tells about a file. -/
structure Report where
  path : String
  outcome : Outcome
  key? : Option Fingerprint := none
  enrichment : Enrichment
deriving Repr

namespace Report

/-- The fields of a report. -/
def fieldNames : List String := ["path", "outcome", "cache_key", "enrichment"]

/-- The fields of a report with their values; there may be no key. -/
def toFields (report : Report) : List (String × Json) :=
  [("path", .string report.path), ("outcome", report.outcome.toJson)] ++
    present "cache_key" Fingerprint.toJson report.key? ++
    [("enrichment", report.enrichment.toJson)]

/-- A report as a record. -/
def toJson (report : Report) : Json := .object report.toFields

/-- The report that a record stands for. -/
def ofJson? (json : Json) : Option Report := do
  let fields ← json.asRecord? fieldNames
  return {
    path := ← field? asString? "path" fields
    outcome := ← field? Outcome.ofJson? "outcome" fields
    key? := ← optionalField? Fingerprint.ofJson? "cache_key" fields
    enrichment := ← field? Enrichment.ofJson? "enrichment" fields }

end Report

end SourceFacts.Run
