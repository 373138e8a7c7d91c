import SourceFacts.Facts.Encoding
import SourceFacts.Failures.Record

namespace SourceFacts.Analysis

/-!
# Outcomes

What the analysis of a file comes to: a model, a model with reservations, or
nothing.
-/

open Json Facts Failures

/-- What the analysis of a file comes to. -/
inductive Outcome where
  | success (model : Model)
  /-- There is a model, but the text has errors or was not analysed to the end. -/
  | incomplete (model : Model) (reasons : List String)
  | failed (category : Category) (reason : String)
deriving Repr, DecidableEq, Inhabited

namespace Outcome

/-- The model, if there is one. -/
def model? : Outcome → Option Model
  | .success model => some model
  | .incomplete model _ => some model
  | .failed .. => none

/-- Whether there is a model without reservations. -/
def isSuccess : Outcome → Bool
  | .success _ => true
  | _ => false

/-- Whether there is a model with reservations. -/
def isIncomplete : Outcome → Bool
  | .incomplete .. => true
  | _ => false

/-- Whether there is no model. -/
def isFailed : Outcome → Bool
  | .failed .. => true
  | _ => false

/-- The category of the failure. -/
def failureCategory? : Outcome → Option Category
  | .failed category _ => some category
  | _ => none

/-- The name of the kind of outcome. -/
def status : Outcome → String
  | .success _ => "success"
  | .incomplete .. => "partial"
  | .failed .. => "failed"

/-- An outcome as a record with its status. -/
def toJson (outcome : Outcome) : Json :=
  match outcome with
  | .success model => .object [("status", .string outcome.status), ("model", model.toJson)]
  | .incomplete model reasons =>
      .object [("status", .string outcome.status), ("model", model.toJson),
        ("reasons", .strings reasons)]
  | .failed category reason =>
      .object [("status", .string outcome.status), ("category", category.toJson),
        ("reason", .string reason)]

/-- The outcome that a record with a status stands for. -/
def ofJson? (json : Json) : Option Outcome := do
  let (status, content) ← json.tagged? "status"
  match status with
  | "success" =>
      let fields ← content.asRecord? ["model"]
      return .success (← field? Model.ofJson? "model" fields)
  | "partial" =>
      let fields ← content.asRecord? ["model", "reasons"]
      return .incomplete (← field? Model.ofJson? "model" fields)
        (← field? (asList? asString?) "reasons" fields)
  | "failed" =>
      let fields ← content.asRecord? ["category", "reason"]
      return .failed (← field? Category.ofJson? "category" fields)
        (← field? asString? "reason" fields)
  | _ => none

end Outcome

end SourceFacts.Analysis
