import SourceFacts.Run.Failure

namespace SourceFacts.CommandLine

/-!
# Complaints

A failure is reported together with what caused it, the cause of that, and so on.
-/

/-- What is reported about a failure. -/
structure Complaint where
  text : String
  causes : List String := []
deriving Repr, DecidableEq, Inhabited

/-- A line break that is followed by a number of spaces. -/
def indentLines (width : Nat) (text : String) : String :=
  String.ofList (text.toList.flatMap fun c =>
    if c = '\n' then '\n' :: List.replicate width ' ' else [c])

/-- Causes in words; several are numbered. -/
def causeLines (causes : List String) : String :=
  match causes with
  | [cause] => "\n    " ++ indentLines 4 cause
  | causes =>
      Text.join "" (causes.zipIdx.map fun (cause, index) =>
        let number := toString index
        let gap := String.ofList (List.replicate (5 - number.length) ' ')
        "\n" ++ gap ++ number ++ ": " ++ indentLines 7 cause)

namespace Complaint

/-- A complaint in words. -/
def message (complaint : Complaint) : String :=
  "Error: " ++ complaint.text ++
    (if complaint.causes.isEmpty then "" else "\n\nCaused by:" ++ causeLines complaint.causes) ++
    "\n"

/-- The complaint whose texts are those of a list. -/
def ofTexts : List String → Complaint
  | [] => { text := "" }
  | text :: causes => { text, causes }

/-- A complaint about what was done when a failure with some texts happened. -/
def during (action : String) (texts : List String) : Complaint := { text := action, causes := texts }

end Complaint

/-! ## Chains of causes -/

/-- A failed analysis with its causes. -/
def analysisTexts (failure : Analysis.Failure) : List String :=
  failure.message ::
    match failure with
    | .fileAccess error => [error.message]
    | _ => []

/-- A failure of the cache with its causes. -/
def cacheTexts (failure : Cache.Failure) : List String :=
  failure.message ::
    match failure with
    | .io _ | .beforeEpoch => [failure.cause]
    | .metricsTaken => []

/-- Settings that cannot be loaded, with the causes. -/
def configTexts (failure : Config.Failure) : List String :=
  failure.message ::
    match failure with
    | .io error => [error.message]
    | .notText => [Config.notText]
    | _ => []

/-- A report that cannot be delivered, with the causes. -/
def deliveryTexts (failure : Run.DeliveryFailure) : List String :=
  failure.message ::
    match failure with
    | .io error => [error.message]
    | _ => []

/-- A run that ended early, with the causes. -/
def runTexts (failure : Run.Failure) : List String :=
  failure.message ::
    match failure with
    | .analysis failure => analysisTexts failure
    | .cache failure => cacheTexts failure
    | .config failure => configTexts failure
    | .report error => [Run.reportMessage error, error.message]
    | .delivery failure => deliveryTexts failure

end SourceFacts.CommandLine
