import SourceFacts.Failures.Record
import SourceFacts.Number.Double

namespace SourceFacts.Failures

/-!
# Statistics of a run
-/

open Json Number

/-- How many files a run had, and what became of them. -/
structure Statistics where
  total : Nat := 0
  successful : Nat := 0
  failed : Nat := 0
  /-- The part of the files that succeeded. -/
  successRate : Double := .zero false
  /-- How many failures there were in each category that has any, in order. -/
  byCategory : List (Category × Nat) := []
  elapsedMilliseconds : Nat := 0
deriving Repr, DecidableEq, Inhabited

namespace Statistics

/-- How many records there are in each category that has any. -/
def tally (records : List Record) : List (Category × Nat) :=
  (Category.all.map fun category =>
    (category, records.countP (·.category = category))).filter (·.2 ≠ 0)

/-- One number as a part of another, zero if that is zero. -/
def rate (part whole : Nat) : Double :=
  (do (← Double.ofNat? part).div? (← Double.ofNat? whole) : Option Double).getD (.zero false)

/-- The statistics of a run with a declared number of files, which may turn out
to be too small. -/
def compute (declared successful : Nat) (records : List Record) (elapsed : Nat) : Statistics :=
  let total := max declared (successful + records.length)
  { total, successful
    failed := records.length
    successRate := rate successful total
    byCategory := tally records
    elapsedMilliseconds := elapsed }

/-- How many failures there were in a category. -/
def count (statistics : Statistics) (category : Category) : Nat :=
  ((statistics.byCategory.find? (·.1 = category)).map (·.2)).getD 0

/-- The rate of success in percent, with one digit after the point. -/
def percentText (rate : Double) : String :=
  ((do rate.mul? (← Double.ofNat? 100) : Option Double).getD (.zero false)).toFixed 1

/-- The statistics in words. -/
def toText (statistics : Statistics) : String :=
  let failures :=
    if statistics.byCategory.isEmpty then ""
    else
      "\nFailures by category:\n" ++
        Text.join "" (statistics.byCategory.map fun (category, count) =>
          "  " ++ category.name ++ ": " ++ toString count ++ " file(s)\n")
  "Analysis summary:\n" ++
    "  Total files:  " ++ toString statistics.total ++ "\n" ++
    "  Successful:   " ++ toString statistics.successful ++ "\n" ++
    "  Failed:       " ++ toString statistics.failed ++ "\n" ++
    "  Success rate: " ++ percentText statistics.successRate ++ "%\n" ++
    "  Elapsed:      " ++ toString statistics.elapsedMilliseconds ++ " ms\n" ++ failures

/-! ## Statistics as JSON -/

/-- The fields of statistics. -/
def fieldNames : List String :=
  ["total_files", "successful", "failed", "success_rate", "errors_by_category", "elapsed_ms"]

/-- The fields of statistics with their values. -/
def toFields (statistics : Statistics) : List (String × Json) := [
  ("total_files", .natural statistics.total),
  ("successful", .natural statistics.successful),
  ("failed", .natural statistics.failed),
  ("success_rate", .double statistics.successRate),
  ("errors_by_category",
    .object (statistics.byCategory.map fun (category, count) => (category.name, .natural count))),
  ("elapsed_ms", .natural statistics.elapsedMilliseconds)]

/-- Statistics as a record. -/
def toJson (statistics : Statistics) : Json := .object statistics.toFields

/-- A number of things. -/
def asCount? (json : Json) : Option Nat := json.asNatBelow? UInt64.size

/-- Puts the count of a category in its place, in place of one that is there. -/
def insertCount (counts : List (Category × Nat)) (category : Category) (count : Nat) :
    List (Category × Nat) :=
  Category.all.filterMap fun candidate =>
    if candidate = category then some (candidate, count)
    else (counts.find? (·.1 = candidate))

/-- The counts of categories that the fields of an object stand for. -/
def countsOfFields? : List (String × Json) → Option (List (Category × Nat))
  | fields => fields.foldlM (fun counts (name, value) => do
      return insertCount counts (← Category.ofName? name) (← asCount? value)) []

/-- The statistics that a record stands for. -/
def ofJson? (json : Json) : Option Statistics := do
  let fields ← json.asRecord? fieldNames
  return {
    total := ← field? asCount? "total_files" fields
    successful := ← field? asCount? "successful" fields
    failed := ← field? asCount? "failed" fields
    successRate := ← field? asDouble? "success_rate" fields
    byCategory := ← countsOfFields? (← field? asFields? "errors_by_category" fields)
    elapsedMilliseconds := ← field? asCount? "elapsed_ms" fields }

end Statistics

end SourceFacts.Failures
