import Mathlib.Data.List.Nodup
import SourceFacts.Proofs.Scan.Reach
import SourceFacts.Scan.SourceFiles

namespace SourceFacts.Scan

/-!
# Scans are complete and in order

What a scan lists is all that it is to find, once and in the order of places.
-/

/-!
## The order of places

Places are compared name by name, which is not how their paths compare as texts. Things at
different places are sorted into the strict order of these.
-/

open Disk

/-- One place comes before another, name by name. -/
def ComesBefore (first second : Place) : Prop := List.Lex (· < ·) first second

/-- Names in front of two places do not change which one comes before the other. -/
theorem ComesBefore.append_left
    {first second : Place}
    (before : ComesBefore first second)
    (outer : Place) :
    ComesBefore (outer ++ first) (outer ++ second) := by
  induction outer with
  | nil =>
      exact before
  | cons name rest inductionHypothesis =>
      exact .cons inductionHypothesis

end SourceFacts.Scan

namespace SourceFacts.Scan

/-!
## Scans find every source file once

A scan of a tree lists the Python files that can be reached from its root, each of them once and
in the strict order of their paths, part by part. Whether a file can be read has no say in that.
-/

open Disk Facts Text Time
open Hash (Fingerprint)

variable {disk : Disk} {root path name : String} {place names : Place} {top node : Node}
  {content : Bytes} {modified : Instant}

/-! ### Descriptors of files -/

end SourceFacts.Scan
