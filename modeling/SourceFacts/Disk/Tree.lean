import SourceFacts.Text.Pieces
import SourceFacts.Text.Utf8
import SourceFacts.Time.Instant

namespace SourceFacts

/-!
# Directory trees

The working directory with everything below it, as a finite map from places to
what is there. The working directory itself is always there.
-/

open Text Time

namespace Disk

/-- Something in a directory. -/
inductive Node where
  | file (content : Bytes) (modified : Instant)
  | link (target : String)
  | directory
deriving Repr, DecidableEq, Inhabited

/-- The names on the way from the working directory to a place. -/
abbrev Place := List String

end Disk

open Disk

/-- What is below the working directory. -/
structure Disk where
  entries : List (Place × Node) := []
deriving Repr, DecidableEq, Inhabited

namespace Disk

/-- What is at a place. -/
def node? (disk : Disk) : Place → Option Node
  | [] => some .directory
  | place => (disk.entries.find? (·.1 = place)).map (·.2)

/-- The tree with something at a place, in place of what was there. -/
def set (disk : Disk) (place : Place) (node : Node) : Disk :=
  if disk.entries.any (·.1 = place) then
    { entries := disk.entries.map fun entry => if entry.1 = place then (place, node) else entry }
  else { entries := disk.entries ++ [(place, node)] }

/-- The tree without what is at a place. -/
def erase (disk : Disk) (place : Place) : Disk :=
  { entries := disk.entries.filter (·.1 ≠ place) }

/-- The tree without a place and everything below it. -/
def eraseBelow (disk : Disk) (place : Place) : Disk :=
  { entries := disk.entries.filter fun entry => !place.isPrefixOf entry.1 }

/-- What is below a place, with the names on the way. -/
def below (disk : Disk) (place : Place) : List (Place × Node) :=
  disk.entries.filterMap fun (other, node) =>
    if place.isPrefixOf other && place.length < other.length then
      some (other.drop place.length, node)
    else none

/-- What is directly in a place, by name. -/
def children (disk : Disk) (place : Place) : List (String × Node) :=
  disk.entries.filterMap fun (other, node) =>
    match other.getLast? with
    | some name => if other.dropLast = place then some (name, node) else none
    | none => none

/-- The names from a place to something below it; a directory ends in a slash. -/
def listingLine (place : Place) (node : Node) : String :=
  join "/" place ++ if node = .directory then "/" else ""

/-- The sorted paths of everything below the working directory. -/
def listing (disk : Disk) : List String :=
  (disk.entries.map fun (place, node) => listingLine place node).mergeSort (· ≤ ·)

end Disk

end SourceFacts
