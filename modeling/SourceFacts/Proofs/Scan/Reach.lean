import Mathlib.Data.List.Induction
import SourceFacts.Proofs.Disk.Children
import SourceFacts.Scan.SourceFiles

namespace SourceFacts.Scan

/-!
# What can be reached from a root

A directory that is left out hides everything that is below it, except that the root of a scan
may have any name. What can be reached in a tree is what the tree holds behind names that are not
left out, and it is found by its path.
-/

open Disk Facts Text Time

/-! ## Paths below a root -/

variable {disk : Disk} {root path name : String} {place names : Place} {top node : Node}

/-- The path of one more name. -/
theorem pathBelow_concat
    (root : String)
    (names : Place)
    (name : String) :
    pathBelow root (names ++ [name]) = Path.child (pathBelow root names) name :=
  List.foldl_append

/-- Names of directories that are left out: they begin with a dot or are among a few. -/
def IsLeftOut (name : String) : Prop := name.toList.head? = some '.' ∨ name ∈ skippedNames

/-- What can be reached from a place by some names. No directory that is left out is passed
through, except that the one at the place itself may have any name, and no link is followed. -/
inductive Reached (disk : Disk) (place : Place) (top : Node) : Place → Node → Prop where
  | top : Reached disk place top [] top
  | child
      {names : Place}
      {name : String}
      {node : Node}
      (outer : Reached disk place top names .directory)
      (isEntered : ∀ last, names.getLast? = some last → ¬ IsLeftOut last)
      (isThere : disk.node? (place ++ (names ++ [name])) = some node) :
      Reached disk place top (names ++ [name]) node

/-- A tree in which every place is there once, and everything has a name and is in a
directory. -/
structure IsTree (disk : Disk) : Prop where
  distinct : disk.Distinct
  hasNames : disk.HasNames
  isInside : ∀ place node, (place, node) ∈ disk.entries →
    place ≠ [] ∧ disk.node? place.dropLast = some .directory

/-- Names that lead to something are names of the system. -/
theorem Reached.areNames
    (tree : IsTree disk)
    (reached : Reached disk place top names node) :
    ∀ name ∈ names, IsName name := by
  cases reached with
  | top =>
      simp
  | child _ _ isThere =>
      intro name member
      exact tree.hasNames.of_node? isThere (List.mem_append_right place member)

/-- What is reached is found by its path, if no path on the way is too long. -/
theorem Reached.find_eq
    (tree : IsTree disk)
    (isRoot : disk.find false root = .ok (place, top))
    (areShort : ∀ names, Reached disk place top names .directory →
      (pathBelow root names).utf8ByteSize ≤ maxPathLength)
    (reached : Reached disk place top names node)
    (short : (pathBelow root names).utf8ByteSize ≤ maxPathLength) :
    disk.find false (pathBelow root names) = .ok (place ++ names, node) := by
  induction reached with
  | top =>
      rw [List.append_nil]
      exact isRoot
  | @child names name node outer isEntered isThere inductionHypothesis =>
      have isOuter := find_of_find_directory (inductionHypothesis (areShort names outer))
      have isName := (outer.child isEntered isThere).areNames tree name (by simp)
      rw [pathBelow_concat] at short ⊢
      rw [← List.append_assoc] at isThere ⊢
      exact find_child isOuter isName short isThere

end SourceFacts.Scan
