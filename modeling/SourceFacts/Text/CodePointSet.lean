namespace SourceFacts.Text

/-!
# Sets of code points

A set of code points is kept as the increasing list of its boundaries: the
first element of a run, the first element after it, the first element of the
next run, and so on. A code point belongs to the set exactly when an odd number
of boundaries lie at or below it.
-/

/-- A set of code points, given by the increasing boundaries of its runs. -/
structure CodePointSet where
  bounds : Array Nat
deriving Repr, DecidableEq

namespace CodePointSet

/--
Number of boundaries at or below `point`, searched between the positions `low`
and `high` of the boundary list.
-/
def rankBetween
    (set : CodePointSet)
    (point low high : Nat) :
    Nat :=
  if h : low < high then
    let middle := (low + high) / 2
    if set.bounds.getD middle 0 ≤ point then
      set.rankBetween point (middle + 1) high
    else
      set.rankBetween point low middle
  else
    low
termination_by high - low

/-- Whether `point` belongs to the set. -/
def contains (set : CodePointSet) (point : Nat) : Bool :=
  set.rankBetween point 0 set.bounds.size % 2 == 1

/-- Whether the code point of `c` belongs to the set. -/
def containsChar (set : CodePointSet) (c : Char) : Bool :=
  set.contains c.toNat

end CodePointSet

end SourceFacts.Text
