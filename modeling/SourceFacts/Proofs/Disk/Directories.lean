import SourceFacts.Proofs.Disk.Following

namespace SourceFacts.Disk

/-!
# Paths into directories

What is in a directory is reached by its name, and what is beside it by a path that leads up
again.
-/

open Text Time

/-!
## Files of a directory

What the operations on files do with the path of something in a directory, in
terms of what the tree holds there.
-/

/-! ### Paths that are followed -/

/-- A path that the system follows at all. -/
structure IsFollowed (path : String) : Prop where
  noNul : path.toList.contains '\x00' = false
  nonempty : path ≠ ""
  short : path.utf8ByteSize ≤ maxPathLength
  relative : Path.isAbsolute path = false

variable {disk : Disk} {path name : String} {place : Place}

/-- Where a path leads that is followed. -/
theorem destination_of_isFollowed
    (followed : IsFollowed path)
    (followsLast : Bool) :
    disk.destination followsLast path = disk.follow followsLast maxLinks [] (steps path) := by
  rw [destination, followed.noNul, if_neg Bool.false_ne_true, if_neg followed.nonempty,
    if_neg (Nat.not_lt.mpr followed.short), followed.relative, if_neg Bool.false_ne_true]

/-- A path that leads somewhere is followed. -/
theorem isFollowed_of_destination
    {followsLast : Bool}
    {destination : Destination}
    (leads : disk.destination followsLast path = .ok destination) :
    IsFollowed path := by
  rw [Disk.destination] at leads
  split at leads
  · simp at leads
  · rename_i noNul
    split at leads
    · simp at leads
    · rename_i nonempty
      split at leads
      · simp at leads
      · rename_i short
        split at leads
        · simp at leads
        · rename_i relative
          rw [Bool.not_eq_true] at noNul relative
          exact ⟨noNul, nonempty, Nat.not_lt.mp short, relative⟩

/-- A path that leads to something is followed. -/
theorem isFollowed_of_find
    {followsLast : Bool}
    {node : Node}
    (found : disk.find followsLast path = .ok (place, node)) :
    IsFollowed path := by
  rw [find] at found
  split at found
  · simp at found
  · rename_i reached
    exact isFollowed_of_destination reached
  · simp at found

/-- A path of something in a directory is followed if it is not too long. -/
theorem IsFollowed.child
    (followed : IsFollowed path)
    (isName : IsName name)
    (fits : (Path.child path name).utf8ByteSize ≤ maxPathLength) :
    IsFollowed (Path.child path name) where
  noNul := by
    have pathNul := followed.noNul
    rw [← Bool.not_eq_true, List.contains_iff_mem] at pathNul ⊢
    rw [Path.toList_child followed.nonempty isName]
    simp only [List.mem_append, not_or]
    refine ⟨⟨pathNul, ?_⟩, isName.noNul⟩
    split <;> simp
  nonempty := Path.child_ne_empty followed.nonempty isName
  short := fits
  relative := by
    rw [Path.isAbsolute_child followed.nonempty isName, followed.relative]

/-- A path that leads to something leads there by its steps. -/
theorem follow_of_find
    {followsLast : Bool}
    {node : Node}
    (found : disk.find followsLast path = .ok (place, node)) :
    disk.follow followsLast maxLinks [] (steps path) = .ok (.found place node) := by
  rw [← destination_of_isFollowed (isFollowed_of_find found)]
  rw [find] at found
  split at found
  · simp at found
  · rename_i reached
    rw [reached]
    simpa using found
  · simp at found

/-- A path that is followed to something leads to it. -/
theorem find_of_follow
    {followsLast : Bool}
    {node : Node}
    (followed : IsFollowed path)
    (reached : disk.follow followsLast maxLinks [] (steps path) = .ok (.found place node)) :
    disk.find followsLast path = .ok (place, node) := by
  rw [find, destination_of_isFollowed followed, reached]

/-- A name is a path that is followed. -/
theorem IsName.isFollowed (isName : IsName name) : IsFollowed name :=
  ⟨by simpa using isName.noNul, isName.nonempty, Nat.le_trans isName.short (by decide),
    Path.isAbsolute_eq_false_of_noSlash isName.noSlash⟩

/-- A directory at the top of a tree is found by its name. -/
theorem find_top
    (isName : IsName name)
    (isDirectory : disk.node? [name] = some .directory) :
    disk.find true name = .ok ([name], .directory) := by
  refine find_of_follow isName.isFollowed ?_
  rw [Path.steps_of_isName isName,
    follow_directory isName.notHere isName.notAbove isName.short isDirectory, follow]
  rfl

/-- A file at the top of a tree is found by its name. -/
theorem find_top_file
    {content : Text.Bytes}
    {modified : Time.Instant}
    (isName : IsName name)
    (isFile : disk.node? [name] = some (.file content modified)) :
    disk.find true name = .ok ([name], .file content modified) := by
  refine find_of_follow isName.isFollowed ?_
  rw [Path.steps_of_isName isName]
  exact follow_file isName isFile

/-! ### Directories that are reached -/

/-- A path leads to a directory without passing through anything below it. -/
def Reaches (disk : Disk) (path : String) (place : Place) : Prop :=
  (disk.prune place).find true path = .ok (place, .directory)

/-- A path leads to an empty directory without passing through anything below it. -/
theorem reaches_of_below_eq_nil
    (found : disk.find true path = .ok (place, .directory))
    (empty : disk.below place = []) :
    disk.Reaches path place := by
  have unchanged : disk.prune place = disk := by
    apply eq_of_entries_eq
    have nothing : (disk.sub place).entries = [] := empty
    rw [entries_sub, List.filterMap_eq_nil_iff] at nothing
    rw [prune, List.filter_eq_self]
    intro entry member
    simpa using nothing entry member
  rw [Reaches, unchanged]
  exact found

namespace Reaches

/-- A path leads to the same directory after changes below it. -/
theorem of_prune_eq
    {other : Disk}
    (reaches : disk.Reaches path place)
    (same : other.prune place = disk.prune place) :
    other.Reaches path place := by
  rw [Reaches, same]
  exact reaches

/-- A path that leads to a directory is followed. -/
theorem isFollowed
    (reaches : disk.Reaches path place) :
    IsFollowed path :=
  isFollowed_of_find reaches

/-- A path leads to the directory in the whole tree too. -/
theorem find_eq
    (reaches : disk.Reaches path place) :
    disk.find true path = .ok (place, .directory) :=
  find_of_follow reaches.isFollowed (follow_append_of_prune (follow_of_find reaches)).1

/-- The path of something in the directory is followed from the directory. -/
theorem exists_follow_append
    (reaches : disk.Reaches path place) :
    ∃ remaining, ∀ followsLast rest, rest ≠ [] →
      disk.follow followsLast maxLinks [] (Path.names path ++ rest) =
        disk.follow followsLast remaining place rest := by
  have followed := follow_of_find reaches
  rw [steps] at followed
  by_cases ends : Path.endsWithSlash path = true
  · rw [if_pos ends] at followed
    exact (follow_append_of_prune (follow_of_append_here followed)).2
  · rw [if_neg ends, List.append_nil] at followed
    exact (follow_append_of_prune followed).2

/-- Where the path of something in the directory leads. -/
theorem exists_destination_child
    (reaches : disk.Reaches path place)
    (isName : IsName name)
    (fits : (Path.child path name).utf8ByteSize ≤ maxPathLength) :
    ∃ remaining, ∀ followsLast,
      disk.destination followsLast (Path.child path name) =
        disk.follow followsLast remaining place [name] := by
  obtain ⟨remaining, continues⟩ := reaches.exists_follow_append
  refine ⟨remaining, ?_⟩
  intro followsLast
  rw [destination_of_isFollowed (reaches.isFollowed.child isName fits),
    Path.steps_child reaches.isFollowed.nonempty isName]
  exact continues followsLast [name] (by simp)

/-- The path of something that is not in the directory leads to its place. -/
theorem destination_vacant
    (reaches : disk.Reaches path place)
    (isName : IsName name)
    (fits : (Path.child path name).utf8ByteSize ≤ maxPathLength)
    (isVacant : disk.node? (place ++ [name]) = none)
    (followsLast : Bool) :
    disk.destination followsLast (Path.child path name) = .ok (.vacant (place ++ [name])) := by
  obtain ⟨remaining, leads⟩ := reaches.exists_destination_child isName fits
  rw [leads, follow_vacant isName isVacant]

/-- The path of a file in the directory leads to the file. -/
theorem destination_file
    {content : Bytes}
    {modified : Instant}
    (reaches : disk.Reaches path place)
    (isName : IsName name)
    (fits : (Path.child path name).utf8ByteSize ≤ maxPathLength)
    (isFile : disk.node? (place ++ [name]) = some (.file content modified))
    (followsLast : Bool) :
    disk.destination followsLast (Path.child path name) =
      .ok (.found (place ++ [name]) (.file content modified)) := by
  obtain ⟨remaining, leads⟩ := reaches.exists_destination_child isName fits
  rw [leads, follow_file isName isFile]

/-- The path of a directory in the directory leads to that directory. -/
theorem destination_directory
    (reaches : disk.Reaches path place)
    (isName : IsName name)
    (fits : (Path.child path name).utf8ByteSize ≤ maxPathLength)
    (isDirectory : disk.node? (place ++ [name]) = some .directory)
    (followsLast : Bool) :
    disk.destination followsLast (Path.child path name) =
      .ok (.found (place ++ [name]) .directory) := by
  obtain ⟨remaining, leads⟩ := reaches.exists_destination_child isName fits
  rw [leads, follow_directory isName.notHere isName.notAbove isName.short isDirectory, follow]

/-- The path of something in a directory that is not there leads nowhere. -/
theorem destination_missing
    {outer : String}
    (reaches : disk.Reaches path place)
    (isOuter : IsName outer)
    (isName : IsName name)
    (fits : (Path.child (Path.child path outer) name).utf8ByteSize ≤ maxPathLength)
    (isVacant : disk.node? (place ++ [outer]) = none)
    (followsLast : Bool) :
    disk.destination followsLast (Path.child (Path.child path outer) name) =
      .error .noSuchFile := by
  have isPath := reaches.isFollowed.nonempty
  have isParent := Path.child_ne_empty isPath isOuter
  have outerFits : (Path.child path outer).utf8ByteSize ≤ maxPathLength := by
    rw [Path.utf8ByteSize_child isParent isName] at fits
    omega
  have followed := (reaches.isFollowed.child isOuter outerFits).child isName fits
  obtain ⟨remaining, continues⟩ := reaches.exists_follow_append
  rw [destination_of_isFollowed followed, Path.steps_child isParent isName,
    Path.names_child isPath isOuter, List.append_assoc, continues _ _ (by simp)]
  exact follow_missing isOuter isVacant (by simp)

/-- The path of a directory in the directory leads to that directory, whatever is
below it. -/
theorem child
    (reaches : disk.Reaches path place)
    (isName : IsName name)
    (fits : (Path.child path name).utf8ByteSize ≤ maxPathLength)
    (isDirectory : disk.node? (place ++ [name]) = some .directory) :
    disk.Reaches (Path.child path name) (place ++ [name]) := by
  have prunedReaches : (disk.prune (place ++ [name])).Reaches path place :=
    reaches.of_prune_eq (prune_prune_append disk place [name])
  have notBelowItself : relative? (place ++ [name]) (place ++ [name]) = none := by
    simp [relative?]
  have stillDirectory :
      (disk.prune (place ++ [name])).node? (place ++ [name]) = some .directory := by
    rw [node?_prune_of_not_below disk notBelowItself, isDirectory]
  rw [Reaches, find, prunedReaches.destination_directory isName fits stillDirectory]

end Reaches

/-!
## Paths that lead up again

A path may lead into a directory and up again to a file that lies beside the directory. It
leads to the file only as long as the directory is there.
-/

/-! ### Names -/

/-- A slash separates the names before it from those after it. -/
theorem Path.names_append_slash (path rest : String) :
    Path.names (path ++ "/" ++ rest) = Path.names path ++ Path.names rest := by
  have slash : "/".toList = ['/'] := rfl
  rw [names, names, names, String.toList_append, String.toList_append, slash, List.append_assoc,
    List.singleton_append, segments_append_slash, List.filter_append, List.map_append]

theorem Path.isAbsolute_append
    {path : String}
    (nonempty : path ≠ "")
    (rest : String) :
    Path.isAbsolute (path ++ rest) = Path.isAbsolute path := by
  have slash : "/".toList = ['/'] := rfl
  rw [isAbsolute, isAbsolute, beginsWith, beginsWith, slash, String.toList_append]
  cases shape : path.toList with
  | nil =>
      exact absurd (String.toList_eq_nil_iff.mp shape) nonempty
  | cons first more =>
      simp [List.isPrefixOf]

/-- The path that leads from a directory two directories up, and to something there. -/
def detour (path name : String) : String := Path.child (path ++ "/" ++ "../..") name

section Detours

variable {outer : String}

theorem detour_base_ne_empty (path : String) : path ++ "/" ++ "../.." ≠ "" := by
  intro isEmpty
  have chars := congrArg String.toList isEmpty
  simp at chars

theorem steps_detour
    (isName : IsName name) :
    steps (detour path name) = Path.names path ++ ["..", "..", name] := by
  have up : Path.names "../.." = ["..", ".."] := by decide
  rw [detour, Path.steps_child (detour_base_ne_empty path) isName, Path.names_append_slash, up,
    List.append_assoc]
  rfl

/-- A detour from a path that is followed is followed. -/
theorem IsFollowed.detour
    (followed : IsFollowed path)
    (isName : IsName name)
    (fits : (detour path name).utf8ByteSize ≤ maxPathLength) :
    IsFollowed (detour path name) := by
  refine IsFollowed.child ⟨?_, detour_base_ne_empty path, ?_, ?_⟩ isName fits
  · have pathNul := followed.noNul
    rw [← Bool.not_eq_true, List.contains_iff_mem] at pathNul ⊢
    simp [String.toList_append, pathNul]
  · rw [Disk.detour, Path.utf8ByteSize_child (detour_base_ne_empty path) isName] at fits
    omega
  · rw [String.append_assoc, Path.isAbsolute_append followed.nonempty]
    exact followed.relative

/-- A detour leads to a file if the directory is there. -/
theorem Reaches.find_detour
    {content : Bytes}
    {modified : Instant}
    (reaches : disk.Reaches path place)
    (isName : IsName name)
    (fits : (detour path name).utf8ByteSize ≤ maxPathLength)
    (isFile : disk.node? (place.dropLast.dropLast ++ [name]) = some (.file content modified)) :
    disk.find true (detour path name) =
      .ok (place.dropLast.dropLast ++ [name], .file content modified) := by
  obtain ⟨remaining, continues⟩ := reaches.exists_follow_append
  rw [find, destination_of_isFollowed (reaches.isFollowed.detour isName fits),
    steps_detour isName, continues _ _ (by simp), follow_above, follow_above,
    follow_file isName isFile]

theorem Reaches.find_detour_missing
    (reaches : disk.Reaches path place)
    (isOuter : IsName outer)
    (isName : IsName name)
    (fits : (detour (Path.child path outer) name).utf8ByteSize ≤ maxPathLength)
    (outerFits : (Path.child path outer).utf8ByteSize ≤ maxPathLength)
    (isVacant : disk.node? (place ++ [outer]) = none) :
    disk.find true (detour (Path.child path outer) name) = .error .noSuchFile := by
  have followed := (reaches.isFollowed.child isOuter outerFits).detour isName fits
  obtain ⟨remaining, continues⟩ := reaches.exists_follow_append
  rw [find, destination_of_isFollowed followed, steps_detour isName,
    Path.names_child reaches.isFollowed.nonempty isOuter, List.append_assoc,
    continues _ _ (by simp), List.singleton_append, follow_missing isOuter isVacant (by simp)]

end Detours

end SourceFacts.Disk
