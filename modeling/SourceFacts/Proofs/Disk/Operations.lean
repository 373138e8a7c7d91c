import SourceFacts.Disk.Replace
import SourceFacts.Proofs.Disk.Directories

namespace SourceFacts.Disk

/-!
# Operations on files of a directory

Each operation on the path of something in a directory, for every case of what the
tree holds there.
-/

open Text Time

variable {disk : Disk} {path name outer : String} {place : Place} {content : Bytes}
  {modified : Instant}

/-- There is a file or nothing. -/
def IsFree (disk : Disk) (place : Place) : Prop :=
  disk.node? place = none ∨ ∃ content modified, disk.node? place = some (.file content modified)

namespace Reaches

/-! ## Reading -/

/-- A file is read. -/
theorem read_file
    (reaches : disk.Reaches path place)
    (isName : IsName name)
    (fits : (Path.child path name).utf8ByteSize ≤ maxPathLength)
    (isFile : disk.node? (place ++ [name]) = some (.file content modified)) :
    disk.read (Path.child path name) = .ok content := by
  rw [read, find, reaches.destination_file isName fits isFile]

/-- What is not there cannot be read. -/
theorem read_vacant
    (reaches : disk.Reaches path place)
    (isName : IsName name)
    (fits : (Path.child path name).utf8ByteSize ≤ maxPathLength)
    (isVacant : disk.node? (place ++ [name]) = none) :
    disk.read (Path.child path name) = .error .noSuchFile := by
  rw [read, find, reaches.destination_vacant isName fits isVacant]

/-- Nothing can be read from a directory that is not there. -/
theorem read_missing
    (reaches : disk.Reaches path place)
    (isOuter : IsName outer)
    (isName : IsName name)
    (fits : (Path.child (Path.child path outer) name).utf8ByteSize ≤ maxPathLength)
    (isVacant : disk.node? (place ++ [outer]) = none) :
    disk.read (Path.child (Path.child path outer) name) = .error .noSuchFile := by
  rw [read, find, reaches.destination_missing isOuter isName fits isVacant]

/-- What is directly in the directory is listed. -/
theorem readDirectory_eq
    (reaches : disk.Reaches path place) :
    disk.readDirectory path = .ok (disk.children place) := by
  rw [readDirectory, reaches.find_eq]

/-! ## Removing -/

/-- A file is removed. -/
theorem removeFile_file
    (reaches : disk.Reaches path place)
    (isName : IsName name)
    (fits : (Path.child path name).utf8ByteSize ≤ maxPathLength)
    (isFile : disk.node? (place ++ [name]) = some (.file content modified)) :
    disk.removeFile (Path.child path name) = .ok (disk.erase (place ++ [name])) := by
  rw [removeFile, find, reaches.destination_file isName fits isFile]

/-- What is not there cannot be removed. -/
theorem removeFile_vacant
    (reaches : disk.Reaches path place)
    (isName : IsName name)
    (fits : (Path.child path name).utf8ByteSize ≤ maxPathLength)
    (isVacant : disk.node? (place ++ [name]) = none) :
    disk.removeFile (Path.child path name) = .error .noSuchFile := by
  rw [removeFile, find, reaches.destination_vacant isName fits isVacant]

/-- Nothing can be removed from a directory that is not there. -/
theorem removeFile_missing
    (reaches : disk.Reaches path place)
    (isOuter : IsName outer)
    (isName : IsName name)
    (fits : (Path.child (Path.child path outer) name).utf8ByteSize ≤ maxPathLength)
    (isVacant : disk.node? (place ++ [outer]) = none) :
    disk.removeFile (Path.child (Path.child path outer) name) = .error .noSuchFile := by
  rw [removeFile, find, reaches.destination_missing isOuter isName fits isVacant]

/-- A directory that holds nothing is removed. -/
theorem removeDirectory_empty
    (reaches : disk.Reaches path place)
    (isName : IsName name)
    (fits : (Path.child path name).utf8ByteSize ≤ maxPathLength)
    (isDirectory : disk.node? (place ++ [name]) = some .directory)
    (empty : disk.children (place ++ [name]) = []) :
    disk.removeDirectory (Path.child path name) = .ok (disk.erase (place ++ [name])) := by
  rw [removeDirectory, Path.withoutSlashes_child reaches.isFollowed.nonempty isName, find,
    reaches.destination_directory isName fits isDirectory]
  dsimp only
  rw [empty]
  rfl

/-! ## Making -/

/-- A directory that can be made by itself is made so. -/
theorem createDirectories_of_ensureDirectory
    {other : Disk}
    (isPath : path ≠ "")
    (ensured : disk.ensureDirectory path = (.ok (), other)) :
    disk.createDirectories path = (.ok (), other) := by
  rw [createDirectories, if_neg isPath]
  cases path.length with
  | zero =>
      exact ensured
  | succ depth =>
      rw [ensureWithin, ensured]

/-- A directory that is there need not be made. -/
theorem createDirectories_directory
    (reaches : disk.Reaches path place)
    (isName : IsName name)
    (fits : (Path.child path name).utf8ByteSize ≤ maxPathLength)
    (isDirectory : disk.node? (place ++ [name]) = some .directory) :
    disk.createDirectories (Path.child path name) = (.ok (), disk) := by
  have isPath := reaches.isFollowed.nonempty
  have leads := reaches.destination_directory isName fits isDirectory
  have isThere : disk.isDirectory (Path.child path name) = true := by
    rw [Disk.isDirectory, find, leads]
  refine createDirectories_of_ensureDirectory (Path.child_ne_empty isPath isName) ?_
  rw [ensureDirectory, createDirectory, Path.withoutSlashes_child isPath isName, leads]
  dsimp only
  rw [if_pos isThere]

/-- A directory that is not there is made. -/
theorem createDirectories_vacant
    (reaches : disk.Reaches path place)
    (isName : IsName name)
    (fits : (Path.child path name).utf8ByteSize ≤ maxPathLength)
    (isVacant : disk.node? (place ++ [name]) = none) :
    disk.createDirectories (Path.child path name) =
      (.ok (), disk.set (place ++ [name]) .directory) := by
  have isPath := reaches.isFollowed.nonempty
  have leads := reaches.destination_vacant isName fits isVacant
  refine createDirectories_of_ensureDirectory (Path.child_ne_empty isPath isName) ?_
  rw [ensureDirectory, createDirectory, Path.withoutSlashes_child isPath isName, leads]

/-- A directory cannot be made where there is a file. -/
theorem createDirectories_file
    (reaches : disk.Reaches path place)
    (isName : IsName name)
    (fits : (Path.child path name).utf8ByteSize ≤ maxPathLength)
    (isFile : disk.node? (place ++ [name]) = some (.file content modified)) :
    disk.createDirectories (Path.child path name) = (.error .alreadyExists, disk) := by
  have isPath := reaches.isFollowed.nonempty
  have leads := reaches.destination_file isName fits isFile
  have notThere : disk.isDirectory (Path.child path name) = false := by
    rw [Disk.isDirectory, find, leads]
  have ensured : disk.ensureDirectory (Path.child path name) = (.error .alreadyExists, disk) := by
    rw [ensureDirectory, createDirectory, Path.withoutSlashes_child isPath isName, leads]
    dsimp only
    rw [notThere, if_neg Bool.false_ne_true]
  rw [createDirectories, if_neg (Path.child_ne_empty isPath isName)]
  cases (Path.child path name).length with
  | zero =>
      exact ensured
  | succ depth =>
      rw [ensureWithin, ensured]

/-! ## Writing -/

/-- A file is written over or made. -/
theorem write_eq
    (reaches : disk.Reaches path place)
    (isName : IsName name)
    (fits : (Path.child path name).utf8ByteSize ≤ maxPathLength)
    (free : IsFree disk (place ++ [name]))
    (now : Instant) :
    disk.write (Path.child path name) content now =
      .ok (disk.set (place ++ [name]) (.file content now)) := by
  rcases free with isVacant | ⟨old, modified, isFile⟩
  · rw [write, reaches.destination_vacant isName fits isVacant]
  · rw [write, reaches.destination_file isName fits isFile]

/-- A file is moved to another name in the directory. -/
theorem rename_eq
    {target : String}
    (reaches : disk.Reaches path place)
    (isName : IsName name)
    (isTarget : IsName target)
    (fits : (Path.child path name).utf8ByteSize ≤ maxPathLength)
    (targetFits : (Path.child path target).utf8ByteSize ≤ maxPathLength)
    (isFile : disk.node? (place ++ [name]) = some (.file content modified))
    (free : IsFree disk (place ++ [target])) :
    disk.rename (Path.child path name) (Path.child path target) =
      .ok ((disk.erase (place ++ [name])).set (place ++ [target]) (.file content modified)) := by
  have isPath := reaches.isFollowed.nonempty
  have source : disk.find false (Path.child path name) =
      .ok (place ++ [name], .file content modified) := by
    rw [find, reaches.destination_file isName fits isFile]
  have noDots := Path.endsInDots_child isPath isTarget
  have noSlash := Path.endsWithSlash_child isPath isTarget
  have noSlashes := Path.withoutSlashes_child isPath isTarget
  rcases free with isVacant | ⟨old, oldModified, isOld⟩
  · have leads := reaches.destination_vacant isTarget targetFits isVacant false
    simp [rename, source, noDots, noSlash, noSlashes, leads]
    rfl
  · have leads := reaches.destination_file isTarget targetFits isOld false
    simp [rename, source, noDots, noSlash, noSlashes, leads]
    rfl

end Reaches

/-! ## Replacing -/

/-- The name of the new file beside a file that is replaced. -/
def temporaryName (name tag : String) : String := "." ++ name ++ "." ++ tag ++ ".tmp"

/-- The tree after a file has been replaced. -/
def replaced (disk : Disk) (temporary place : Place) (content : Bytes) (now : Instant) : Disk :=
  (((disk.set temporary (.file [] now)).set temporary (.file content now)).erase temporary).set
    place (.file content now)

/-- A tree after a replacement holds the new content and else what it held before. -/
theorem mem_entries_replaced
    {temporary other : Place}
    {node : Node}
    {now : Instant} :
    (other, node) ∈ (disk.replaced temporary place content now).entries ↔
      (other = place ∧ node = .file content now) ∨
        (other ≠ place ∧ other ≠ temporary ∧ (other, node) ∈ disk.entries) := by
  rw [replaced, mem_entries_set, mem_entries_erase, mem_entries_set, mem_entries_set]
  constructor
  · rintro (new | ⟨notPlace, notTemporary, ⟨here, _⟩ | ⟨_, ⟨here, _⟩ | ⟨_, member⟩⟩⟩)
    · exact Or.inl new
    · exact absurd here notTemporary
    · exact absurd here notTemporary
    · exact Or.inr ⟨notPlace, notTemporary, member⟩
  · rintro (new | ⟨notPlace, notTemporary, member⟩)
    · exact Or.inl new
    · exact Or.inr ⟨notPlace, notTemporary,
        Or.inr ⟨notTemporary, Or.inr ⟨notTemporary, member⟩⟩⟩

/-- Other places keep what is there when a file is replaced. -/
theorem node?_replaced_of_ne
    {temporary other : Place}
    (notPlace : other ≠ place)
    (notTemporary : other ≠ temporary)
    (now : Instant) :
    (disk.replaced temporary place content now).node? other = disk.node? other := by
  rw [replaced, node?_set_of_ne _ notPlace, node?_erase_of_ne _ notTemporary,
    node?_set_of_ne _ notTemporary, node?_set_of_ne _ notTemporary]

/-- A replacement below a place is one in the tree below. -/
theorem sub_replaced
    {temporary inner : Place}
    (temporaryNonempty : temporary ≠ [])
    (nonempty : inner ≠ [])
    (now : Instant) :
    (disk.replaced (place ++ temporary) (place ++ inner) content now).sub place =
      (disk.sub place).replaced temporary inner content now := by
  rw [replaced, replaced, sub_set _ _ nonempty, sub_erase _ _ temporaryNonempty,
    sub_set _ _ temporaryNonempty, sub_set _ _ temporaryNonempty]

/-- A replacement below a place leaves the rest as it is. -/
theorem prune_replaced
    {temporary inner : Place}
    (temporaryNonempty : temporary ≠ [])
    (nonempty : inner ≠ [])
    (now : Instant) :
    (disk.replaced (place ++ temporary) (place ++ inner) content now).prune place =
      disk.prune place := by
  rw [replaced, prune_set _ _ nonempty, prune_erase _ _ temporaryNonempty,
    prune_set _ _ temporaryNonempty, prune_set _ _ temporaryNonempty]

/-- Every place is still there once after a replacement. -/
theorem Distinct.replaced
    (distinct : disk.Distinct)
    (temporary place : Place)
    (content : Bytes)
    (now : Instant) :
    (disk.replaced temporary place content now).Distinct :=
  (((distinct.set temporary _).set temporary _).erase temporary).set place _

/-- The name of the new file is another one. -/
theorem temporaryName_ne (name tag : String) : temporaryName name tag ≠ name := by
  intro same
  have lengths := congrArg (fun text => text.toList.length) same
  simp [temporaryName] at lengths
  omega

/-- The new file beside a file of a directory is in the directory. -/
theorem Replacement.temporary_child
    {replacement : Replacement}
    (isPath : path ≠ "")
    (isName : IsName name)
    (isParent : Path.parent? (Path.child path name) = some path)
    (isReplaced : replacement.path = Path.child path name) :
    replacement.temporary = Path.child path (temporaryName name replacement.tag) := by
  rw [Replacement.temporary, isReplaced, Path.sibling, Path.fileName?_child isPath isName,
    isParent]
  rfl

/-- A file gets a new content, or is made with it. -/
theorem Reaches.replace_eq
    {tag : String}
    (reaches : disk.Reaches path place)
    (isName : IsName name)
    (isTemporary : IsName (temporaryName name tag))
    (isParent : Path.parent? (Path.child path name) = some path)
    (fits : (Path.child path name).utf8ByteSize ≤ maxPathLength)
    (temporaryFits : (Path.child path (temporaryName name tag)).utf8ByteSize ≤ maxPathLength)
    (free : IsFree disk (place ++ [name]))
    (temporaryVacant : disk.node? (place ++ [temporaryName name tag]) = none)
    (now : Instant) :
    disk.replace (Path.child path name) content tag now =
      (.ok (),
        disk.replaced (place ++ [temporaryName name tag]) (place ++ [name]) content now) := by
  have isPath := reaches.isFollowed.nonempty
  have temporary :
      Replacement.temporary { path := Path.child path name, content, tag, now } =
        Path.child path (temporaryName name tag) :=
    Replacement.temporary_child isPath isName isParent rfl
  have elsewhere : place ++ [name] ≠ place ++ [temporaryName name tag] := by
    intro same
    exact temporaryName_ne name tag (List.singleton_inj.mp (List.append_cancel_left same)).symm
  obtain ⟨made, isMade⟩ :
      ∃ made, disk.set (place ++ [temporaryName name tag]) (.file [] now) = made := ⟨_, rfl⟩
  obtain ⟨filled, isFilled⟩ :
      ∃ filled, made.set (place ++ [temporaryName name tag]) (.file content now) = filled :=
    ⟨_, rfl⟩
  have madeReaches : made.Reaches path place :=
    reaches.of_prune_eq (isMade ▸ prune_set disk place (by simp) _)
  have filledReaches : filled.Reaches path place :=
    madeReaches.of_prune_eq (isFilled ▸ prune_set made place (by simp) _)
  have madeFile : made.node? (place ++ [temporaryName name tag]) = some (.file [] now) := by
    rw [← isMade, node?_set_self disk (by simp)]
  have filledFile :
      filled.node? (place ++ [temporaryName name tag]) = some (.file content now) := by
    rw [← isFilled, node?_set_self made (by simp)]
  have filledFree : IsFree filled (place ++ [name]) := by
    rw [IsFree, ← isFilled, node?_set_of_ne made elsewhere, ← isMade,
      node?_set_of_ne disk elsewhere]
    exact free
  have creates :
      disk.write (Path.child path (temporaryName name tag)) [] now = .ok made := by
    rw [reaches.write_eq isTemporary temporaryFits (Or.inl temporaryVacant) now, isMade]
  have fills :
      made.write (Path.child path (temporaryName name tag)) content now = .ok filled := by
    rw [madeReaches.write_eq isTemporary temporaryFits (Or.inr ⟨[], now, madeFile⟩) now,
      isFilled]
  have moves := filledReaches.rename_eq isTemporary isName temporaryFits fits filledFile filledFree
  rw [replace, Replacement.run, ReplaceStep.all]
  simp [Replacement.take, Replacement.perform, temporary, creates, fills, moves]
  rw [replaced, isMade, isFilled]

end SourceFacts.Disk
