import SourceFacts.Proofs.Cache.Staleness

namespace SourceFacts.Cache

/-!
# Clearing shards

Shards are cleared one after the other. In its turn a shard loses what belongs to the store and
leads to a file, and it is removed itself if it is empty then. What its turn leaves in a shard, no
later turn removes, although another shard may be a link to it.
-/

open Disk Text Time

/-! ## Trees without some places -/

section Erased

variable {disk : Disk} {places : List Place} {place : Place} {node : Node} {path : String}
  {followsLast : Bool}

theorem eraseAll_append
    (disk : Disk)
    (places more : List Place) :
    eraseAll disk (places ++ more) = eraseAll (eraseAll disk places) more := by
  induction places generalizing disk with
  | nil =>
      rw [List.nil_append, eraseAll_nil]
  | cons place rest inductionHypothesis =>
      rw [List.cons_append, eraseAll_cons, eraseAll_cons, inductionHypothesis]

theorem mem_entries_eraseAll :
    (place, node) ∈ (eraseAll disk places).entries ↔
      (place, node) ∈ disk.entries ∧ place ∉ places := by
  simp [eraseAll]

theorem not_mem_of_node?_eraseAll
    (nonempty : place ≠ [])
    (isThere : (eraseAll disk places).node? place = some node) :
    place ∉ places := by
  intro erased
  have absent : (eraseAll disk places).node? place = none :=
    (node?_eq_none nonempty).mpr fun _ member => (mem_entries_eraseAll.mp member).2 erased
  rw [isThere] at absent
  simp at absent

theorem mem_children_eraseAll
    {name : String} :
    (name, node) ∈ (eraseAll disk places).children place ↔
      (name, node) ∈ disk.children place ∧ place ++ [name] ∉ places := by
  rw [mem_children, mem_children, mem_entries_eraseAll]

/-- An empty directory stays empty. -/
theorem children_eraseAll_eq_nil
    (empty : disk.children place = [])
    (places : List Place) :
    (eraseAll disk places).children place = [] := by
  rw [List.eq_nil_iff_forall_not_mem]
  rintro ⟨name, node⟩ isChild
  have wasChild := (mem_children_eraseAll.mp isChild).1
  simp [empty] at wasChild

theorem hasNames_eraseAll
    (hasNames : disk.HasNames)
    (places : List Place) :
    (eraseAll disk places).HasNames :=
  fun place node member => hasNames place node (mem_entries_eraseAll.mp member).1

/-- A path finds the same once some places are removed, or nothing. -/
theorem find_eraseAll
    (nonempty : [] ∉ places)
    (followsLast : Bool)
    (path : String) :
    (eraseAll disk places).find followsLast path = disk.find followsLast path ∨
      (eraseAll disk places).find followsLast path = .error .noSuchFile := by
  induction places generalizing disk with
  | nil =>
      exact .inl (by rw [eraseAll_nil])
  | cons place rest inductionHypothesis =>
      rw [List.mem_cons, not_or] at nonempty
      have step : (disk.erase place).find followsLast path = disk.find followsLast path ∨
          (disk.erase place).find followsLast path = .error .noSuchFile := by
        rcases isFollowed_or path with followed | ⟨error, lost⟩
        · rw [find, find, destination_of_isFollowed followed, destination_of_isFollowed followed]
          rcases (lacks_erase disk (Ne.symm nonempty.1)).follow_eq_or followsLast maxLinks []
            (steps path) with same | vacant | missing
          · exact .inl (by rw [same])
          · exact .inr (by rw [vacant])
          · exact .inr (by rw [missing])
        · exact .inl (by rw [find, find, lost, lost])
      have others : (eraseAll (disk.erase place) rest).find followsLast path =
            (disk.erase place).find followsLast path ∨
          (eraseAll (disk.erase place) rest).find followsLast path = .error .noSuchFile :=
        inductionHypothesis nonempty.2
      rw [eraseAll_cons]
      rcases others with same | missing
      · rw [same]
        exact step
      · exact .inr missing

theorem find_of_eraseAll
    {found : Place × Node}
    (nonempty : [] ∉ places)
    (isFound : (eraseAll disk places).find followsLast path = .ok found) :
    disk.find followsLast path = .ok found := by
  rcases find_eraseAll nonempty followsLast path with same | missing
  · rw [← same, isFound]
  · rw [isFound] at missing
    simp at missing

/-- A path reads the same once some places are removed, or nothing. -/
theorem read_eraseAll
    (nonempty : [] ∉ places)
    (path : String) :
    (eraseAll disk places).read path = disk.read path ∨
      (eraseAll disk places).read path = .error .noSuchFile := by
  rw [Disk.read, Disk.read]
  rcases find_eraseAll nonempty true path with same | missing
  · exact .inl (by rw [same])
  · exact .inr (by rw [missing])

theorem read_of_eraseAll
    {content : Bytes}
    (nonempty : [] ∉ places)
    (reads : (eraseAll disk places).read path = .ok content) :
    disk.read path = .ok content := by
  rcases read_eraseAll nonempty path with same | missing
  · rw [← same, reads]
  · rw [reads] at missing
    simp at missing

theorem isRemovable_of_eraseAll
    {content : Bytes}
    (nonempty : [] ∉ places)
    (removable : IsRemovable (eraseAll disk places) path place content) :
    IsRemovable disk path place content where
  named := by
    obtain ⟨node, named⟩ := removable.named
    exact ⟨node, find_of_eraseAll nonempty named⟩
  reads := read_of_eraseAll nonempty removable.reads

end Erased

/-! ## Removing files -/

section Removing

variable {disk after : Disk} {path directory name : String} {paths : List String} {place : Place}

/-- Removing the files of some paths removes what they name. -/
theorem Store.removeFiles_removes
    (succeeds : Store.removeFiles disk paths = (.ok (), after)) :
    ∃ removed, Removes (fun _ => true) disk paths removed after := by
  induction paths generalizing disk with
  | nil =>
      rw [Store.removeFiles] at succeeds
      obtain ⟨_, rfl⟩ := Prod.mk.inj succeeds
      exact ⟨[], .nil _ disk⟩
  | cons path rest inductionHypothesis =>
      rw [Store.removeFiles] at succeeds
      by_cases leads : Store.leadsToFile disk path = true
      · obtain ⟨content, reads⟩ := leadsToFile_iff.mp leads
        obtain ⟨place, removable⟩ := exists_isRemovable reads
        rw [if_pos leads, removable.removeFile_eq] at succeeds
        obtain ⟨removed, removes⟩ := inductionHypothesis succeeds
        exact ⟨place :: removed, .remove removable rfl removes⟩
      · rw [if_neg leads] at succeeds
        obtain ⟨removed, removes⟩ := inductionHypothesis succeeds
        refine ⟨removed, removes.skip fun content reads => ?_⟩
        exact absurd (leadsToFile_iff.mpr ⟨content, reads⟩) leads

theorem Removes.nonempty
    {isUnwanted : Bytes → Bool}
    {removed : List Place}
    (removes : Removes isUnwanted disk paths removed after) :
    [] ∉ removed := by
  intro member
  obtain ⟨_, _, _, removable, _⟩ := removes.unwanted [] member
  exact removable.nonempty rfl

/-- What leads to a file is no directory. -/
theorem ne_directory_of_isRemovable
    {content : Bytes}
    (removable : IsRemovable disk path place content) :
    disk.node? place ≠ some .directory := by
  intro isDirectory
  obtain ⟨node, isThere, named⟩ := removable.exists_node
  obtain rfl := Option.some.inj (isThere.symm.trans isDirectory)
  obtain ⟨_, _, isFile⟩ := removable.exists_find
  rw [find_of_find_directory named] at isFile
  simp at isFile

/-- What is removed from a directory when the files that belong to a store are removed from it. -/
structure Empties
    (disk : Disk)
    (directory : String)
    (removed : List Place)
    (after : Disk) : Prop where
  distinct : removed.Nodup
  rest : after = eraseAll disk removed
  nonempty : [] ∉ removed
  owned : ∀ place ∈ removed, ∃ name content, Store.isOwnName name = true ∧ IsName name ∧
    IsRemovable disk (Path.child directory name) place content
  nothing : ∀ name, Store.isOwnName name = true → IsName name →
    ∀ content, after.read (Path.child directory name) ≠ .ok content
  files : ∀ name, Store.isOwnName name = true → IsName name →
    ∀ place content modified,
      disk.find false (Path.child directory name) = .ok (place, .file content modified) →
        place ∈ removed
  isDirectory : ∃ inner, disk.find true directory = .ok (inner, .directory)
  directories : ∀ path outer, disk.find true path = .ok (outer, .directory) →
    after.find true path = .ok (outer, .directory)
  reaches : ∀ path outer, disk.Reaches path outer → after.Reaches path outer

theorem Store.removeFiles_empties
    (hasNames : disk.HasNames)
    (listed : Store.pathsNamed disk directory Store.isOwnName = .ok paths)
    (succeeds : Store.removeFiles disk paths = (.ok (), after)) :
    ∃ removed, Empties disk directory removed after := by
  obtain ⟨removed, removes⟩ := Store.removeFiles_removes succeeds
  obtain ⟨inner, isDirectory, isListed⟩ := exists_children_of_pathsNamed listed
  have listedOfRead : ∀ name, Store.isOwnName name = true → IsName name →
      ∀ content, disk.read (Path.child directory name) = .ok content →
        Path.child directory name ∈ paths := by
    intro name isOwn isName content reads
    obtain ⟨_, _, _, isFound⟩ := exists_read_iff.mp ⟨content, reads⟩
    obtain ⟨node, isChild⟩ := exists_mem_children isName isDirectory isFound
    exact (isListed _).mpr ⟨name, node, isChild, isOwn, rfl⟩
  refine ⟨removed, {
    distinct := removes.distinct
    rest := removes.rest
    nonempty := removes.nonempty
    owned := ?_
    nothing := ?_
    files := ?_
    isDirectory := ⟨inner, isDirectory⟩
    directories := removes.directories
    reaches := removes.reaches }⟩
  · intro place member
    obtain ⟨path, isPath, content, removable, _⟩ := removes.unwanted place member
    obtain ⟨name, node, isChild, isOwn, rfl⟩ := (isListed path).mp isPath
    exact ⟨name, content, isOwn, (hasNames.of_mem_children isChild).1, removable⟩
  · intro name isOwn isName content reads
    have readsBefore : disk.read (Path.child directory name) = .ok content :=
      read_of_eraseAll removes.nonempty (removes.rest ▸ reads)
    obtain ⟨place, removable⟩ := exists_isRemovable readsBefore
    obtain ⟨still, removableStill⟩ := exists_isRemovable reads
    rcases removes.links _ (listedOfRead name isOwn isName content readsBefore) place content
      removable rfl with member | missing
    · obtain ⟨node, namedStill⟩ := removableStill.named
      obtain ⟨_, named⟩ := removable.named
      have namedBefore := find_of_eraseAll removes.nonempty (removes.rest ▸ namedStill)
      obtain ⟨rfl, _⟩ := Prod.mk.inj (Except.ok.inj (namedBefore.symm.trans named))
      obtain ⟨_, isThere, _⟩ := removableStill.exists_node
      exact not_mem_of_node?_eraseAll removableStill.nonempty (removes.rest ▸ isThere) member
    · rw [reads] at missing
      simp at missing
  · intro name isOwn isName place content modified named
    have reads := read_of_find_file named
    exact removes.files _ (listedOfRead name isOwn isName content reads) place content modified
      named rfl

/-- A directory is removed if it is empty, and nothing happens otherwise. -/
theorem removeDirectory_cases
    (isPath : path ≠ "")
    (isName : IsName name)
    (isDirectory : disk.find true (Path.child path name) = .ok (place, .directory)) :
    ((disk.removeDirectory (Path.child path name)).toOption.getD disk = eraseAll disk [place] ∧
        disk.find false (Path.child path name) = .ok (place, .directory) ∧
        disk.children place = []) ∨
      ((disk.removeDirectory (Path.child path name)).toOption.getD disk = disk ∧
        ∀ other, disk.find false (Path.child path name) = .ok (other, .directory) →
          disk.children other ≠ []) := by
  rcases find_directory_cases isDirectory with named | ⟨other, target, isLink⟩
  · rw [removeDirectory_child isPath isName named]
    by_cases empty : disk.children place = []
    · refine .inl ⟨?_, named, empty⟩
      rw [if_pos (by simpa using empty), eraseAll_cons, eraseAll_nil]
      rfl
    · refine .inr ⟨by rw [if_neg (by simpa using empty)]; rfl, fun other namedToo => ?_⟩
      rw [named] at namedToo
      obtain ⟨rfl, _⟩ := Prod.mk.inj (Except.ok.inj namedToo)
      exact empty
  · refine .inr ⟨by rw [removeDirectory_link isPath isName isLink]; rfl, fun _ named => ?_⟩
    rw [isLink] at named
    simp at named

end Removing

/-! ## Clearing -/

/-- What is removed when some shards are cleared. -/
structure ClearsShards
    (store : Store)
    (disk : Disk)
    (shards : List String)
    (removed : List Place)
    (after : Disk) : Prop where
  named : ∀ shard ∈ shards, ∃ name, store.isShardName name = true ∧
    shard = Path.child store.root name
  distinct : removed.Nodup
  rest : after = eraseAll disk removed
  /-- What is removed belongs to the store and leads to a file, or is a shard. -/
  owned : ∀ place ∈ removed,
    (∃ shard ∈ shards, ∃ name content, Store.isOwnName name = true ∧ IsName name ∧
        IsRemovable disk (Path.child shard name) place content) ∨
      ∃ shard ∈ shards, disk.find false shard = .ok (place, .directory)
  directories : ∀ shard ∈ shards, ∃ place, disk.find true shard = .ok (place, .directory)
  /-- Nothing is read any more by a name that belongs to the store. -/
  nothing : ∀ shard ∈ shards, ∀ name, Store.isOwnName name = true → IsName name →
    ∀ content, after.read (Path.child shard name) ≠ .ok content
  /-- A file with a name that belongs to the store is removed. -/
  files : ∀ shard ∈ shards, ∀ name, Store.isOwnName name = true → IsName name →
    ∀ place content modified,
      disk.find false (Path.child shard name) = .ok (place, .file content modified) →
        place ∈ removed
  /-- A shard is removed if it is empty in the end. -/
  emptied : ∀ shard ∈ shards, ∀ place, disk.find false shard = .ok (place, .directory) →
    (place ∈ removed ↔ after.children place = [])
  reaches : ∀ outer, disk.Reaches store.root outer → after.Reaches store.root outer

namespace ClearsShards

variable {store : Store} {disk middle after : Disk} {shard name : String} {shards : List String}
  {first removed : List Place} {place : Place}

theorem nil (store : Store) (disk : Disk) : ClearsShards store disk [] [] disk where
  named := by simp
  distinct := List.nodup_nil
  rest := (eraseAll_nil disk).symm
  owned := by simp
  directories := by simp
  nothing := by simp
  files := by simp
  emptied := by simp
  reaches := fun _ reaches => reaches

/-- What is removed was there. -/
theorem isThere
    (clears : ClearsShards store disk shards removed after)
    (hasShards : store.HasShards)
    (isPath : store.root ≠ "")
    (member : place ∈ removed) :
    place ≠ [] ∧ ∃ node, disk.node? place = some node := by
  rcases clears.owned place member with
    ⟨_, _, _, _, _, _, removable⟩ | ⟨shard, isShard, isDirectory⟩
  · obtain ⟨node, isThere, _⟩ := removable.exists_node
    exact ⟨removable.nonempty, node, isThere⟩
  · obtain ⟨name, isShardName, rfl⟩ := clears.named shard isShard
    obtain ⟨outer, _, rfl, isThere⟩ :=
      exists_place_of_find_child isPath (hasShards.isName isShardName) isDirectory
    exact ⟨by simp, _, isThere⟩

theorem nonempty
    (clears : ClearsShards store disk shards removed after)
    (hasShards : store.HasShards)
    (isPath : store.root ≠ "") :
    [] ∉ removed :=
  fun member => (clears.isThere hasShards isPath member).1 rfl

/-! ### One turn -/

section Turn

variable {files : List Place} {emptied : Disk} {inner : Place}

/-- The shard itself is not among the files that are removed from it. -/
theorem not_mem_of_empties
    (empties : Empties disk shard files emptied)
    (isPath : store.root ≠ "")
    (isName : IsName name)
    (isShardPath : shard = Path.child store.root name)
    (named : emptied.find false shard = .ok (place, .directory)) :
    place ∉ files := by
  rw [isShardPath] at named
  obtain ⟨_, _, rfl, isThere⟩ := exists_place_of_find_child isPath isName named
  exact not_mem_of_node?_eraseAll (by simp) (empties.rest ▸ isThere)

/-- A shard that is not empty in the end is kept. -/
theorem of_kept
    (empties : Empties disk shard files emptied)
    (hasShards : store.HasShards)
    (isPath : store.root ≠ "")
    (isShard : store.isShardName name = true)
    (isShardPath : shard = Path.child store.root name)
    (full : ∀ other, emptied.find false shard = .ok (other, .directory) →
      emptied.children other ≠ []) :
    ClearsShards store disk [shard] files emptied where
  named := by simpa using ⟨name, isShard, isShardPath⟩
  distinct := empties.distinct
  rest := empties.rest
  owned := fun place member =>
    .inl ⟨shard, List.mem_singleton_self shard, empties.owned place member⟩
  directories := by simpa using empties.isDirectory
  nothing := by
    rintro _ isSame
    obtain rfl := List.mem_singleton.mp isSame
    exact empties.nothing
  files := by
    rintro _ isSame
    obtain rfl := List.mem_singleton.mp isSame
    exact empties.files
  emptied := by
    rintro _ isSame place namedBefore
    obtain rfl := List.mem_singleton.mp isSame
    rcases find_directory_cases (empties.directories _ _ (find_of_find_directory namedBefore)) with
      named | ⟨other, target, isLink⟩
    · exact iff_of_false
        (not_mem_of_empties empties isPath (hasShards.isName isShard) isShardPath named)
        (full place named)
    · have wasLink := find_of_eraseAll empties.nonempty (empties.rest ▸ isLink)
      rw [namedBefore] at wasLink
      simp at wasLink
  reaches := empties.reaches store.root

/-- A shard that is empty in the end is removed. -/
theorem of_removed
    (empties : Empties disk shard files emptied)
    (hasShards : store.HasShards)
    (isPath : store.root ≠ "")
    (isShard : store.isShardName name = true)
    (isShardPath : shard = Path.child store.root name)
    (isDirectory : emptied.find false shard = .ok (inner, .directory))
    (empty : emptied.children inner = []) :
    ClearsShards store disk [shard] (files ++ [inner]) (eraseAll emptied [inner]) := by
  have isName := hasShards.isName isShard
  have spared := not_mem_of_empties empties isPath isName isShardPath isDirectory
  have wasDirectory := find_of_eraseAll empties.nonempty (empties.rest ▸ isDirectory)
  obtain ⟨top, isTop, isInner, _⟩ :=
    exists_place_of_find_child isPath isName (isShardPath ▸ isDirectory)
  exact {
    named := by simpa using ⟨name, isShard, isShardPath⟩
    distinct := by
      rw [List.nodup_append]
      refine ⟨empties.distinct, by simp, ?_⟩
      rintro place member other isInner rfl
      exact spared (List.mem_singleton.mp isInner ▸ member)
    rest := by rw [eraseAll_append, ← empties.rest]
    owned := by
      intro place member
      rcases List.mem_append.mp member with member | isInner
      · exact .inl ⟨shard, List.mem_singleton_self shard, empties.owned place member⟩
      · obtain rfl := List.mem_singleton.mp isInner
        exact .inr ⟨shard, List.mem_singleton_self shard, wasDirectory⟩
    directories := by simpa using empties.isDirectory
    nothing := by
      rintro _ isSame name isOwn isName content reads
      obtain rfl := List.mem_singleton.mp isSame
      have notTop : [] ∉ [inner] := by simp [isInner]
      exact empties.nothing name isOwn isName content (read_of_eraseAll notTop reads)
    files := by
      rintro _ isSame name isOwn isName place content modified named
      obtain rfl := List.mem_singleton.mp isSame
      exact List.mem_append_left _ (empties.files name isOwn isName place content modified named)
    emptied := by
      rintro _ isSame place namedBefore
      obtain rfl := List.mem_singleton.mp isSame
      obtain ⟨rfl, _⟩ := Prod.mk.inj (Except.ok.inj (namedBefore.symm.trans wasDirectory))
      exact iff_of_true (by simp) (children_eraseAll_eq_nil empty _)
    reaches := by
      intro outer reaches
      have stillReaches := empties.reaches _ outer reaches
      rw [stillReaches.find_eq] at isTop
      obtain ⟨rfl, _⟩ := Prod.mk.inj (Except.ok.inj isTop)
      refine stillReaches.of_prune_eq ?_
      rw [isInner, eraseAll_cons, eraseAll_nil]
      exact prune_erase emptied outer (by simp) }

/-- A shard is cleared in its turn. -/
theorem of_turn
    {paths : List String}
    (hasShards : store.HasShards)
    (isPath : store.root ≠ "")
    (hasNames : disk.HasNames)
    (isShard : ∃ name, store.isShardName name = true ∧ shard = Path.child store.root name)
    (listed : Store.pathsNamed disk shard Store.isOwnName = .ok paths)
    (succeeds : Store.removeFiles disk paths = (.ok (), emptied)) :
    ∃ removed, ClearsShards store disk [shard] removed
      ((emptied.removeDirectory shard).toOption.getD emptied) := by
  obtain ⟨name, isShard, rfl⟩ := isShard
  obtain ⟨files, empties⟩ := Store.removeFiles_empties hasNames listed succeeds
  obtain ⟨inner, isDirectory⟩ := empties.isDirectory
  rcases removeDirectory_cases isPath (hasShards.isName isShard)
    (empties.directories _ inner isDirectory) with ⟨isRemoved, named, empty⟩ | ⟨isKept, full⟩
  · rw [isRemoved]
    exact ⟨files ++ [inner], of_removed empties hasShards isPath isShard rfl named empty⟩
  · rw [isKept]
    exact ⟨files, of_kept empties hasShards isPath isShard rfl full⟩

end Turn

/-! ### Turn after turn -/

theorem utf8ByteSize_of_isShardName
    (isShard : store.isShardName name = true) :
    name.utf8ByteSize = store.shardDigits := by
  simp only [Store.isShardName, areKeyDigits, Bool.and_eq_true, decide_eq_true_eq,
    List.all_eq_true] at isShard
  obtain ⟨length, digits⟩ := isShard
  rw [utf8ByteSize_of_isPlain, length]
  exact List.all_eq_true.mpr fun c member => (isPlain_of_isKeyDigit (digits c member)).1

section Turns

variable (hasShards : store.HasShards) (isPath : store.root ≠ "")

include hasShards isPath

/-- What the turn of a shard leaves in it is not removed later. -/
theorem spares
    {node : Node}
    (turn : ClearsShards store disk [shard] first middle)
    (turns : ClearsShards store middle shards removed after)
    (isDirectory : disk.find false shard = .ok (place, .directory))
    (isKept : place ∉ first)
    (isChild : (name, node) ∈ middle.children place) :
    place ++ [name] ∉ removed := by
  have nonempty := turn.nonempty hasShards isPath
  have found : ∀ {followsLast path found}, middle.find followsLast path = .ok found →
      disk.find followsLast path = .ok found :=
    fun isFound => find_of_eraseAll nonempty (turn.rest ▸ isFound)
  obtain ⟨own, isOwnShard, rfl⟩ := turn.named shard (List.mem_singleton_self shard)
  have isOwn := hasShards.isName isOwnShard
  obtain ⟨top, isTop, rfl, isThere⟩ := exists_place_of_find_child isPath isOwn isDirectory
  intro member
  rcases turns.owned _ member with
    ⟨other, isOther, inner, content, isOwnName, isInner, removable⟩ | ⟨other, isOther, isShard⟩
  · -- The other shard is a link to the same directory, so its own turn would have removed it.
    obtain ⟨otherName, isOtherShard, rfl⟩ := turns.named other isOther
    have isOtherName := hasShards.isName isOtherShard
    obtain ⟨node, named⟩ := removable.named
    obtain ⟨outer, isOuter, samePlace, _⟩ :=
      exists_place_of_find_child (Path.child_ne_empty isPath isOtherName) isInner named
    obtain ⟨rfl, sameName⟩ := List.append_inj' samePlace rfl
    obtain rfl := List.singleton_inj.mp sameName
    obtain ⟨root, isRoot⟩ := exists_directory_of_find_child isPath isOtherName isOuter
    obtain ⟨rfl, _⟩ := Prod.mk.inj (Except.ok.inj (isTop.symm.trans (found isRoot)))
    have stillThere : middle.node? (top ++ [own]) = some .directory := by
      rw [turn.rest, node?_eraseAll_of_not_mem disk isKept, isThere]
    have stillDirectory :=
      find_child isRoot isOwn (isFollowed_of_find isDirectory).short stillThere
    have fits : (Path.child (Path.child store.root own) name).utf8ByteSize ≤ maxPathLength := by
      have short := (isFollowed_of_find named).short
      rw [Path.utf8ByteSize_child (Path.child_ne_empty isPath isOtherName) isInner,
        Path.endsWithSlash_child isPath isOtherName, Path.utf8ByteSize_child isPath isOtherName,
        utf8ByteSize_of_isShardName isOtherShard] at short
      rwa [Path.utf8ByteSize_child (Path.child_ne_empty isPath isOwn) isInner,
        Path.endsWithSlash_child isPath isOwn, Path.utf8ByteSize_child isPath isOwn,
        utf8ByteSize_of_isShardName isOwnShard]
    obtain ⟨target, modified, isFile⟩ := removable.exists_find
    have isFileToo := find_in_directory isPath isOwn isOtherName isInner stillDirectory isOuter
      fits isFile
    exact turn.nothing _ (List.mem_singleton_self _) name isOwnName isInner content
      (by rw [Disk.read, isFileToo])
  · obtain ⟨otherName, isOtherShard, rfl⟩ := turns.named other isOther
    obtain ⟨outer, isOuter, samePlace, _⟩ :=
      exists_place_of_find_child isPath (hasShards.isName isOtherShard) isShard
    obtain ⟨rfl, _⟩ := Prod.mk.inj (Except.ok.inj (isTop.symm.trans (found isOuter)))
    simpa using congrArg List.length samePlace

/-- A file in a shard that has its turn later is removed in the first turn or later. -/
theorem mem_of_later_file
    {content : Bytes}
    {modified : Instant}
    (turn : ClearsShards store disk [shard] first middle)
    (turns : ClearsShards store middle shards removed after)
    {later : String}
    (isLater : later ∈ shards)
    (isOwn : Store.isOwnName name = true)
    (isName : IsName name)
    (named : disk.find false (Path.child later name) = .ok (place, .file content modified)) :
    place ∈ first ∨ place ∈ removed := by
  by_cases before : place ∈ first
  · exact .inl before
  · -- The shard still has its turn, so its directory is where it was.
    obtain ⟨ownName, isOwnShard, rfl⟩ := turns.named later isLater
    obtain ⟨inner, isDirectory⟩ := turns.directories _ isLater
    have wasDirectory := find_of_eraseAll (turn.nonempty hasShards isPath)
      (turn.rest ▸ isDirectory)
    obtain ⟨outer, isOuter, rfl, isThere⟩ := exists_place_of_find_child
      (Path.child_ne_empty isPath (hasShards.isName isOwnShard)) isName named
    obtain ⟨rfl, _⟩ := Prod.mk.inj (Except.ok.inj (isOuter.symm.trans wasDirectory))
    have stillThere : middle.node? (outer ++ [name]) = some (.file content modified) := by
      rw [turn.rest, node?_eraseAll_of_not_mem disk before, isThere]
    exact .inr (turns.files _ isLater name isOwn isName _ content modified
      (find_child isDirectory isName (isFollowed_of_find named).short stillThere))

/-- The shard that has its turn first is removed if it is empty in the end. -/
theorem mem_iff_of_first
    (turn : ClearsShards store disk [shard] first middle)
    (turns : ClearsShards store middle shards removed after)
    (named : disk.find false shard = .ok (place, .directory)) :
    (place ∈ first ∨ place ∈ removed) ↔ after.children place = [] := by
  have emptied := turn.emptied shard (List.mem_singleton_self shard) place named
  constructor
  · rintro (before | later)
    · rw [turns.rest]
      exact children_eraseAll_eq_nil (emptied.mp before) _
    · rcases turns.owned place later with
        ⟨_, _, _, _, _, _, removable⟩ | ⟨another, isAnother, isDirectory⟩
      · obtain ⟨ownName, isOwnShard, rfl⟩ := turn.named shard (List.mem_singleton_self shard)
        obtain ⟨_, _, _, isThere⟩ :=
          exists_place_of_find_child isPath (hasShards.isName isOwnShard) named
        exact absurd isThere (ne_directory_of_isRemovable
          (isRemovable_of_eraseAll (turn.nonempty hasShards isPath) (turn.rest ▸ removable)))
      · exact (turns.emptied another isAnother place isDirectory).mp later
  · intro empty
    by_cases before : place ∈ first
    · exact .inl before
    · obtain ⟨⟨name, node⟩, isChild⟩ := List.exists_mem_of_ne_nil _ (mt emptied.mpr before)
      have isSpared := spares hasShards isPath turn turns named before isChild
      have stays := mem_children_eraseAll.mpr ⟨isChild, isSpared⟩
      rw [← turns.rest, empty] at stays
      simp at stays

/-- A shard that has its turn later is not removed before, and then if it is empty in the end. -/
theorem mem_iff_of_later
    (turn : ClearsShards store disk [shard] first middle)
    (turns : ClearsShards store middle shards removed after)
    {later : String}
    (isLater : later ∈ shards)
    (named : disk.find false later = .ok (place, .directory)) :
    (place ∈ first ∨ place ∈ removed) ↔ after.children place = [] := by
  have found : ∀ {followsLast path found}, middle.find followsLast path = .ok found →
      disk.find followsLast path = .ok found :=
    fun isFound => find_of_eraseAll (turn.nonempty hasShards isPath) (turn.rest ▸ isFound)
  obtain ⟨inner, isDirectory⟩ := turns.directories later isLater
  obtain ⟨rfl, _⟩ := Prod.mk.inj (Except.ok.inj
    ((find_of_find_directory named).symm.trans (found isDirectory)))
  have stillNamed : middle.find false later = .ok (place, .directory) := by
    rcases find_directory_cases isDirectory with same | ⟨_, _, isLink⟩
    · exact same
    · rw [found isLink] at named
      simp at named
  have isKept : place ∉ first := by
    obtain ⟨ownName, isOwnShard, rfl⟩ := turns.named later isLater
    obtain ⟨_, _, rfl, isThere⟩ :=
      exists_place_of_find_child isPath (hasShards.isName isOwnShard) stillNamed
    exact not_mem_of_node?_eraseAll (by simp) (turn.rest ▸ isThere)
  rw [or_iff_right isKept]
  exact turns.emptied later isLater place stillNamed

/-- Shards are cleared by the turn of the first one and those of the others. -/
theorem cons
    (turn : ClearsShards store disk [shard] first middle)
    (turns : ClearsShards store middle shards removed after) :
    ClearsShards store disk (shard :: shards) (first ++ removed) after := by
  have nonempty := turn.nonempty hasShards isPath
  have isShard : shard ∈ [shard] := List.mem_singleton_self shard
  have found : ∀ {followsLast path found}, middle.find followsLast path = .ok found →
      disk.find followsLast path = .ok found :=
    fun isFound => find_of_eraseAll nonempty (turn.rest ▸ isFound)
  exact {
    named := by
      intro other member
      rcases List.mem_cons.mp member with rfl | isLater
      · exact turn.named other isShard
      · exact turns.named other isLater
    distinct := by
      rw [List.nodup_append]
      refine ⟨turn.distinct, turns.distinct, ?_⟩
      rintro place before other later rfl
      obtain ⟨notTop, node, isThere⟩ := turns.isThere hasShards isPath later
      exact not_mem_of_node?_eraseAll notTop (turn.rest ▸ isThere) before
    rest := by rw [eraseAll_append, ← turn.rest, turns.rest]
    owned := by
      intro place member
      rcases List.mem_append.mp member with before | later
      · refine (turn.owned place before).imp ?_ ?_
        · rintro ⟨other, isSame, isOwned⟩
          exact ⟨shard, List.mem_cons_self, List.mem_singleton.mp isSame ▸ isOwned⟩
        · rintro ⟨other, isSame, isDirectory⟩
          exact ⟨shard, List.mem_cons_self, List.mem_singleton.mp isSame ▸ isDirectory⟩
      · refine (turns.owned place later).imp ?_ ?_
        · rintro ⟨other, isLater, name, content, isOwn, isName, removable⟩
          exact ⟨other, List.mem_cons_of_mem _ isLater, name, content, isOwn, isName,
            isRemovable_of_eraseAll nonempty (turn.rest ▸ removable)⟩
        · rintro ⟨other, isLater, isDirectory⟩
          exact ⟨other, List.mem_cons_of_mem _ isLater, found isDirectory⟩
    directories := by
      intro other member
      rcases List.mem_cons.mp member with rfl | isLater
      · exact turn.directories other isShard
      · obtain ⟨place, isDirectory⟩ := turns.directories other isLater
        exact ⟨place, found isDirectory⟩
    nothing := by
      intro other member name isOwn isName content reads
      rcases List.mem_cons.mp member with rfl | isLater
      · exact turn.nothing other isShard name isOwn isName content
          (read_of_eraseAll (turns.nonempty hasShards isPath) (turns.rest ▸ reads))
      · exact turns.nothing other isLater name isOwn isName content reads
    files := by
      intro other member name isOwn isName place content modified named
      rcases List.mem_cons.mp member with rfl | isLater
      · exact List.mem_append_left _
          (turn.files other isShard name isOwn isName place content modified named)
      · exact List.mem_append.mpr
          (mem_of_later_file hasShards isPath turn turns isLater isOwn isName named)
    emptied := by
      intro other member place named
      rw [List.mem_append]
      rcases List.mem_cons.mp member with rfl | isLater
      · exact mem_iff_of_first hasShards isPath turn turns named
      · exact mem_iff_of_later hasShards isPath turn turns isLater named
    reaches := fun outer reaches => turns.reaches outer (turn.reaches outer reaches) }

/-- Shards that are cleared with success are cleared turn after turn. -/
theorem of_clearShards
    (hasNames : disk.HasNames)
    (areShards : ∀ shard ∈ shards, ∃ name, store.isShardName name = true ∧
      shard = Path.child store.root name)
    (succeeds : Store.clearShards disk shards = (.ok (), after)) :
    ∃ removed, ClearsShards store disk shards removed after := by
  induction shards generalizing disk with
  | nil =>
      rw [Store.clearShards] at succeeds
      obtain ⟨_, rfl⟩ := Prod.mk.inj succeeds
      exact ⟨[], .nil store disk⟩
  | cons shard rest inductionHypothesis =>
      rw [Store.clearShards] at succeeds
      split at succeeds
      · simp at succeeds
      · rename_i paths listed
        split at succeeds
        · simp at succeeds
        · rename_i emptied removesAll
          obtain ⟨first, turn⟩ := of_turn hasShards isPath hasNames
            (areShards shard List.mem_cons_self) listed removesAll
          have stillNames := turn.rest ▸ hasNames_eraseAll hasNames first
          obtain ⟨removed, turns⟩ := inductionHypothesis stillNames
            (fun other member => areShards other (List.mem_cons_of_mem _ member)) succeeds
          exact ⟨first ++ removed, cons hasShards isPath turn turns⟩

end Turns

end ClearsShards

end SourceFacts.Cache
