import SourceFacts.Proofs.Cache.Purging
import SourceFacts.Proofs.Cache.Shards
import SourceFacts.Proofs.Disk.Atomicity

namespace SourceFacts.Cache

/-!
# Clearing removes what belongs to the store

Whatever lies in the directory of a store, clearing removes the files whose names are those of
entries or of what an interrupted replacement leaves of one, links to files that are named so, and
the shards that are empty then. It removes nothing else, and no look-up finds an entry afterwards.
-/

open Disk Text Time

/-! ## What belongs to a store -/

section Own

variable {store : Store} {disk : Disk} {path : String} {key : Key}

/-- A path of something in a shard that has the name of an entry's file, or of one from which an
entry's file was to be made. -/
def Store.IsOwnPath (store : Store) (path : String) : Prop :=
  ∃ shard name, store.isShardName shard = true ∧ Store.isOwnName name = true ∧ IsName name ∧
    path = Path.child (Path.child store.root shard) name

theorem Store.IsEntryPath.isOwnPath
    (isEntryPath : store.IsEntryPath path) :
    store.IsOwnPath path := by
  obtain ⟨shard, name, isShard, isEntry, rfl⟩ := isEntryPath
  exact ⟨shard, name, isShard, by simp [Store.isOwnName, isEntry],
    isName_of_isEntryName isEntry, rfl⟩

/-- What stands before and after a mark whose first character does not occur before it. -/
theorem splitAtFirst?_append
    {first : Char}
    {mark before : List Char}
    (absent : first ∉ before)
    (after : List Char) :
    splitAtFirst? (first :: mark) (before ++ first :: (mark ++ after)) = some (before, after) := by
  induction before with
  | nil =>
      have starts : dropStart? (first :: mark) (first :: (mark ++ after)) = some after :=
        dropStart?_append (first :: mark) after
      rw [List.nil_append, splitAtFirst?, starts]
  | cons c rest inductionHypothesis =>
      rw [List.mem_cons, not_or] at absent
      have differs :
          dropStart? (first :: mark) (c :: (rest ++ first :: (mark ++ after))) = none := by
        simp [dropStart?, absent.1]
      rw [List.cons_append, splitAtFirst?, differs]
      dsimp only
      rw [inductionHypothesis absent.2]
      rfl

/-- The name of a file from which an entry's file was to be made is recognized, whatever its
tag. -/
theorem isTemporaryName_temporaryName
    (key : Key)
    (tag : String) :
    isTemporaryName (temporaryName (entryName key) tag) = true := by
  have mark : (entryEnding ++ ".").toList = '.' :: ['j', 's', 'o', 'n', '.'] := rfl
  have noDot : '.' ∉ key.toHex.toList := by
    intro isDot
    exact (isPlain_of_isKeyDigit (isKeyDigit_of_mem_toHex isDot)).2 rfl
  have chars : (entryName key).toList ++ '.' :: (tag.toList ++ ['.', 't', 'm', 'p']) =
      key.toHex.toList ++ '.' ::
        (['j', 's', 'o', 'n', '.'] ++ (tag.toList ++ ['.', 't', 'm', 'p'])) := by
    rw [toList_entryName, List.append_assoc]
    rfl
  have ending : ".tmp".toList = ['.', 't', 'm', 'p'] := rfl
  rw [isTemporaryName]
  split
  · rename_i rest shape
    rw [toList_temporaryName, chars, List.cons.injEq] at shape
    obtain ⟨_, rfl⟩ := shape
    rw [mark, splitAtFirst?_append noDot]
    dsimp only
    rw [areKeyDigits_toHex, Bool.true_and, ending, List.isSuffixOf_iff_suffix]
    exact List.suffix_append tag.toList ['.', 't', 'm', 'p']
  · rename_i differs
    exact absurd (toList_temporaryName key tag) (differs _)

/-- The paths that a replacement of an entry's file writes to belong to the store. -/
theorem Store.isOwnPath_of_replacement
    {replacement : Replacement}
    {number : Nat}
    (hasShards : store.HasShards)
    (isPath : store.root ≠ "")
    (sameTag : replacement.tag = tagText number)
    (samePath : replacement.path = store.entryPath key) :
    store.IsOwnPath replacement.path ∧ store.IsOwnPath replacement.temporary := by
  have isShard := isShardName_shardOf (Nat.le_trans hasShards.2 (by decide)) key
  have isShardDirectory := isName_shardOf hasShards.1 key
  have isParent := Path.parent?_child isPath isShardDirectory (isName_entryName key)
  have isChild := Path.child_ne_empty isPath isShardDirectory
  have temporary : replacement.temporary =
      Path.child (store.shardPath key) (temporaryName (entryName key) (tagText number)) := by
    rw [Replacement.temporary, samePath, sameTag, Path.sibling, Store.entryPath, Store.shardPath,
      Path.fileName?_child isChild (isName_entryName key), isParent]
    rfl
  refine ⟨samePath ▸ (Store.isEntryPath_entryPath hasShards key).isOwnPath, ?_⟩
  exact ⟨_, _, isShard, by simp [Store.isOwnName, isTemporaryName_temporaryName],
    isName_temporaryName key number, temporary⟩

end Own

/-! ## Counting nothing -/

section Counting

variable {store : Store} {disk : Disk} {top : Place}

/-- The files of entries are listed if the directory of the store is there. -/
theorem Store.exists_entryFiles_of_find
    (hasShards : store.HasShards)
    (isTop : disk.find true store.root = .ok (top, .directory)) :
    ∃ files, store.entryFiles disk = .ok files := by
  obtain ⟨shards, listed⟩ : ∃ shards, store.shards disk = .ok shards := by
    rw [Store.shards, readDirectory, isTop]
    exact ⟨_, rfl⟩
  obtain ⟨files, isMade⟩ :
      ∃ files, shards.mapM (fun shard => Store.filesNamed disk shard isEntryName) = .ok files := by
    apply exists_mapM
    intro shard isShard
    obtain ⟨place, isDirectory⟩ := ((mem_shards hasShards listed).mp isShard).2
    rw [Store.filesNamed, Store.pathsNamed, readDirectory, isDirectory]
    exact ⟨_, rfl⟩
  refine ⟨files.flatten, ?_⟩
  rw [Store.entryFiles, listed]
  change (do
    let files ← shards.mapM fun shard => Store.filesNamed disk shard isEntryName
    return files.flatten) = _
  rw [isMade]
  rfl

/-- No entries are counted if none can be read. -/
theorem Store.count_of_nothing
    (hasShards : store.HasShards)
    (isTop : disk.find true store.root = .ok (top, .directory))
    (nothing : ∀ path, store.IsEntryPath path → ∀ content, disk.read path ≠ .ok content) :
    store.count disk = .ok 0 := by
  obtain ⟨files, listed⟩ := Store.exists_entryFiles_of_find hasShards isTop
  have none : files = [] := by
    rw [List.eq_nil_iff_forall_not_mem]
    intro path member
    obtain ⟨isEntryPath, content, reads⟩ := (mem_entryFiles hasShards listed).mp member
    exact nothing path isEntryPath content reads
  rw [Store.count, listed, none]
  rfl

end Counting

/-! ## Clearing -/

section Clears

variable {store : Store} {disk after : Disk}

/-- What clearing does to a tree, and what is noticed of it. -/
structure IsCleared
    (store : Store)
    (disk after : Disk)
    (removed : List Place) : Prop where
  distinct : removed.Nodup
  /-- Nothing else changes. -/
  rest : after = eraseAll disk removed
  /-- What is removed belongs to the store and leads to a file, or is a shard. -/
  owned : ∀ place ∈ removed,
    (∃ path content, store.IsOwnPath path ∧ IsRemovable disk path place content) ∨
      ∃ shard, store.isShardName shard = true ∧
        disk.find false (Path.child store.root shard) = .ok (place, .directory)
  /-- A file that belongs to the store is removed. -/
  files : ∀ path place content modified, store.IsOwnPath path →
    disk.find false path = .ok (place, .file content modified) → place ∈ removed
  /-- A path of the store that leads to a file, as a link does, leads nowhere any more. -/
  reads : ∀ path content, store.IsOwnPath path → disk.read path = .ok content →
    after.read path = .error .noSuchFile
  /-- A shard is removed if it is empty in the end. -/
  shards : ∀ shard place, store.isShardName shard = true →
    disk.find false (Path.child store.root shard) = .ok (place, .directory) →
      (place ∈ removed ↔ after.children place = [])
  /-- What has changed when an entry is stored, or storing it is interrupted, is removed. -/
  puts : ∀ base (replacement : Replacement) key number,
    replacement.path = store.entryPath key → replacement.tag = tagText number →
      replacement.IsNew base →
        (∀ place target, base.find false replacement.path ≠ .ok (place, .link target)) →
          replacement.IsMoment base disk →
            ∀ place, disk.node? place ≠ base.node? place → place ∈ removed
  /-- No look-up finds an entry. -/
  gets : ∀ key now, (store.get after key now).1 = .ok none ∨
    ∃ error, (store.get disk key now).1 = .error (.io error) ∧
      (store.get after key now).1 = .error (.io error)
  /-- No entries are counted, unless the path of the directory led through a shard. -/
  count : store.count after = .ok 0 ∨
    (after.find true store.root = .error .noSuchFile ∧
      store.count after = .error (.io .noSuchFile))
  countOfReached : ∀ top, disk.Reaches store.root top → store.count after = .ok 0
  /-- In a directory without links exactly the files that belong to the store are removed, and the
  shards that are empty then. -/
  ofPlain : ∀ top, disk.find true store.root = .ok (top, .directory) → HasNoLinks disk top →
    ∀ place, place ∈ removed ↔
      (∃ shard name content, store.isShardName shard = true ∧ Store.isOwnName name = true ∧
        place = top ++ [shard, name] ∧ IsEntryFile store disk top shard name content) ∨
      ∃ shard, store.isShardName shard = true ∧ place = top ++ [shard] ∧
        disk.node? place = some .directory ∧
        (Path.child store.root shard).utf8ByteSize ≤ maxPathLength ∧ after.children place = []

theorem Store.clearShards_of_clear
    (succeeds : store.clear disk = (.ok (), after)) :
    ∃ shards, store.shards disk = .ok shards ∧
      Store.clearShards disk shards = (.ok (), after) := by
  rw [Store.clear] at succeeds
  cases listed : store.shards disk with
  | error error =>
      rw [listed] at succeeds
      simp at succeeds
  | ok shards =>
      rw [listed] at succeeds
      dsimp only at succeeds
      refine ⟨shards, rfl, ?_⟩
      split at succeeds
      · simp at succeeds
      · rename_i clears
        obtain ⟨_, rfl⟩ := Prod.mk.inj succeeds
        exact clears

/-- All shards of a store are cleared. -/
structure ClearsAll
    (store : Store)
    (disk : Disk)
    (shards : List String)
    (after : Disk)
    (removed : List Place) : Prop where
  hasShards : store.HasShards
  hasNames : disk.HasNames
  listed : store.shards disk = .ok shards
  clears : ClearsShards store disk shards removed after

namespace ClearsAll

variable {shards : List String} {removed : List Place} {place top : Place} {path shard : String}
  {content : Bytes}

theorem isPath
    (clearsAll : ClearsAll store disk shards after removed) :
    store.root ≠ "" := by
  obtain ⟨_, isTop⟩ := find_of_shards clearsAll.listed
  exact (isFollowed_of_find isTop).nonempty

theorem nonempty
    (clearsAll : ClearsAll store disk shards after removed) :
    [] ∉ removed :=
  clearsAll.clears.nonempty clearsAll.hasShards clearsAll.isPath

/-- A path finds the same as before, or nothing. -/
theorem find_after
    (clearsAll : ClearsAll store disk shards after removed)
    (followsLast : Bool)
    (path : String) :
    after.find followsLast path = disk.find followsLast path ∨
      after.find followsLast path = .error .noSuchFile := by
  rw [clearsAll.clears.rest]
  exact find_eraseAll clearsAll.nonempty followsLast path

theorem read_after
    (clearsAll : ClearsAll store disk shards after removed)
    (path : String) :
    after.read path = disk.read path ∨ after.read path = .error .noSuchFile := by
  rw [clearsAll.clears.rest]
  exact read_eraseAll clearsAll.nonempty path

/-- What a path of the store leads to is in a shard that is cleared. -/
theorem mem_shards_of_find
    (clearsAll : ClearsAll store disk shards after removed)
    {followsLast : Bool}
    {name : String}
    {found : Place × Node}
    (isShard : store.isShardName shard = true)
    (isName : IsName name)
    (isFound : disk.find followsLast (Path.child (Path.child store.root shard) name) = .ok found) :
    Path.child store.root shard ∈ shards := by
  have isChild := Path.child_ne_empty clearsAll.isPath (clearsAll.hasShards.isName isShard)
  exact (mem_shards clearsAll.hasShards clearsAll.listed).mpr
    ⟨⟨shard, isShard, rfl⟩, exists_directory_of_find_child isChild isName isFound⟩

/-- Nothing that belongs to the store is read any more. -/
theorem nothing
    (clearsAll : ClearsAll store disk shards after removed)
    (isOwnPath : store.IsOwnPath path) :
    after.read path ≠ .ok content := by
  obtain ⟨shard, name, isShard, isOwn, isName, rfl⟩ := isOwnPath
  intro reads
  have readsBefore := read_of_eraseAll clearsAll.nonempty (clearsAll.clears.rest ▸ reads)
  obtain ⟨_, _, _, isFound⟩ := exists_read_iff.mp ⟨content, readsBefore⟩
  exact clearsAll.clears.nothing _ (clearsAll.mem_shards_of_find isShard isName isFound) name isOwn
    isName content reads

theorem files
    (clearsAll : ClearsAll store disk shards after removed)
    {modified : Instant}
    (isOwnPath : store.IsOwnPath path)
    (named : disk.find false path = .ok (place, .file content modified)) :
    place ∈ removed := by
  obtain ⟨shard, name, isShard, isOwn, isName, rfl⟩ := isOwnPath
  exact clearsAll.clears.files _ (clearsAll.mem_shards_of_find isShard isName named) name isOwn
    isName place content modified named

theorem owned
    (clearsAll : ClearsAll store disk shards after removed)
    (member : place ∈ removed) :
    (∃ path content, store.IsOwnPath path ∧ IsRemovable disk path place content) ∨
      ∃ shard, store.isShardName shard = true ∧
        disk.find false (Path.child store.root shard) = .ok (place, .directory) := by
  refine (clearsAll.clears.owned place member).imp ?_ ?_
  · rintro ⟨path, isShardPath, name, content, isOwn, isName, removable⟩
    obtain ⟨shard, isShard, rfl⟩ := clearsAll.clears.named path isShardPath
    exact ⟨_, content, ⟨shard, name, isShard, isOwn, isName, rfl⟩, removable⟩
  · rintro ⟨path, isShardPath, isDirectory⟩
    obtain ⟨shard, isShard, rfl⟩ := clearsAll.clears.named path isShardPath
    exact ⟨shard, isShard, isDirectory⟩

theorem emptied
    (clearsAll : ClearsAll store disk shards after removed)
    (isShard : store.isShardName shard = true)
    (isDirectory : disk.find false (Path.child store.root shard) = .ok (place, .directory)) :
    place ∈ removed ↔ after.children place = [] := by
  refine clearsAll.clears.emptied _ ?_ place isDirectory
  exact (mem_shards clearsAll.hasShards clearsAll.listed).mpr
    ⟨⟨shard, isShard, rfl⟩, place, find_of_find_directory isDirectory⟩

theorem get_cases
    (clearsAll : ClearsAll store disk shards after removed)
    (key : Key)
    (now : Instant) :
    (store.get after key now).1 = .ok none ∨
      ∃ error, (store.get disk key now).1 = .error (.io error) ∧
        (store.get after key now).1 = .error (.io error) := by
  have isOwnPath := (Store.isEntryPath_entryPath clearsAll.hasShards key).isOwnPath
  have same := clearsAll.read_after (store.entryPath key)
  unfold Store.get Store.lookup
  cases reads : after.read (store.entryPath key) with
  | ok content =>
      exact absurd reads (clearsAll.nothing isOwnPath)
  | error error =>
      cases error with
      | noSuchFile =>
          exact .inl rfl
      | _ =>
          rw [reads] at same
          rcases same with same | missing
          · rw [← same]
            exact .inr ⟨_, rfl, rfl⟩
          · simp at missing

theorem count_of_find
    (clearsAll : ClearsAll store disk shards after removed)
    (isTop : after.find true store.root = .ok (top, .directory)) :
    store.count after = .ok 0 :=
  Store.count_of_nothing clearsAll.hasShards isTop fun _ isEntryPath _ =>
    clearsAll.nothing isEntryPath.isOwnPath

theorem count_cases
    (clearsAll : ClearsAll store disk shards after removed) :
    store.count after = .ok 0 ∨
      (after.find true store.root = .error .noSuchFile ∧
        store.count after = .error (.io .noSuchFile)) := by
  obtain ⟨top, isTop⟩ := find_of_shards clearsAll.listed
  rcases clearsAll.find_after true store.root with same | missing
  · exact .inl (clearsAll.count_of_find (same.trans isTop))
  · refine .inr ⟨missing, ?_⟩
    rw [Store.count, Store.entryFiles, Store.shards, readDirectory, missing]
    rfl

theorem mem_removed_iff_of_noLinks
    (clearsAll : ClearsAll store disk shards after removed)
    (isTop : disk.find true store.root = .ok (top, .directory))
    (noLinks : HasNoLinks disk top) :
    place ∈ removed ↔
      (∃ shard name content, store.isShardName shard = true ∧ Store.isOwnName name = true ∧
        place = top ++ [shard, name] ∧ IsEntryFile store disk top shard name content) ∨
      ∃ shard, store.isShardName shard = true ∧ place = top ++ [shard] ∧
        disk.node? place = some .directory ∧
        (Path.child store.root shard).utf8ByteSize ≤ maxPathLength ∧
        after.children place = [] := by
  constructor
  · intro member
    rcases clearsAll.owned member with
      ⟨path, content, ⟨shard, name, isShard, isOwn, isName, rfl⟩, removable⟩ |
        ⟨shard, isShard, isDirectory⟩
    · obtain ⟨isPlace, isFile⟩ := (isRemovable_iff_of_noLinks isTop noLinks
        (clearsAll.hasShards.isName isShard) isName).mp removable
      exact .inl ⟨shard, name, content, isShard, isOwn, isPlace, isFile⟩
    · obtain ⟨outer, isOuter, rfl, isThere⟩ := exists_place_of_find_child clearsAll.isPath
        (clearsAll.hasShards.isName isShard) isDirectory
      obtain ⟨rfl, _⟩ := Prod.mk.inj (Except.ok.inj (isTop.symm.trans isOuter))
      exact .inr ⟨shard, isShard, rfl, isThere, (isFollowed_of_find isDirectory).short,
        (clearsAll.emptied isShard isDirectory).mp member⟩
  · rintro (⟨shard, name, content, isShard, isOwn, rfl, isFile⟩ |
      ⟨shard, isShard, rfl, isThere, fits, empty⟩)
    · obtain ⟨modified, isThere⟩ := isFile.isFile
      have isName : IsName name := clearsAll.hasNames.of_node? isThere (by simp)
      have removable := (isRemovable_iff_of_noLinks isTop noLinks
        (clearsAll.hasShards.isName isShard) isName).mpr ⟨rfl, isFile⟩
      obtain ⟨node, isNode, named⟩ := removable.exists_node
      rw [isThere] at isNode
      obtain rfl := Option.some.inj isNode
      exact clearsAll.files ⟨shard, name, isShard, isOwn, isName, rfl⟩ named
    · exact (clearsAll.emptied isShard
        (find_child isTop (clearsAll.hasShards.isName isShard) fits isThere)).mpr empty

end ClearsAll

/-- Clearing that succeeds removes what belongs to the store, and nothing else. -/
theorem Store.clear_isCleared
    (hasShards : store.HasShards)
    (hasNames : disk.HasNames)
    (succeeds : store.clear disk = (.ok (), after)) :
    ∃ removed, IsCleared store disk after removed := by
  obtain ⟨shards, listed, clearsShards⟩ := Store.clearShards_of_clear succeeds
  obtain ⟨_, isTop⟩ := find_of_shards listed
  obtain ⟨removed, clears⟩ := ClearsShards.of_clearShards hasShards
    (isFollowed_of_find isTop).nonempty hasNames
    (fun shard member => ((mem_shards hasShards listed).mp member).1) clearsShards
  have clearsAll : ClearsAll store disk shards after removed :=
    ⟨hasShards, hasNames, listed, clears⟩
  refine ⟨removed, {
    distinct := clears.distinct
    rest := clears.rest
    owned := fun _ member => clearsAll.owned member
    files := fun _ _ _ _ isOwnPath named => clearsAll.files isOwnPath named
    reads := ?_
    shards := fun _ _ isShard isDirectory => clearsAll.emptied isShard isDirectory
    puts := ?_
    gets := clearsAll.get_cases
    count := clearsAll.count_cases
    countOfReached := fun top reaches =>
      clearsAll.count_of_find (clears.reaches top reaches).find_eq
    ofPlain := fun _ isTop noLinks _ => clearsAll.mem_removed_iff_of_noLinks isTop noLinks }⟩
  · intro path content isOwnPath reads
    rcases clearsAll.read_after path with same | missing
    · exact absurd (same.trans reads) (clearsAll.nothing isOwnPath)
    · exact missing
  · intro base replacement key number samePath sameTag isNew notLink isMoment place changed
    obtain ⟨isOwnPath, isOwnTemporary⟩ :=
      Store.isOwnPath_of_replacement hasShards clearsAll.isPath sameTag samePath
    obtain ⟨content, modified, named | named⟩ := isMoment.exists_find isNew notLink changed
    · exact clearsAll.files isOwnTemporary named
    · exact clearsAll.files isOwnPath named

end Clears

/-! ## Links in a shard -/

theorem clear_linkedDisk : linkedStore.clear linkedDisk = (.ok (), purgedDisk) := by
  have outAfter := find_linkOut (linkedDisk.erase ["cache", "ab", entryName (shardKey 0)])
    (by decide) (by decide) (by decide) (by decide)
  have behindNothing := find_behindNothing
    (linkedDisk.erase ["cache", "ab", entryName (shardKey 0)]) (by decide) (by decide) (by decide)
    (by decide)
  have isCache : IsName "cache" := by decide
  have isAb : IsName "ab" := by decide
  have isShard : purgedDisk.find false (Path.child "cache" "ab") =
      .ok (["cache", "ab"], .directory) := by
    have isTop : purgedDisk.find true "cache" = .ok (["cache"], .directory) :=
      find_top isCache (by decide)
    exact find_child isTop isAb (by decide) (by decide)
  have isFull : (purgedDisk.children ["cache", "ab"]).isEmpty = false := by decide
  rw [Store.clear, shards_linkedDisk]
  dsimp only
  rw [Store.clearShards, pathsNamed_linkedDisk fun key => by
    simp [Store.isOwnName, isEntryName_entryName]]
  dsimp only
  rw [Store.removeFiles, Store.leadsToFile, find_file.1]
  dsimp only
  rw [if_pos rfl, removeFile, find_file.2]
  dsimp only
  rw [Store.removeFiles, Store.leadsToFile, behindNothing]
  dsimp only
  rw [if_neg Bool.false_ne_true, Store.removeFiles, Store.leadsToFile, outAfter.1]
  dsimp only
  rw [if_pos rfl, removeFile, outAfter.2]
  dsimp only
  rw [Store.removeFiles, ← purgedDisk]
  dsimp only
  rw [removeDirectory_child (by decide) isAb isShard, isFull]
  rfl

/-- Clearing can remove a link, which is no regular file. -/
theorem Store.clear_linkedDisk_removesLink :
    linkedStore.clear linkedDisk = (.ok (), purgedDisk) ∧
      linkedDisk.node? ["cache", "ab", entryName (shardKey 2)] = some (.link "../../junk") ∧
      purgedDisk.node? ["cache", "ab", entryName (shardKey 2)] = none :=
  ⟨clear_linkedDisk, by decide, by decide⟩

theorem hasNames_linkedDisk : linkedDisk.HasNames := by
  have isCache : IsName "cache" := by decide
  have isAb : IsName "ab" := by decide
  have isJunk : IsName "junk" := by decide
  intro place node member name inPlace
  simp only [linkedDisk, List.mem_cons, Prod.mk.injEq, List.not_mem_nil, or_false] at member
  rcases member with ⟨rfl, _⟩ | ⟨rfl, _⟩ | ⟨rfl, _⟩ | ⟨rfl, _⟩ | ⟨rfl, _⟩ | ⟨rfl, _⟩ <;>
    simp only [List.mem_cons, List.not_mem_nil, or_false] at inPlace
  · exact inPlace ▸ isJunk
  · exact inPlace ▸ isCache
  · rcases inPlace with rfl | rfl
    · exact isCache
    · exact isAb
  all_goals
    rcases inPlace with rfl | rfl | rfl
    · exact isCache
    · exact isAb
    · exact isName_entryName _

theorem Store.clear_isCleared_linkedDisk :
    ∃ removed, IsCleared linkedStore linkedDisk purgedDisk removed :=
  Store.clear_isCleared ⟨by decide, by decide⟩ hasNames_linkedDisk clear_linkedDisk

end SourceFacts.Cache
