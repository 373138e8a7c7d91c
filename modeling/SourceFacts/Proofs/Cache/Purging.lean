import SourceFacts.Proofs.Cache.Staleness

namespace SourceFacts.Cache

/-!
# Purging is not noticed

Whatever lies in the directory of a store, a purge removes what will never be found again: the
files of stale entries, and links to such files that are named like entries. Look-ups at the
same time or later come to the same, or they failed before and find nothing now. Without links
they come to the same.
-/

open Disk Text Time

/-! ## Directories without links -/

section Plain

variable {store : Store} {disk : Disk} {top place : Place} {shard name : String}
  {content : Bytes}

/-- Nothing at a place or below it is a link. -/
def HasNoLinks (disk : Disk) (top : Place) : Prop :=
  ∀ inner target, disk.node? (top ++ inner) ≠ some (.link target)

/-- An entry's file in a shard, where both are in the directory of a store. -/
structure IsEntryFile
    (store : Store)
    (disk : Disk)
    (top : Place)
    (shard name : String)
    (content : Bytes) : Prop where
  inShard : disk.node? (top ++ [shard]) = some .directory
  isFile : ∃ modified, disk.node? (top ++ [shard, name]) = some (.file content modified)
  fits : (Path.child (Path.child store.root shard) name).utf8ByteSize ≤ maxPathLength

/-- The names behind a directory without links lead to a file in a directory in it. -/
theorem exists_file_of_follow
    {links : Nat}
    {found : Place}
    {modified : Instant}
    (noLinks : HasNoLinks disk top)
    (isShard : IsName shard)
    (isName : IsName name)
    (leads : disk.follow true links top [shard, name] =
      .ok (.found found (.file content modified))) :
    disk.node? (top ++ [shard]) = some .directory ∧
      disk.node? (top ++ [shard, name]) = some (.file content modified) := by
  have isStep : IsStep shard := ⟨isShard.notHere, isShard.notAbove, isShard.short⟩
  have isStepToo : IsStep name := ⟨isName.notHere, isName.notAbove, isName.short⟩
  cases isThere : disk.node? (top ++ [shard]) with
  | none =>
      rw [follow_step_absent isStep isThere] at leads
      simp at leads
  | some node =>
      cases node with
      | file other otherModified =>
          rw [follow_step_file isStep isThere] at leads
          simp at leads
      | link target =>
          exact absurd isThere (noLinks [shard] target)
      | directory =>
          refine ⟨rfl, ?_⟩
          rw [follow_directory isShard.notHere isShard.notAbove isShard.short isThere] at leads
          have inner : top ++ [shard] ++ [name] = top ++ [shard, name] := by simp
          cases isLast : disk.node? (top ++ [shard] ++ [name]) with
          | none =>
              rw [follow_step_absent isStepToo isLast] at leads
              simp at leads
          | some node =>
              rw [inner] at isLast
              cases node with
              | file other otherModified =>
                  rw [follow_step_file isStepToo (inner ▸ isLast)] at leads
                  simp at leads
                  rw [isLast, leads.2.1, leads.2.2]
              | link target =>
                  exact absurd isLast (noLinks [shard, name] target)
              | directory =>
                  rw [follow_directory isName.notHere isName.notAbove isName.short
                    (inner ▸ isLast), follow] at leads
                  simp at leads

theorem follow_file_in_shard
    {modified : Instant}
    (isShard : IsName shard)
    (isName : IsName name)
    (inShard : disk.node? (top ++ [shard]) = some .directory)
    (isFile : disk.node? (top ++ [shard, name]) = some (.file content modified))
    (followsLast : Bool)
    (links : Nat) :
    disk.follow followsLast links top [shard, name] =
      .ok (.found (top ++ [shard, name]) (.file content modified)) := by
  have inner : top ++ [shard] ++ [name] = top ++ [shard, name] := by simp
  rw [follow_directory isShard.notHere isShard.notAbove isShard.short inShard,
    follow_file isName (inner ▸ isFile), inner]

/-- The path of an entry is followed from the directory of the store. -/
theorem exists_follow_entry
    (isTop : disk.find true store.root = .ok (top, .directory))
    (isShard : IsName shard)
    (isName : IsName name) :
    ∃ remaining, ∀ followsLast, disk.follow followsLast maxLinks []
        (steps (Path.child (Path.child store.root shard) name)) =
      disk.follow followsLast remaining top [shard, name] := by
  have isPath := (isFollowed_of_find isTop).nonempty
  obtain ⟨remaining, continues⟩ := exists_follow_child isTop
  refine ⟨remaining, fun followsLast => ?_⟩
  rw [Path.steps_child (Path.child_ne_empty isPath isShard) isName,
    Path.names_child isPath isShard, List.append_assoc]
  exact continues followsLast [shard, name] (by simp)

/-- What can be removed by the path of an entry is the entry's file. -/
theorem isRemovable_iff_of_noLinks
    (isTop : disk.find true store.root = .ok (top, .directory))
    (noLinks : HasNoLinks disk top)
    (isShard : IsName shard)
    (isName : IsName name) :
    IsRemovable disk (Path.child (Path.child store.root shard) name) place content ↔
      place = top ++ [shard, name] ∧ IsEntryFile store disk top shard name content := by
  obtain ⟨remaining, leadsThere⟩ := exists_follow_entry isTop isShard isName
  constructor
  · intro removable
    obtain ⟨node, named⟩ := removable.named
    obtain ⟨target, modified, found⟩ := removable.exists_find
    have leads := follow_of_find found
    have names := follow_of_find named
    rw [leadsThere] at leads names
    obtain ⟨inShard, isFile⟩ := exists_file_of_follow noLinks isShard isName leads
    rw [follow_file_in_shard isShard isName inShard isFile] at names
    exact ⟨(Destination.found.inj (Except.ok.inj names)).1.symm, inShard, ⟨modified, isFile⟩,
      (isFollowed_of_find found).short⟩
  · rintro ⟨rfl, inShard, ⟨modified, isFile⟩, fits⟩
    have isPath := (isFollowed_of_find isTop).nonempty
    have isShardPath := Path.child_ne_empty isPath isShard
    have shardFits : (Path.child store.root shard).utf8ByteSize ≤ maxPathLength := by
      rw [Path.utf8ByteSize_child isShardPath isName] at fits
      omega
    have followed := ((isFollowed_of_find isTop).child isShard shardFits).child isName fits
    have found : ∀ followsLast,
        disk.find followsLast (Path.child (Path.child store.root shard) name) =
          .ok (top ++ [shard, name], .file content modified) := by
      intro followsLast
      apply find_of_follow followed
      rw [leadsThere, follow_file_in_shard isShard isName inShard isFile]
    exact ⟨⟨_, found false⟩, by rw [Disk.read, found true]⟩

/-- What is found where names lead. -/
def foundBy : Except OsError Destination → Except OsError (Place × Node)
  | .error error => .error error
  | .ok (.found place node) => .ok (place, node)
  | .ok (.vacant _) => .error .noSuchFile

theorem find_eq_foundBy
    {path : String}
    (followed : IsFollowed path)
    (disk : Disk)
    (followsLast : Bool) :
    disk.find followsLast path = foundBy (disk.follow followsLast maxLinks [] (steps path)) := by
  rw [find, destination_of_isFollowed followed]
  rcases disk.follow followsLast maxLinks [] (steps path) with error | ⟨place, node⟩ | place <;> rfl

/-- Without links, reading an entry fails the same after a purge as before. -/
theorem Removes.read_error
    {now : Instant}
    {paths : List String}
    {removed : List Place}
    {after : Disk}
    {error : OsError}
    (removes : Removes (store.isStale now) disk paths removed after)
    (isTop : disk.find true store.root = .ok (top, .directory))
    (noLinks : HasNoLinks disk top)
    (isShard : IsName shard)
    (isName : IsName name)
    (noShard : top ++ [shard] ∉ removed)
    (fails : disk.read (Path.child (Path.child store.root shard) name) = .error error) :
    after.read (Path.child (Path.child store.root shard) name) = .error error := by
  have isStep : IsStep shard := ⟨isShard.notHere, isShard.notAbove, isShard.short⟩
  have isStepToo : IsStep name := ⟨isName.notHere, isName.notAbove, isName.short⟩
  have ofMissing : disk.read (Path.child (Path.child store.root shard) name) =
      .error .noSuchFile →
        after.read (Path.child (Path.child store.root shard) name) = .error error := by
    intro missing
    obtain rfl : error = .noSuchFile := Except.error.inj (fails.symm.trans missing)
    rcases removes.reads (Path.child (Path.child store.root shard) name) with
      same | ⟨nothing, _⟩
    · exact same.trans missing
    · exact nothing
  rcases isFollowed_or (Path.child (Path.child store.root shard) name) with followed | ⟨other, lost⟩
  · obtain ⟨remaining, leads⟩ := exists_follow_entry isTop isShard isName
    have before := find_eq_foundBy followed disk true
    rw [leads] at before
    cases isThere : disk.node? (top ++ [shard]) with
    | none =>
        rw [follow_step_absent isStep isThere] at before
        exact ofMissing (by rw [Disk.read, before]; rfl)
    | some node =>
        cases node with
        | link target =>
            exact absurd isThere (noLinks [shard] target)
        | file content modified =>
            -- What is no directory fails the same as long as it is there.
            obtain ⟨others, leadsAfter⟩ :=
              exists_follow_entry (removes.directories _ top isTop) isShard isName
            have stillThere : after.node? (top ++ [shard]) = some (.file content modified) := by
              rw [removes.rest, node?_eraseAll_of_not_mem disk noShard, isThere]
            have afterwards := find_eq_foundBy followed after true
            rw [leadsAfter, follow_step_file isStep stillThere] at afterwards
            rw [follow_step_file isStep isThere] at before
            rw [Disk.read, before] at fails
            rw [Disk.read, afterwards]
            exact fails
        | directory =>
            rw [follow_directory isShard.notHere isShard.notAbove isShard.short isThere] at before
            cases isLast : disk.node? (top ++ [shard] ++ [name]) with
            | none =>
                rw [follow_step_absent isStepToo isLast] at before
                exact ofMissing (by rw [Disk.read, before]; rfl)
            | some node =>
                cases node with
                | link target =>
                    refine absurd isLast ?_
                    rw [List.append_assoc]
                    exact noLinks ([shard] ++ [name]) target
                | file content modified =>
                    rw [follow_step_file isStepToo isLast] at before
                    rw [Disk.read, before] at fails
                    exact absurd fails (by simp [foundBy])
                | directory =>
                    rw [follow_directory isName.notHere isName.notAbove isName.short isLast,
                      follow] at before
                    rw [Disk.read, before] at fails
                    rw [Disk.read, removes.directories _ _ before]
                    exact fails
  · rw [Disk.read, find, lost] at fails ⊢
    exact fails

end Plain

/-! ## Purging -/

section Purges

variable {store : Store} {disk after : Disk} {now : Instant} {count : Nat}

/-- What a purge does to a tree, and what look-ups notice of it. -/
structure IsPurged
    (store : Store)
    (disk : Disk)
    (now : Instant)
    (count : Nat)
    (after : Disk)
    (removed : List Place) : Prop where
  counted : count = removed.length
  distinct : removed.Nodup
  /-- Nothing else changes. -/
  rest : after = eraseAll disk removed
  /-- What is removed is named like an entry in a shard, and a stale content is read by its path. -/
  stale : ∀ place ∈ removed, ∃ path content, store.IsEntryPath path ∧
    IsRemovable disk path place content ∧ store.isStale now content = true
  /-- A file that is named like an entry in a shard is removed if it is stale. -/
  files : ∀ path place content modified, store.IsEntryPath path →
    disk.find false path = .ok (place, .file content modified) →
      (place ∈ removed ↔ store.isStale now content = true)
  /-- A link that leads to a stale file is removed, or leads nowhere any more. -/
  links : ∀ path place content, store.IsEntryPath path →
    IsRemovable disk path place content → store.isStale now content = true →
      place ∈ removed ∨ after.read path = .error .noSuchFile
  /-- Look-ups come to the same, or find nothing where they failed. -/
  gets : ∀ key later, later.before now = false →
    (store.get after key later).1 = (store.get disk key later).1 ∨
      ((∃ error, (store.get disk key later).1 = .error (.io error)) ∧
        (store.get after key later).1 = .ok none)
  /-- In a directory without links exactly the stale files of entries are removed. -/
  filesOfPlain : ∀ top, disk.find true store.root = .ok (top, .directory) →
    HasNoLinks disk top → ∀ place, place ∈ removed ↔
      ∃ shard name content, store.isShardName shard = true ∧ isEntryName name = true ∧
        place = top ++ [shard, name] ∧ IsEntryFile store disk top shard name content ∧
        store.isStale now content = true
  /-- In a directory without links all look-ups come to the same. -/
  getsOfPlain : ∀ top, disk.find true store.root = .ok (top, .directory) →
    HasNoLinks disk top → ∀ key later, later.before now = false →
      (store.get after key later).1 = (store.get disk key later).1

theorem Store.entryFiles_of_purge
    (purges : store.purge disk now = (.ok count, after)) :
    ∃ files, store.entryFiles disk = .ok files ∧
      store.purgeFiles now 0 disk files = (.ok count, after) := by
  rw [Store.purge] at purges
  cases listed : store.entryFiles disk with
  | error error =>
      rw [listed] at purges
      simp at purges
  | ok files =>
      rw [listed] at purges
      dsimp only at purges
      refine ⟨files, rfl, ?_⟩
      split at purges
      · simp at purges
      · rename_i removes
        obtain ⟨sameCount, rfl⟩ := Prod.mk.inj purges
        rw [removes, Except.ok.inj sameCount]

/-- The paths of entries that are read are purged. -/
structure PurgesAll
    (store : Store)
    (disk : Disk)
    (now : Instant)
    (files : List String)
    (after : Disk)
    (removed : List Place) : Prop where
  hasShards : store.HasShards
  listed : store.entryFiles disk = .ok files
  removes : Removes (store.isStale now) disk files removed after

namespace PurgesAll

variable {files : List String} {removed : List Place} {place top : Place} {path : String}
  {content : Bytes} {modified later : Instant}

theorem mem_files
    (purges : PurgesAll store disk now files after removed) :
    path ∈ files ↔ store.IsEntryPath path ∧ ∃ content, disk.read path = .ok content :=
  mem_entryFiles purges.hasShards purges.listed

theorem stale
    (purges : PurgesAll store disk now files after removed)
    (member : place ∈ removed) :
    ∃ path content, store.IsEntryPath path ∧ IsRemovable disk path place content ∧
      store.isStale now content = true := by
  obtain ⟨path, isFile, content, removable, isStale⟩ := purges.removes.unwanted place member
  exact ⟨path, content, (purges.mem_files.mp isFile).1, removable, isStale⟩

theorem mem_removed_iff
    (purges : PurgesAll store disk now files after removed)
    (isEntryPath : store.IsEntryPath path)
    (named : disk.find false path = .ok (place, .file content modified)) :
    place ∈ removed ↔ store.isStale now content = true := by
  have reads := read_of_find_file named
  constructor
  · intro member
    obtain ⟨other, found, _, removable, isStale⟩ := purges.stale member
    obtain ⟨node, isThere, otherNamed⟩ := removable.exists_node
    have here := IsRemovable.mk ⟨_, named⟩ reads
    obtain ⟨file, isFile, sameNamed⟩ := here.exists_node
    -- Both paths name what is at the place, so the same content is read by both.
    obtain rfl : node = file := Option.some.inj (isThere.symm.trans isFile)
    rw [named] at sameNamed
    obtain ⟨_, rfl⟩ := Prod.mk.inj (Except.ok.inj sameNamed)
    have sameContent := removable.reads
    rw [read_of_find_file otherNamed] at sameContent
    rwa [Except.ok.inj sameContent]
  · exact purges.removes.files path (purges.mem_files.mpr ⟨isEntryPath, content, reads⟩) place
      content modified named

theorem get_cases
    (purges : PurgesAll store disk now files after removed)
    (isLater : later.before now = false)
    (key : Key) :
    (store.get after key later).1 = (store.get disk key later).1 ∨
      ((∃ error, (store.get disk key later).1 = .error (.io error)) ∧
        (store.get after key later).1 = .ok none) := by
  rcases (purges.removes.reads (store.entryPath key)).get_cases isLater with
    same | ⟨⟨error, fails⟩, nothing⟩
  · exact .inl same
  · unfold Store.get Store.lookup at nothing ⊢
    rw [fails]
    cases error with
    | noSuchFile =>
        exact .inl nothing
    | _ =>
        exact .inr ⟨⟨_, rfl⟩, nothing⟩

theorem mem_removed_iff_of_noLinks
    (purges : PurgesAll store disk now files after removed)
    (isTop : disk.find true store.root = .ok (top, .directory))
    (noLinks : HasNoLinks disk top) :
    place ∈ removed ↔
      ∃ shard name content, store.isShardName shard = true ∧ isEntryName name = true ∧
        place = top ++ [shard, name] ∧ IsEntryFile store disk top shard name content ∧
        store.isStale now content = true := by
  constructor
  · intro member
    obtain ⟨path, content, ⟨shard, name, isShard, isEntry, rfl⟩, removable, isStale⟩ :=
      purges.stale member
    obtain ⟨isPlace, isFile⟩ := (isRemovable_iff_of_noLinks isTop noLinks
      (purges.hasShards.isName isShard) (isName_of_isEntryName isEntry)).mp removable
    exact ⟨shard, name, content, isShard, isEntry, isPlace, isFile, isStale⟩
  · rintro ⟨shard, name, content, isShard, isEntry, isPlace, isFile, isStale⟩
    have removable := (isRemovable_iff_of_noLinks isTop noLinks
      (purges.hasShards.isName isShard) (isName_of_isEntryName isEntry)).mpr ⟨isPlace, isFile⟩
    obtain ⟨modified, isThere⟩ := isFile.isFile
    obtain ⟨node, isNode, named⟩ := removable.exists_node
    rw [isPlace, isThere] at isNode
    obtain rfl := Option.some.inj isNode
    exact (purges.mem_removed_iff ⟨shard, name, isShard, isEntry, rfl⟩ named).mpr isStale

theorem get_eq_of_noLinks
    (purges : PurgesAll store disk now files after removed)
    (isTop : disk.find true store.root = .ok (top, .directory))
    (noLinks : HasNoLinks disk top)
    (isLater : later.before now = false)
    (key : Key) :
    (store.get after key later).1 = (store.get disk key later).1 := by
  rcases (purges.removes.reads (store.entryPath key)).get_cases isLater with
    same | ⟨⟨error, fails⟩, _⟩
  · exact same
  · have noShard : top ++ [shardOf store.shardDigits key] ∉ removed := by
      intro member
      obtain ⟨shard, name, _, _, _, isPlace, _⟩ :=
        (purges.mem_removed_iff_of_noLinks isTop noLinks).mp member
      simpa using congrArg List.length isPlace
    have failsAfter := purges.removes.read_error isTop noLinks
      (isName_shardOf purges.hasShards.1 key) (isName_entryName key) noShard fails
    unfold Store.get Store.lookup
    rw [fails, Store.entryPath, Store.shardPath, failsAfter]

end PurgesAll

/-- A purge that succeeds is not noticed, except by look-ups that failed before it. -/
theorem Store.purge_isPurged
    (hasShards : store.HasShards)
    (succeeds : store.purge disk now = (.ok count, after)) :
    ∃ removed, IsPurged store disk now count after removed := by
  obtain ⟨files, listed, purgesFiles⟩ := Store.entryFiles_of_purge succeeds
  obtain ⟨removed, counted, removes⟩ := Store.purgeFiles_removesStale purgesFiles
  have purges : PurgesAll store disk now files after removed := ⟨hasShards, listed, removes⟩
  exact ⟨removed, {
    counted := by rw [counted, Nat.zero_add]
    distinct := removes.distinct
    rest := removes.rest
    stale := fun _ member => purges.stale member
    files := fun _ _ _ _ isEntryPath named => purges.mem_removed_iff isEntryPath named
    links := fun path place content isEntryPath removable isStale =>
      removes.links path (purges.mem_files.mpr ⟨isEntryPath, content, removable.reads⟩) place
        content removable isStale
    gets := fun key _ isLater => purges.get_cases isLater key
    filesOfPlain := fun _ isTop noLinks _ => purges.mem_removed_iff_of_noLinks isTop noLinks
    getsOfPlain := fun _ isTop noLinks key _ isLater =>
      purges.get_eq_of_noLinks isTop noLinks isLater key }⟩

end Purges

/-! ## Links in a shard -/

/-- A key of one shard. -/
def shardKey (byte : UInt8) : Key := ⟨0xab :: List.replicate 31 byte, rfl⟩

/-- A store with a file that is no entry, a link behind it and a link to another file. -/
def linkedStore : Store := { root := "cache", shardDigits := 2, schemaVersion := "1" }

def linkedDisk : Disk where
  entries := [(["junk"], .file [255] {}), (["cache"], .directory), (["cache", "ab"], .directory),
    (["cache", "ab", entryName (shardKey 0)], .file [255] {}),
    (["cache", "ab", entryName (shardKey 1)], .link (entryName (shardKey 0) ++ "/x")),
    (["cache", "ab", entryName (shardKey 2)], .link "../../junk")]

/-- The tree once the stale content is removed. -/
def purgedDisk : Disk :=
  (linkedDisk.erase ["cache", "ab", entryName (shardKey 0)]).erase
    ["cache", "ab", entryName (shardKey 2)]

/-- A path in the shard is followed from the shard, whatever is in it. -/
theorem find_in_linkedShard
    {tree : Disk}
    (isTop : tree.node? ["cache"] = some .directory)
    (isShard : tree.node? ["cache", "ab"] = some .directory)
    (byte : UInt8)
    (inShard : shardOf 2 (shardKey byte) = "ab")
    (followsLast : Bool) :
    tree.find followsLast (linkedStore.entryPath (shardKey byte)) =
      foundBy (tree.follow followsLast maxLinks ["cache", "ab"] [entryName (shardKey byte)]) := by
  have isCache : IsName "cache" := by decide
  have isAb : IsName "ab" := by decide
  have isEntry := isName_entryName (shardKey byte)
  have path : linkedStore.entryPath (shardKey byte) =
      Path.child (Path.child "cache" "ab") (entryName (shardKey byte)) := by
    rw [Store.entryPath, Store.shardPath, ← inShard]
    rfl
  have fits : (Path.child (Path.child "cache" "ab") (entryName (shardKey byte))).utf8ByteSize ≤
      maxPathLength := by
    rw [Path.utf8ByteSize_child (by decide) isEntry]
    have short := isEntry.short
    have outer : (Path.child "cache" "ab").utf8ByteSize = 8 := by decide
    simp only [maxNameLength, maxPathLength] at *
    split <;> omega
  have followed : IsFollowed (Path.child (Path.child "cache" "ab") (entryName (shardKey byte))) :=
    (isCache.isFollowed.child isAb (by decide)).child isEntry fits
  rw [path, find_eq_foundBy followed, Path.steps_child (by decide) isEntry]
  have names : Path.names (Path.child "cache" "ab") = ["cache", "ab"] := by decide
  rw [names, List.cons_append,
    follow_directory isCache.notHere isCache.notAbove isCache.short isTop, List.cons_append,
    follow_directory isAb.notHere isAb.notAbove isAb.short isShard]
  rfl

theorem find_file :
    linkedDisk.find true (linkedStore.entryPath (shardKey 0)) =
        .ok (["cache", "ab", entryName (shardKey 0)], .file [255] {}) ∧
      linkedDisk.find false (linkedStore.entryPath (shardKey 0)) =
        .ok (["cache", "ab", entryName (shardKey 0)], .file [255] {}) := by
  have isFile : linkedDisk.node? (["cache", "ab"] ++ [entryName (shardKey 0)]) =
      some (.file [255] {}) := by decide
  constructor <;>
    rw [find_in_linkedShard rfl rfl 0 (by decide), follow_file (isName_entryName _) isFile] <;>
    rfl

theorem find_linkOut
    (tree : Disk)
    (isTop : tree.node? ["cache"] = some .directory)
    (isShard : tree.node? ["cache", "ab"] = some .directory)
    (isLink : tree.node? ["cache", "ab", entryName (shardKey 2)] = some (.link "../../junk"))
    (isJunk : tree.node? ["junk"] = some (.file [255] {})) :
    tree.find true (linkedStore.entryPath (shardKey 2)) = .ok (["junk"], .file [255] {}) ∧
      tree.find false (linkedStore.entryPath (shardKey 2)) =
        .ok (["cache", "ab", entryName (shardKey 2)], .link "../../junk") := by
  have isEntry := isName_entryName (shardKey 2)
  have isStep : IsStep (entryName (shardKey 2)) :=
    ⟨isEntry.notHere, isEntry.notAbove, isEntry.short⟩
  have out : steps "../../junk" ++ [] = ["..", "..", "junk"] := by decide
  constructor
  · rw [find_in_linkedShard isTop isShard 2 (by decide), maxLinks, follow_link isEntry.notHere
      isEntry.notAbove isEntry.short isLink (by decide) (.inr rfl), out, follow_above, follow_above,
      follow_file (by decide) isJunk]
    rfl
  · rw [find_in_linkedShard isTop isShard 2 (by decide), follow_step_link isStep isLink]
    rfl

theorem find_behindFile :
    linkedDisk.find true (linkedStore.entryPath (shardKey 1)) = .error .notDirectory := by
  have isEntry := isName_entryName (shardKey 1)
  have isEntryToo := isName_entryName (shardKey 0)
  have isStep : IsStep (entryName (shardKey 0)) :=
    ⟨isEntryToo.notHere, isEntryToo.notAbove, isEntryToo.short⟩
  have isLink : linkedDisk.node? (["cache", "ab"] ++ [entryName (shardKey 1)]) =
      some (.link (entryName (shardKey 0) ++ "/x")) := by decide
  have isFile : linkedDisk.node? (["cache", "ab"] ++ [entryName (shardKey 0)]) =
      some (.file [255] {}) := by decide
  have out : steps (entryName (shardKey 0) ++ "/x") ++ [] = [entryName (shardKey 0), "x"] := by
    decide
  rw [find_in_linkedShard rfl rfl 1 (by decide), maxLinks, follow_link isEntry.notHere
    isEntry.notAbove isEntry.short isLink (by decide) (.inr rfl), out,
    follow_step_file isStep isFile]
  rfl

theorem find_behindNothing
    (tree : Disk)
    (isTop : tree.node? ["cache"] = some .directory)
    (isShard : tree.node? ["cache", "ab"] = some .directory)
    (isLink : tree.node? ["cache", "ab", entryName (shardKey 1)] =
      some (.link (entryName (shardKey 0) ++ "/x")))
    (isGone : tree.node? ["cache", "ab", entryName (shardKey 0)] = none) :
    tree.find true (linkedStore.entryPath (shardKey 1)) = .error .noSuchFile := by
  have isEntry := isName_entryName (shardKey 1)
  have out : steps (entryName (shardKey 0) ++ "/x") ++ [] = [entryName (shardKey 0), "x"] := by
    decide
  rw [find_in_linkedShard isTop isShard 1 (by decide), maxLinks,
    follow_link isEntry.notHere isEntry.notAbove isEntry.short isLink (by decide) (.inr rfl), out,
    follow_missing (isName_entryName (shardKey 0)) isGone (by simp)]
  rfl

theorem find_linkedShard :
    linkedDisk.find true (Path.child "cache" "ab") = .ok (["cache", "ab"], .directory) := by
  have isCache : IsName "cache" := by decide
  have isAb : IsName "ab" := by decide
  have names : steps (Path.child "cache" "ab") = ["cache", "ab"] := by decide
  apply find_of_follow (isCache.isFollowed.child isAb (by decide))
  rw [names, follow_directory isCache.notHere isCache.notAbove isCache.short rfl,
    follow_directory isAb.notHere isAb.notAbove isAb.short rfl, follow]
  rfl

theorem shards_linkedDisk : linkedStore.shards linkedDisk = .ok [Path.child "cache" "ab"] := by
  have isTop : linkedDisk.find true linkedStore.root = .ok (["cache"], .directory) :=
    find_top (by decide) rfl
  have inTop : linkedDisk.children ["cache"] = [("ab", .directory)] := by decide
  have isDirectory : linkedDisk.isDirectory (Path.child "cache" "ab") = true := by
    rw [Disk.isDirectory, find_linkedShard]
  rw [Store.shards, readDirectory, isTop]
  dsimp only
  rw [inTop]
  change Except.ok (List.filter linkedDisk.isDirectory [Path.child "cache" "ab"]) = _
  rw [List.filter_cons, isDirectory]
  rfl

theorem pathsNamed_linkedDisk
    {isWanted : String → Bool}
    (wanted : ∀ key, isWanted (entryName key) = true) :
    Store.pathsNamed linkedDisk (Path.child "cache" "ab") isWanted =
      .ok [linkedStore.entryPath (shardKey 0), linkedStore.entryPath (shardKey 1),
        linkedStore.entryPath (shardKey 2)] := by
  have inShard : (linkedDisk.children ["cache", "ab"]).filter (fun child => isWanted child.1) =
      linkedDisk.children ["cache", "ab"] := by
    have allNames : (linkedDisk.children ["cache", "ab"]).map (·.1) =
        [entryName (shardKey 0), entryName (shardKey 1), entryName (shardKey 2)] := by decide
    rw [List.filter_eq_self]
    intro child isChild
    have isName := List.mem_map_of_mem (f := (·.1)) isChild
    rw [allNames] at isName
    simp only [List.mem_cons, List.not_mem_nil, or_false] at isName
    rcases isName with same | same | same <;> rw [same] <;> exact wanted _
  have paths : (linkedDisk.children ["cache", "ab"]).map
      (fun child => Path.child (Path.child "cache" "ab") child.1) =
        [linkedStore.entryPath (shardKey 0), linkedStore.entryPath (shardKey 1),
          linkedStore.entryPath (shardKey 2)] := by
    decide
  rw [Store.pathsNamed, readDirectory, find_linkedShard]
  change Except.ok (((linkedDisk.children ["cache", "ab"]).filter fun child =>
    isWanted child.1).map fun child => Path.child (Path.child "cache" "ab") child.1) = _
  rw [inShard, paths]

theorem filesNamed_linkedDisk :
    Store.filesNamed linkedDisk (Path.child "cache" "ab") isEntryName =
      .ok [linkedStore.entryPath (shardKey 0), linkedStore.entryPath (shardKey 2)] := by
  have outBefore := find_linkOut linkedDisk (by decide) (by decide) (by decide) (by decide)
  rw [Store.filesNamed, pathsNamed_linkedDisk isEntryName_entryName]
  change Except.ok (List.filter (Store.leadsToFile linkedDisk) _) = _
  simp only [List.filter_cons, Store.leadsToFile, find_file.1, find_behindFile, outBefore.1]
  rfl

theorem entryFiles_linkedDisk :
    linkedStore.entryFiles linkedDisk =
      .ok [linkedStore.entryPath (shardKey 0), linkedStore.entryPath (shardKey 2)] := by
  rw [Store.entryFiles, shards_linkedDisk]
  change (do
    let files ← [Path.child "cache" "ab"].mapM fun shard =>
      Store.filesNamed linkedDisk shard isEntryName
    return files.flatten) = _
  rw [List.mapM_cons, filesNamed_linkedDisk]
  rfl

theorem purge_linkedDisk : linkedStore.purge linkedDisk {} = (.ok 2, purgedDisk) := by
  have isStale : linkedStore.isStale {} [255] = true := by decide
  have outAfter := find_linkOut (linkedDisk.erase ["cache", "ab", entryName (shardKey 0)])
    (by decide) (by decide) (by decide) (by decide)
  rw [Store.purge, entryFiles_linkedDisk]
  dsimp only
  rw [Store.purgeFiles, Disk.read, find_file.1]
  dsimp only
  rw [isStale, if_pos rfl, removeFile, find_file.2]
  dsimp only
  rw [Store.purgeFiles, Disk.read, outAfter.1]
  dsimp only
  rw [isStale, if_pos rfl, removeFile, outAfter.2]
  rfl

/-- A purge can remove a link, and a look-up that failed before it can find nothing after it. -/
theorem Store.purge_linkedDisk_isNoticed :
    linkedStore.purge linkedDisk {} = (.ok 2, purgedDisk) ∧
      linkedDisk.node? ["cache", "ab", entryName (shardKey 2)] = some (.link "../../junk") ∧
      purgedDisk.node? ["cache", "ab", entryName (shardKey 2)] = none ∧
      (linkedStore.get linkedDisk (shardKey 1) {}).1 = .error (.io .notDirectory) ∧
      (linkedStore.get purgedDisk (shardKey 1) {}).1 = .ok none := by
  have findsNothing := find_behindNothing purgedDisk (by decide) (by decide) (by decide) (by decide)
  refine ⟨purge_linkedDisk, by decide, by decide, ?_, ?_⟩
  · unfold Store.get Store.lookup
    rw [Disk.read, find_behindFile]
  · unfold Store.get Store.lookup
    rw [Disk.read, findsNothing]
    rfl

theorem Store.purge_isPurged_linkedDisk :
    ∃ removed, IsPurged linkedStore linkedDisk {} 2 purgedDisk removed :=
  Store.purge_isPurged ⟨by decide, by decide⟩ purge_linkedDisk

end SourceFacts.Cache
