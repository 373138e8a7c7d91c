import SourceFacts.Proofs.Cache.Changes

namespace SourceFacts.Cache

/-!
# Counting, purging and clearing

What is done with all entries of a store: they are listed shard by shard, so that
each is met once, and what is removed is gone from the contents. Nothing outside of the
directory of the store changes.
-/

open Disk Text Time

variable {store : Store} {disk tree : Disk} {place : Place} {contents : Contents} {key : Key}

/-! ## Listing -/

/-- A list of images is the image of a list. -/
theorem exists_map_eq
    {make : α → β}
    {items : List β}
    (isImage : ∀ item ∈ items, ∃ source, make source = item) :
    ∃ sources : List α, sources.map make = items := by
  induction items with
  | nil =>
      exact ⟨[], rfl⟩
  | cons item rest inductionHypothesis =>
      obtain ⟨first, isFirst⟩ := isImage item List.mem_cons_self
      obtain ⟨others, areOthers⟩ :=
        inductionHypothesis fun other member => isImage other (List.mem_cons_of_mem _ member)
      exact ⟨first :: others, by rw [List.map_cons, isFirst, areOthers]⟩

/-- A list is without repetitions if its image is. -/
theorem nodup_of_map
    {make : α → β}
    {sources : List α}
    (distinct : (sources.map make).Nodup) :
    sources.Nodup :=
  List.Pairwise.of_map make (fun _ _ differ same => differ (congrArg make same)) distinct

/-- The path of a shard is the path of a directory. -/
theorem isDirectory_shardPath
    (ready : Ready store disk place)
    (isShown : Shows store (disk.sub place) contents)
    (isShard : (shardPlace store key, .directory) ∈ (disk.sub place).entries) :
    disk.node? (place ++ shardPlace store key) = some .directory ∧
      disk.isDirectory (store.shardPath key) = true := by
  have isDirectory : disk.node? (place ++ shardPlace store key) = some .directory := by
    rw [node?_append_shardPlace]
    exact (isShown.distinct.node?_eq_some (by simp [shardPlace])).mpr isShard
  refine ⟨isDirectory, ?_⟩
  rw [Disk.isDirectory, (ready.shard_reaches isDirectory).find_eq]

/-- The shards of a store are listed once each, each by one of its keys. -/
theorem exists_shards
    (ready : Ready store disk place)
    (isShown : Shows store (disk.sub place) contents) :
    ∃ keys : List Key, store.shards disk = .ok (keys.map store.shardPath) ∧
      (keys.map (shardOf store.shardDigits)).Nodup ∧
      ∀ key, (shardPlace store key, .directory) ∈ (disk.sub place).entries ↔
        shardOf store.shardDigits key ∈ keys.map (shardOf store.shardDigits) := by
  have isListed : disk.children place = (disk.sub place).children [] := by
    rw [children_sub, List.append_nil]
  obtain ⟨keys, names⟩ : ∃ keys : List Key,
      keys.map (shardOf store.shardDigits) = ((disk.sub place).children []).map (·.1) := by
    apply exists_map_eq
    intro name member
    obtain ⟨⟨_, node⟩, isChild, rfl⟩ := List.mem_map.mp member
    obtain ⟨⟨key, isShard⟩, _⟩ := isShown.known_shard (mem_children.mp isChild)
    exact ⟨key, isShard.symm⟩
  have isShard : ∀ key, (shardPlace store key, .directory) ∈ (disk.sub place).entries ↔
      shardOf store.shardDigits key ∈ keys.map (shardOf store.shardDigits) := by
    intro key
    rw [names, List.mem_map]
    constructor
    · intro member
      exact ⟨(shardOf store.shardDigits key, .directory), mem_children.mpr member, rfl⟩
    · rintro ⟨⟨_, node⟩, isChild, rfl⟩
      have member := mem_children.mp isChild
      obtain ⟨_, rfl⟩ := isShown.known_shard member
      exact member
  refine ⟨keys, ?_, ?_, isShard⟩
  · have allShards :
        ((disk.sub place).children []).filter (fun child => store.isShardName child.1) =
          (disk.sub place).children [] := by
      rw [List.filter_eq_self]
      rintro ⟨name, node⟩ isChild
      obtain ⟨⟨key, rfl⟩, _⟩ := isShown.known_shard (mem_children.mp isChild)
      exact isShardName_shardOf ready.digits.2 key
    have paths :
        ((disk.sub place).children []).map (fun child => Path.child store.root child.1) =
          keys.map store.shardPath := by
      have mapped := congrArg (List.map (Path.child store.root)) names
      rw [List.map_map, List.map_map] at mapped
      exact mapped.symm
    have allDirectories :
        (keys.map store.shardPath).filter disk.isDirectory = keys.map store.shardPath := by
      rw [List.filter_eq_self]
      intro path member
      obtain ⟨key, isKey, rfl⟩ := List.mem_map.mp member
      exact (isDirectory_shardPath ready isShown
        ((isShard key).mpr (List.mem_map_of_mem isKey))).2
    rw [Store.shards, ready.reaches.readDirectory_eq, isListed]
    change Except.ok
      (((((disk.sub place).children []).filter fun child => store.isShardName child.1).map
        fun child => Path.child store.root child.1).filter disk.isDirectory) = _
    rw [allShards, paths, allDirectories]
  · rw [names]
    exact isShown.distinct.children []

/-- The names in a shard are those of the files of its keys. -/
theorem exists_shardKeys
    (isShown : Shows store (disk.sub place) contents)
    (key : Key) :
    ∃ keys : List Key,
      keys.map entryName = ((disk.sub place).children (shardPlace store key)).map (·.1) ∧
        keys.Nodup ∧
        ∀ other, other ∈ keys ↔ (contents other).isSome ∧
          shardOf store.shardDigits other = shardOf store.shardDigits key := by
  have known : ∀ child ∈ (disk.sub place).children (shardPlace store key),
      ∃ other entry, shardOf store.shardDigits key = shardOf store.shardDigits other ∧
        child.1 = entryName other ∧ contents other = some entry ∧ IsFileOf entry child.2 :=
    fun _ isChild => isShown.known_in_shard (mem_children.mp isChild)
  obtain ⟨keys, names⟩ : ∃ keys : List Key,
      keys.map entryName = ((disk.sub place).children (shardPlace store key)).map (·.1) := by
    apply exists_map_eq
    intro name member
    obtain ⟨child, isChild, rfl⟩ := List.mem_map.mp member
    obtain ⟨other, _, _, isName, _⟩ := known child isChild
    exact ⟨other, isName.symm⟩
  have distinct : keys.Nodup :=
    nodup_of_map (names ▸ isShown.distinct.children (shardPlace store key))
  refine ⟨keys, names, distinct, ?_⟩
  intro other
  constructor
  · intro member
    have isName : entryName other ∈
        ((disk.sub place).children (shardPlace store key)).map (·.1) :=
      names ▸ List.mem_map_of_mem member
    obtain ⟨child, isChild, isOther⟩ := List.mem_map.mp isName
    obtain ⟨found, entry, sameShard, foundName, held, _⟩ := known child isChild
    obtain rfl := entryName_inj.mp (foundName.symm.trans isOther)
    exact ⟨by rw [held]; rfl, sameShard.symm⟩
  · rintro ⟨isHeld, sameShard⟩
    obtain ⟨entry, held⟩ := Option.isSome_iff_exists.mp isHeld
    obtain ⟨node, member, _⟩ := isShown.stored other entry held
    rw [entryPlace, sameShard] at member
    have isName : entryName other ∈ keys.map entryName := by
      rw [names]
      exact List.mem_map.mpr ⟨(entryName other, node), mem_children.mpr member, rfl⟩
    obtain ⟨same, isSame, sameName⟩ := List.mem_map.mp isName
    exact entryName_inj.mp sameName ▸ isSame

/-- What is in a shard is listed once each, each by its key. -/
theorem exists_pathsNamed
    (isWanted : String → Bool)
    (ready : Ready store disk place)
    (isShown : Shows store (disk.sub place) contents)
    (isShard : (shardPlace store key, .directory) ∈ (disk.sub place).entries)
    (wanted : ∀ key, isWanted (entryName key) = true) :
    ∃ keys : List Key,
      Store.pathsNamed disk (store.shardPath key) isWanted = .ok (keys.map store.entryPath) ∧
        keys.Nodup ∧
        ∀ other, other ∈ keys ↔ (contents other).isSome ∧
          shardOf store.shardDigits other = shardOf store.shardDigits key := by
  obtain ⟨keys, names, distinct, isKey⟩ := exists_shardKeys isShown key
  refine ⟨keys, ?_, distinct, isKey⟩
  have isDirectory := (isDirectory_shardPath ready isShown isShard).1
  have isListed : disk.children (place ++ shardPlace store key) =
      (disk.sub place).children (shardPlace store key) := by
    rw [children_sub]
  have allWanted :
      ((disk.sub place).children (shardPlace store key)).filter (fun child => isWanted child.1) =
        (disk.sub place).children (shardPlace store key) := by
    rw [List.filter_eq_self]
    intro child isChild
    have isName : child.1 ∈ keys.map entryName := names ▸ List.mem_map_of_mem isChild
    obtain ⟨other, _, same⟩ := List.mem_map.mp isName
    rw [← same]
    exact wanted other
  have paths :
      ((disk.sub place).children (shardPlace store key)).map
          (fun child => Path.child (store.shardPath key) child.1) =
        keys.map store.entryPath := by
    have mapped := congrArg (List.map (Path.child (store.shardPath key))) names
    rw [List.map_map, List.map_map] at mapped
    refine Eq.trans mapped.symm (List.map_congr_left ?_)
    intro other member
    have sameShard := ((isKey other).mp member).2
    simp [Store.entryPath, Store.shardPath, sameShard]
  rw [Store.pathsNamed, (ready.shard_reaches isDirectory).readDirectory_eq, isListed]
  change Except.ok
    ((((disk.sub place).children (shardPlace store key)).filter fun child =>
      isWanted child.1).map fun child => Path.child (store.shardPath key) child.1) = _
  rw [allWanted, paths]

/-- The path of an entry leads to its file. -/
theorem leadsToFile_entryPath
    (ready : Ready store disk place)
    (isShown : Shows store (disk.sub place) contents)
    (isHeld : (contents key).isSome) :
    Store.leadsToFile disk (store.entryPath key) = true := by
  obtain ⟨entry, held⟩ := Option.isSome_iff_exists.mp isHeld
  obtain ⟨reaches, modified, isFile⟩ := reaches_entry ready isShown held
  rw [Store.leadsToFile, find, Store.entryPath, reaches.destination_file (isName_entryName key)
    (ready.entryFits key) isFile]

/-- The files of a shard are listed once each, each by its key. -/
theorem exists_filesNamed
    (isWanted : String → Bool)
    (ready : Ready store disk place)
    (isShown : Shows store (disk.sub place) contents)
    (isShard : (shardPlace store key, .directory) ∈ (disk.sub place).entries)
    (wanted : ∀ key, isWanted (entryName key) = true) :
    ∃ keys : List Key,
      Store.filesNamed disk (store.shardPath key) isWanted = .ok (keys.map store.entryPath) ∧
        keys.Nodup ∧
        ∀ other, other ∈ keys ↔ (contents other).isSome ∧
          shardOf store.shardDigits other = shardOf store.shardDigits key := by
  obtain ⟨keys, listed, distinct, isKey⟩ :=
    exists_pathsNamed isWanted ready isShown isShard wanted
  refine ⟨keys, ?_, distinct, isKey⟩
  rw [Store.filesNamed, listed]
  change Except.ok ((keys.map store.entryPath).filter (Store.leadsToFile disk)) = _
  rw [Except.ok.injEq, List.filter_eq_self]
  intro path member
  obtain ⟨other, isOther, rfl⟩ := List.mem_map.mp member
  exact leadsToFile_entryPath ready isShown ((isKey other).mp isOther).1

/-! ## Counting -/

/-- The files of some shards are listed once each, each by its key. -/
theorem exists_files_of_shards
    (ready : Ready store disk place)
    (isShown : Shows store (disk.sub place) contents)
    {shards : List Key}
    (areShards : ∀ shard ∈ shards, (shardPlace store shard, .directory) ∈ (disk.sub place).entries)
    (distinct : (shards.map (shardOf store.shardDigits)).Nodup) :
    ∃ (files : List (List String)) (keys : List Key),
      (shards.map store.shardPath).mapM (fun shard => Store.filesNamed disk shard isEntryName) =
        .ok files ∧
        files.flatten = keys.map store.entryPath ∧ keys.Nodup ∧
        ∀ key, key ∈ keys ↔ (contents key).isSome ∧
          shardOf store.shardDigits key ∈ shards.map (shardOf store.shardDigits) := by
  induction shards with
  | nil =>
      exact ⟨[], [], rfl, rfl, List.nodup_nil, by simp⟩
  | cons shard rest inductionHypothesis =>
      rw [List.map_cons, List.nodup_cons] at distinct
      obtain ⟨files, keys, listed, flat, keysDistinct, isKey⟩ :=
        inductionHypothesis (fun other member => areShards other (List.mem_cons_of_mem _ member))
          distinct.2
      obtain ⟨shardKeys, shardListed, shardDistinct, isShardKey⟩ :=
        exists_filesNamed isEntryName ready isShown (areShards shard List.mem_cons_self)
          isEntryName_entryName
      refine ⟨shardKeys.map store.entryPath :: files, shardKeys ++ keys, ?_, ?_, ?_, ?_⟩
      · rw [List.map_cons, List.mapM_cons, shardListed, listed]
        rfl
      · rw [List.flatten_cons, flat, List.map_append]
      · rw [List.nodup_append]
        refine ⟨shardDistinct, keysDistinct, ?_⟩
        rintro key inShard other inRest rfl
        have sameShard := ((isShardKey key).mp inShard).2
        have restShard := ((isKey key).mp inRest).2
        exact distinct.1 (sameShard ▸ restShard)
      · intro key
        rw [List.mem_append, isShardKey, isKey, List.map_cons, List.mem_cons, and_or_left]

/-- The files of entries are listed once each, each by its key. -/
theorem exists_entryFiles
    (ready : Ready store disk place)
    (isShown : Shows store (disk.sub place) contents) :
    ∃ keys : List Key, store.entryFiles disk = .ok (keys.map store.entryPath) ∧ keys.Nodup ∧
      ∀ key, key ∈ keys ↔ (contents key).isSome := by
  obtain ⟨shards, shardsListed, distinct, isShard⟩ := exists_shards ready isShown
  obtain ⟨files, keys, listed, flat, keysDistinct, isKey⟩ :=
    exists_files_of_shards ready isShown
      (fun shard member => (isShard shard).mpr (List.mem_map_of_mem member)) distinct
  refine ⟨keys, ?_, keysDistinct, ?_⟩
  · rw [Store.entryFiles, shardsListed]
    change (do
      let files ← (shards.map store.shardPath).mapM fun shard =>
        Store.filesNamed disk shard isEntryName
      return files.flatten) = _
    rw [listed, ← flat]
    rfl
  · intro key
    rw [isKey]
    constructor
    · exact fun isHeld => isHeld.1
    · intro isHeld
      obtain ⟨entry, held⟩ := Option.isSome_iff_exists.mp isHeld
      exact ⟨isHeld, (isShard key).mp (isShown.sharded key entry held)⟩

/-- The number of entries is the number of keys with an entry. -/
theorem Store.count_spec
    (ready : Ready store disk place)
    (isShown : Shows store (disk.sub place) contents) :
    ∃ keys : List Key, keys.Nodup ∧ (∀ key, key ∈ keys ↔ (contents key).isSome) ∧
      store.count disk = .ok keys.length := by
  obtain ⟨keys, listed, distinct, isKey⟩ := exists_entryFiles ready isShown
  refine ⟨keys, distinct, isKey, ?_⟩
  unfold Store.count
  rw [listed]
  simp

/-! ## Purging -/

/-- The contents without the entries of some keys that are no longer fresh. -/
def Contents.purge (contents : Contents) (keys : List Key) (now : Instant) : Contents :=
  fun key =>
    if key ∈ keys then (contents key).filter fun entry => !entry.isExpiredAt now
    else contents key

/-- A fresh entry stays. -/
theorem Contents.purge_cons_of_fresh
    {entry : Entry}
    {rest : List Key}
    {now : Instant}
    (held : contents key = some entry)
    (fresh : entry.isExpiredAt now = false) :
    contents.purge (key :: rest) now = contents.purge rest now := by
  funext other
  by_cases same : other = key
  · subst other
    simp [Contents.purge, held, fresh, Option.filter_some]
  · simp [Contents.purge, same]

/-- An entry that is no longer fresh goes. -/
theorem Contents.purge_cons_of_expired
    {entry : Entry}
    {rest : List Key}
    {now : Instant}
    (held : contents key = some entry)
    (expired : entry.isExpiredAt now = true) :
    contents.purge (key :: rest) now = (contents.update key none).purge rest now := by
  funext other
  by_cases same : other = key
  · subst other
    simp [Contents.purge, Contents.update, held, expired, Option.filter_some]
  · simp [Contents.purge, Contents.update, same]

/-- Purging the entries of some keys succeeds and leaves those that are fresh. -/
theorem Store.purgeFiles_spec
    (now : Instant)
    {keys : List Key}
    (distinct : keys.Nodup)
    (removed : Nat)
    (ready : Ready store disk place)
    (isShown : Shows store (disk.sub place) contents)
    (areHeld : ∀ key ∈ keys, (contents key).isSome) :
    ∃ total changed,
      store.purgeFiles now removed disk (keys.map store.entryPath) = (.ok total, changed) ∧
        changed.prune place = disk.prune place ∧
        Shows store (changed.sub place) (contents.purge keys now) := by
  induction keys generalizing disk contents removed with
  | nil =>
      refine ⟨removed, disk, rfl, rfl, ?_⟩
      have unchanged : contents.purge [] now = contents := by
        funext key
        simp [Contents.purge]
      rwa [unchanged]
  | cons key rest inductionHypothesis =>
      rw [List.nodup_cons] at distinct
      obtain ⟨entry, held⟩ := Option.isSome_iff_exists.mp (areHeld key List.mem_cons_self)
      have isOf := isShown.valid key entry held
      have isRead := read_entry ready isShown held
      have staleness :
          store.isStale now (Store.encodeEntry entry) = entry.isExpiredAt now := by
        rw [Store.isStale, Store.decodeEntry?_encodeEntry isOf.storable]
        simp [isOf.schemaVersion]
      have restHeld : ∀ other ∈ rest, (contents other).isSome :=
        fun other member => areHeld other (List.mem_cons_of_mem key member)
      rw [List.map_cons, Store.purgeFiles, isRead]
      dsimp only
      rw [staleness]
      cases expired : entry.isExpiredAt now with
      | false =>
          rw [Contents.purge_cons_of_fresh held expired]
          exact inductionHypothesis distinct.2 removed ready isShown restHeld
      | true =>
          rw [Contents.purge_cons_of_expired held expired, removeFile_entry ready isShown held]
          have outside :
              (disk.erase (place ++ entryPlace store key)).prune place = disk.prune place :=
            prune_erase disk place (by simp [entryPlace])
          have changedShown :
              Shows store ((disk.erase (place ++ entryPlace store key)).sub place)
                (contents.update key none) := by
            rw [sub_erase disk place (by simp [entryPlace])]
            exact isShown.erase_entry key
          have stillHeld : ∀ other ∈ rest, (contents.update key none other).isSome := by
            intro other member
            have differs : other ≠ key := by
              rintro rfl
              exact distinct.1 member
            simpa [Contents.update, differs] using restHeld other member
          obtain ⟨total, changed, purged, lastOutside, lastShown⟩ :=
            inductionHypothesis distinct.2 (removed + 1) (ready.of_prune_eq outside) changedShown
              stillHeld
          exact ⟨total, changed, purged, lastOutside.trans outside, lastShown⟩

/-- Purging succeeds and leaves the entries that are fresh. -/
theorem Store.purge_spec
    (ready : Ready store disk place)
    (isShown : Shows store (disk.sub place) contents)
    (now : Instant) :
    ∃ total changed, store.purge disk now = (.ok total, changed) ∧
      changed.prune place = disk.prune place ∧
      Shows store (changed.sub place) fun key =>
        (contents key).filter fun entry => !entry.isExpiredAt now := by
  obtain ⟨keys, listed, distinct, isKey⟩ := exists_entryFiles ready isShown
  obtain ⟨total, changed, purged, outside, changedShown⟩ :=
    Store.purgeFiles_spec now distinct 0 ready isShown fun key member => (isKey key).mp member
  have allPurged :
      contents.purge keys now = fun key =>
        (contents key).filter fun entry => !entry.isExpiredAt now := by
    funext key
    rw [Contents.purge]
    split
    · rfl
    · rename_i notHeld
      rw [isKey, Bool.not_eq_true, Option.isSome_eq_false_iff, Option.isNone_iff_eq_none] at notHeld
      rw [notHeld]
      rfl
  rw [allPurged] at changedShown
  exact ⟨total, changed, by unfold Store.purge; simp [listed, purged], outside, changedShown⟩

/-! ## Clearing -/

/-- The contents without the entries of some keys. -/
def Contents.without (contents : Contents) (isGone : Key → Prop) [DecidablePred isGone] :
    Contents :=
  fun key => if isGone key then none else contents key

/-- Entries are taken away one after another or all at once. -/
theorem Contents.without_without
    (contents : Contents)
    (isFirst isSecond : Key → Prop)
    [DecidablePred isFirst]
    [DecidablePred isSecond] :
    (contents.without isFirst).without isSecond =
      contents.without fun key => isFirst key ∨ isSecond key := by
  funext key
  by_cases first : isFirst key
  · simp [Contents.without, first]
  · simp [Contents.without, first]

/-- It only matters of which keys the entries are taken away. -/
theorem Contents.without_congr
    {isFirst isSecond : Key → Prop}
    [DecidablePred isFirst]
    [DecidablePred isSecond]
    (same : ∀ key, isFirst key ↔ isSecond key) :
    contents.without isFirst = contents.without isSecond := by
  funext key
  simp only [Contents.without, same]

/-- Removing the files of the entries of some keys succeeds, and leaves the shards. -/
theorem Store.removeFiles_spec
    {keys : List Key}
    (distinct : keys.Nodup)
    (ready : Ready store disk place)
    (isShown : Shows store (disk.sub place) contents)
    (areHeld : ∀ key ∈ keys, (contents key).isSome) :
    ∃ changed,
      Store.removeFiles disk (keys.map store.entryPath) = (.ok (), changed) ∧
        changed.prune place = disk.prune place ∧
        Shows store (changed.sub place) (contents.without (· ∈ keys)) ∧
        ∀ key, (shardPlace store key, .directory) ∈ (changed.sub place).entries ↔
          (shardPlace store key, .directory) ∈ (disk.sub place).entries := by
  induction keys generalizing disk contents with
  | nil =>
      exact ⟨disk, rfl, rfl, isShown, fun _ => Iff.rfl⟩
  | cons key rest inductionHypothesis =>
      rw [List.nodup_cons] at distinct
      obtain ⟨entry, held⟩ := Option.isSome_iff_exists.mp (areHeld key List.mem_cons_self)
      have outside :
          (disk.erase (place ++ entryPlace store key)).prune place = disk.prune place :=
        prune_erase disk place (by simp [entryPlace])
      have changedSub :
          (disk.erase (place ++ entryPlace store key)).sub place =
            (disk.sub place).erase (entryPlace store key) :=
        sub_erase disk place (by simp [entryPlace])
      have changedShown :
          Shows store ((disk.erase (place ++ entryPlace store key)).sub place)
            (contents.update key none) := by
        rw [changedSub]
        exact isShown.erase_entry key
      have stillHeld : ∀ other ∈ rest, (contents.update key none other).isSome := by
        intro other member
        have differs : other ≠ key := by
          rintro rfl
          exact distinct.1 member
        simpa [Contents.update, differs] using areHeld other (List.mem_cons_of_mem key member)
      obtain ⟨changed, removed, lastOutside, lastShown, sameShards⟩ :=
        inductionHypothesis distinct.2 (ready.of_prune_eq outside) changedShown stillHeld
      refine ⟨changed, ?_, lastOutside.trans outside, ?_, ?_⟩
      · have leads := leadsToFile_entryPath ready isShown (Option.isSome_iff_exists.mpr ⟨_, held⟩)
        rw [List.map_cons, Store.removeFiles, leads, if_pos rfl,
          removeFile_entry ready isShown held]
        exact removed
      · have gone : (contents.update key none).without (· ∈ rest) =
            contents.without (· ∈ key :: rest) := by
          funext other
          by_cases same : other = key
          · simp [Contents.without, Contents.update, same]
          · simp [Contents.without, Contents.update, same]
        rwa [gone] at lastShown
      · intro other
        rw [sameShards, changedSub, mem_entries_erase]
        simp [shardPlace, entryPlace]

/-- A tree shows the same contents after a shard without entries is removed. -/
theorem Shows.erase_shard
    (isShown : Shows store tree contents)
    (empty : ∀ other entry, contents other = some entry →
      shardOf store.shardDigits other ≠ shardOf store.shardDigits key) :
    Shows store (tree.erase (shardPlace store key)) contents where
  distinct := isShown.distinct.erase _
  known := by
    intro place node member
    exact isShown.known place node (mem_entries_erase.mp member).2
  stored := by
    intro other entry held
    obtain ⟨node, member, isFile⟩ := isShown.stored other entry held
    exact ⟨node, mem_entries_erase.mpr ⟨by simp [entryPlace, shardPlace], member⟩, isFile⟩
  sharded := by
    intro other entry held
    have elsewhere : shardPlace store other ≠ shardPlace store key := by
      simpa [shardPlace] using empty other entry held
    exact mem_entries_erase.mpr ⟨elsewhere, isShown.sharded other entry held⟩
  valid := isShown.valid

/-- The files of a shard and then the shard can be removed; other shards stay as they are. -/
theorem Store.clearShard_spec
    {shard : Key}
    (ready : Ready store disk place)
    (isShown : Shows store (disk.sub place) contents)
    (isShard : (shardPlace store shard, .directory) ∈ (disk.sub place).entries) :
    ∃ paths emptied changed,
      Store.pathsNamed disk (store.shardPath shard) Store.isOwnName = .ok paths ∧
        Store.removeFiles disk paths = (.ok (), emptied) ∧
        emptied.removeDirectory (store.shardPath shard) = .ok changed ∧
        changed.prune place = disk.prune place ∧
        Shows store (changed.sub place) (contents.without fun key =>
          shardOf store.shardDigits key = shardOf store.shardDigits shard) ∧
        ∀ other, shardOf store.shardDigits other ≠ shardOf store.shardDigits shard →
          (shardPlace store other, .directory) ∈ (disk.sub place).entries →
            (shardPlace store other, .directory) ∈ (changed.sub place).entries := by
  obtain ⟨keys, listed, keysDistinct, isKey⟩ :=
    exists_pathsNamed Store.isOwnName ready isShown isShard fun key => by
      simp [Store.isOwnName, isEntryName_entryName]
  obtain ⟨emptied, removed, emptiedOutside, emptiedShown, sameShards⟩ :=
    Store.removeFiles_spec keysDistinct ready isShown fun key member =>
      ((isKey key).mp member).1
  have sameContents : contents.without (· ∈ keys) = contents.without fun key =>
      shardOf store.shardDigits key = shardOf store.shardDigits shard := by
    funext other
    simp only [Contents.without, isKey]
    cases contents other with
    | none =>
        simp
    | some entry =>
        simp
  rw [sameContents] at emptiedShown
  have emptiedReady := ready.of_prune_eq emptiedOutside
  have notHeld : ∀ other entry,
      (contents.without fun key =>
          shardOf store.shardDigits key = shardOf store.shardDigits shard) other = some entry →
        shardOf store.shardDigits other ≠ shardOf store.shardDigits shard := by
    intro other entry held
    simp only [Contents.without, Option.ite_none_left_eq_some] at held
    exact held.1
  have isDirectory :=
    (isDirectory_shardPath emptiedReady emptiedShown ((sameShards shard).mpr isShard)).1
  have isEmpty : emptied.children (place ++ shardPlace store shard) = [] := by
    rw [← children_sub, List.eq_nil_iff_forall_not_mem]
    intro child isChild
    obtain ⟨other, entry, sameShard, _, held, _⟩ :=
      emptiedShown.known_in_shard (mem_children.mp isChild)
    exact notHeld other entry held sameShard.symm
  have changedSub :
      (emptied.erase (place ++ shardPlace store shard)).sub place =
        (emptied.sub place).erase (shardPlace store shard) :=
    sub_erase emptied place (by simp [shardPlace])
  have outside :
      (emptied.erase (place ++ shardPlace store shard)).prune place = emptied.prune place :=
    prune_erase emptied place (by simp [shardPlace])
  refine ⟨keys.map store.entryPath, emptied, emptied.erase (place ++ shardPlace store shard),
    listed, removed, ?_, outside.trans emptiedOutside, ?_, ?_⟩
  · exact emptiedReady.reaches.removeDirectory_empty (ready.isName_shard shard)
      (ready.shardFits shard) isDirectory isEmpty
  · rw [changedSub]
    exact emptiedShown.erase_shard notHeld
  · intro other differs isOther
    have elsewhere : shardPlace store other ≠ shardPlace store shard := by
      intro same
      simp only [shardPlace, List.cons.injEq, and_true] at same
      exact differs same
    rw [changedSub, mem_entries_erase, sameShards]
    exact ⟨elsewhere, isOther⟩

/-- Clearing some shards succeeds and leaves the entries of the others. -/
theorem Store.clearShards_spec
    {shards : List Key}
    (distinct : (shards.map (shardOf store.shardDigits)).Nodup)
    (ready : Ready store disk place)
    (isShown : Shows store (disk.sub place) contents)
    (areShards : ∀ shard ∈ shards,
      (shardPlace store shard, .directory) ∈ (disk.sub place).entries) :
    ∃ changed,
      Store.clearShards disk (shards.map store.shardPath) = (.ok (), changed) ∧
        changed.prune place = disk.prune place ∧
        Shows store (changed.sub place) (contents.without fun key =>
          shardOf store.shardDigits key ∈ shards.map (shardOf store.shardDigits)) := by
  induction shards generalizing disk contents with
  | nil =>
      exact ⟨disk, rfl, rfl, isShown⟩
  | cons shard rest inductionHypothesis =>
      rw [List.map_cons, List.nodup_cons] at distinct
      obtain ⟨files, emptied, cleared, listed, removed, removes, outside, clearedShown, stays⟩ :=
        Store.clearShard_spec ready isShown (areShards shard List.mem_cons_self)
      have stillShards : ∀ other ∈ rest,
          (shardPlace store other, .directory) ∈ (cleared.sub place).entries := by
        intro other member
        have differs : shardOf store.shardDigits other ≠ shardOf store.shardDigits shard :=
          fun same => distinct.1 (same ▸ List.mem_map_of_mem member)
        exact stays other differs (areShards other (List.mem_cons_of_mem shard member))
      obtain ⟨changed, isCleared, lastOutside, lastShown⟩ :=
        inductionHypothesis distinct.2 (ready.of_prune_eq outside) clearedShown stillShards
      refine ⟨changed, ?_, lastOutside.trans outside, ?_⟩
      · rw [List.map_cons, Store.clearShards, listed]
        dsimp only
        rw [removed]
        dsimp only
        rw [removes]
        exact isCleared
      · rw [Contents.without_without] at lastShown
        rwa [Contents.without_congr fun key => by rw [List.map_cons, List.mem_cons]]

/-- Clearing succeeds and leaves no entries. -/
theorem Store.clear_spec
    (ready : Ready store disk place)
    (isShown : Shows store (disk.sub place) contents) :
    ∃ changed, store.clear disk = (.ok (), changed) ∧ changed.prune place = disk.prune place ∧
      Shows store (changed.sub place) Contents.empty := by
  obtain ⟨shards, listed, distinct, isShard⟩ := exists_shards ready isShown
  obtain ⟨changed, cleared, outside, changedShown⟩ :=
    Store.clearShards_spec distinct ready isShown fun shard member =>
      (isShard shard).mpr (List.mem_map_of_mem member)
  refine ⟨changed, by simp [Store.clear, listed, cleared], outside, ?_⟩
  have nothing : (contents.without fun key =>
      shardOf store.shardDigits key ∈ shards.map (shardOf store.shardDigits)) =
        Contents.empty := by
    funext key
    rw [Contents.without]
    split
    · rfl
    · rename_i notShard
      cases held : contents key with
      | none =>
          rfl
      | some entry =>
          exact absurd ((isShard key).mp (isShown.sharded key entry held)) notShard
  rwa [nothing] at changedShown

end SourceFacts.Cache
