import SourceFacts.Proofs.Cache.Contents

namespace SourceFacts.Cache

/-!
# Changes of single entries

Storing an entry puts it under its key, and invalidating a key leaves none under it.
Both succeed, the directory of the store shows the new contents, and nothing outside
of it changes. With other files in the directory storing may fail, but it leaves nothing
under any key that was not stored.
-/

open Disk Text Time

variable {store : Store} {disk tree : Disk} {place : Place} {contents : Contents} {key : Key}

/-! ## Metrics -/

/-- The directory of a store is ready whatever has been counted. -/
theorem Ready.withMetrics
    (ready : Ready store disk place)
    (metrics : Metrics) :
    Ready { store with metrics } disk place :=
  ⟨ready.reaches, ready.digits, ready.fits⟩

/-- A tree shows the contents of a store whatever has been counted. -/
theorem Shows.withMetrics
    (isShown : Shows store tree contents)
    (metrics : Metrics) :
    Shows { store with metrics } tree contents where
  distinct := isShown.distinct
  known := isShown.known
  stored := isShown.stored
  sharded := isShown.sharded
  valid := fun key entry held =>
    have isOf := isShown.valid key entry held
    ⟨isOf.key, isOf.schemaVersion, isOf.storable⟩

/-! ## Writing -/

/-- The file of a key's entry can be written by way of a new file whose name has a number in
it: the directory of the store is ready, and nothing else stands where the shard, the file and
the new file are to be. -/
structure Accepts
    (store : Store)
    (disk : Disk)
    (place : Place)
    (key : Key)
    (number : Nat) : Prop where
  ready : Ready store disk place
  shard : disk.node? (place ++ shardPlace store key) = none ∨
    disk.node? (place ++ shardPlace store key) = some .directory
  entry : IsFree disk (place ++ shardPlace store key ++ [entryName key])
  temporary : disk.node? (place ++ shardPlace store key ++
    [temporaryName (entryName key) (tagText number)]) = none

namespace Store

/-- The tree with the shard of a key, which is made if it is not there. -/
def withShard (store : Store) (disk : Disk) (place : Place) (key : Key) : Disk :=
  if disk.node? (place ++ shardPlace store key) = some .directory then disk
  else disk.set (place ++ shardPlace store key) .directory

/-- The tree after the file of an entry is written. -/
def written
    (store : Store)
    (disk : Disk)
    (place : Place)
    (entry : Entry)
    (number : Nat)
    (now : Instant) : Disk :=
  (store.withShard disk place entry.key).replaced
    (place ++ shardPlace store entry.key ++
      [temporaryName (entryName entry.key) (tagText number)])
    (place ++ shardPlace store entry.key ++ [entryName entry.key]) (encodeEntry entry) now

/-- Making a shard leaves everything outside of the store as it is. -/
theorem prune_withShard
    (store : Store)
    (disk : Disk)
    (place : Place)
    (key : Key) :
    (store.withShard disk place key).prune place = disk.prune place := by
  unfold withShard
  split
  · rfl
  · exact prune_set disk place (by simp [shardPlace]) _

/-- A shard that is made is there. -/
theorem node?_withShard
    (store : Store)
    (disk : Disk)
    (place : Place)
    (key : Key) :
    (store.withShard disk place key).node? (place ++ shardPlace store key) = some .directory := by
  unfold withShard
  split
  · assumption
  · exact node?_set_self disk (by simp [shardPlace]) _

/-- Making a shard leaves what is in it as it is. -/
theorem node?_withShard_append
    (store : Store)
    (disk : Disk)
    (place : Place)
    (key : Key)
    (name : String) :
    (store.withShard disk place key).node? (place ++ shardPlace store key ++ [name]) =
      disk.node? (place ++ shardPlace store key ++ [name]) := by
  unfold withShard
  split
  · rfl
  · exact node?_set_of_ne disk (by simp) _

/-- Writing the file of an entry leaves everything outside of the store as it is. -/
theorem prune_written
    (store : Store)
    (disk : Disk)
    (place : Place)
    (entry : Entry)
    (number : Nat)
    (now : Instant) :
    (store.written disk place entry number now).prune place = disk.prune place := by
  rw [written, List.append_assoc, List.append_assoc, prune_replaced (by simp) (by simp),
    prune_withShard]

/-- The shard of a key is made if it is not there. -/
theorem createDirectories_shardPath
    {number : Nat}
    (accepts : Accepts store disk place key number) :
    disk.createDirectories (store.shardPath key) =
      (.ok (), store.withShard disk place key) := by
  have reaches := accepts.ready.reaches
  have isName := accepts.ready.isName_shard key
  have fits := accepts.ready.shardFits key
  unfold withShard
  rcases accepts.shard with isVacant | isDirectory
  · rw [if_neg (by simp [isVacant])]
    exact reaches.createDirectories_vacant isName fits isVacant
  · rw [if_pos isDirectory]
    exact reaches.createDirectories_directory isName fits isDirectory

/-- The file of an entry is written where it can be. -/
theorem writeEntry_eq
    (entry : Entry)
    {number : Nat}
    (accepts : Accepts store disk place entry.key number)
    (now : Instant) :
    store.writeEntry disk entry (tagText number) now =
      (.ok (), store.written disk place entry number now) := by
  have ready := accepts.ready
  have reaches := (ready.of_prune_eq (prune_withShard store disk place entry.key)).shard_reaches
    (node?_withShard store disk place entry.key)
  have isParent :
      Path.parent? (Path.child (store.shardPath entry.key) (entryName entry.key)) =
        some (store.shardPath entry.key) :=
    Path.parent?_child ready.reaches.isFollowed.nonempty (ready.isName_shard entry.key)
      (isName_entryName entry.key)
  have free : IsFree (store.withShard disk place entry.key)
      (place ++ shardPlace store entry.key ++ [entryName entry.key]) := by
    rw [IsFree, node?_withShard_append]
    exact accepts.entry
  have vacant := (node?_withShard_append store disk place entry.key
    (temporaryName (entryName entry.key) (tagText number))).trans accepts.temporary
  unfold writeEntry
  rw [createDirectories_shardPath accepts]
  exact reaches.replace_eq (isName_entryName entry.key) (isName_temporaryName entry.key number)
    isParent (ready.entryFits entry.key) (ready.temporaryFits entry.key number) free vacant now

/-- The tree after an entry is stored is the one after its file is written. -/
theorem disk_put
    (entry : Entry)
    {number : Nat}
    (accepts : Accepts store disk place entry.key number)
    (now : Instant) :
    (store.put disk entry (tagText number) now).2.2 =
      store.written disk place entry number now := by
  rw [put, writeEntry_eq entry accepts now]

theorem reaches_written
    (entry : Entry)
    {number : Nat}
    (accepts : Accepts store disk place entry.key number)
    (now : Instant) :
    (store.written disk place entry number now).Reaches (store.shardPath entry.key)
      (place ++ shardPlace store entry.key) := by
  have ready := accepts.ready.of_prune_eq (prune_written store disk place entry number now)
  have isShard : (store.written disk place entry number now).node?
      (place ++ shardPlace store entry.key) = some .directory := by
    rw [written, node?_replaced_of_ne (by simp) (by simp)]
    exact node?_withShard store disk place entry.key
  exact ready.shard_reaches isShard

/-- The file of an entry that was written is read. -/
theorem read_written
    (entry : Entry)
    {number : Nat}
    (accepts : Accepts store disk place entry.key number)
    (now : Instant) :
    (store.written disk place entry number now).read (store.entryPath entry.key) =
      .ok (encodeEntry entry) :=
  (reaches_written entry accepts now).read_file (isName_entryName entry.key)
    (accepts.ready.entryFits entry.key) (node?_set_self _ (by simp) _)

theorem node?_withShard_of_ne
    {other : Place}
    (store : Store)
    (disk : Disk)
    (elsewhere : other ≠ place ++ shardPlace store key) :
    (store.withShard disk place key).node? other = disk.node? other := by
  unfold withShard
  split
  · rfl
  · exact node?_set_of_ne disk elsewhere _

theorem inShard_ne_shard
    (store : Store)
    (place : Place)
    (key other : Key)
    (name : String) :
    place ++ shardPlace store key ++ [name] ≠ place ++ shardPlace store other := by
  intro same
  simpa [shardPlace] using congrArg List.length same

section Written

variable (entry : Entry) (number : Nat) (now : Instant)

theorem node?_written_of_ne
    {name : String}
    (notEntry : place ++ shardPlace store key ++ [name] ≠
      place ++ shardPlace store entry.key ++ [entryName entry.key])
    (notTemporary : place ++ shardPlace store key ++ [name] ≠
      place ++ shardPlace store entry.key ++
        [temporaryName (entryName entry.key) (tagText number)]) :
    (store.written disk place entry number now).node? (place ++ shardPlace store key ++ [name]) =
      disk.node? (place ++ shardPlace store key ++ [name]) := by
  rw [written, node?_replaced_of_ne notEntry notTemporary,
    node?_withShard_of_ne store disk (inShard_ne_shard store place key entry.key name)]

/-- After the file of an entry is written a shard is there, or there is what was before. -/
theorem node?_written_shard (key : Key) :
    (store.written disk place entry number now).node? (place ++ shardPlace store key) =
        some .directory ∨
      (store.written disk place entry number now).node? (place ++ shardPlace store key) =
        disk.node? (place ++ shardPlace store key) := by
  rw [written, node?_replaced_of_ne (inShard_ne_shard store place entry.key key _).symm
    (inShard_ne_shard store place entry.key key _).symm]
  by_cases same : place ++ shardPlace store key = place ++ shardPlace store entry.key
  · rw [same]
    exact .inl (node?_withShard store disk place entry.key)
  · exact .inr (node?_withShard_of_ne store disk same)

/-- After the file of an entry is written its new file is not there. -/
theorem node?_written_temporary :
    (store.written disk place entry number now).node? (place ++ shardPlace store entry.key ++
      [temporaryName (entryName entry.key) (tagText number)]) = none := by
  have elsewhere : place ++ shardPlace store entry.key ++
      [temporaryName (entryName entry.key) (tagText number)] ≠
        place ++ shardPlace store entry.key ++ [entryName entry.key] := by
    simp [temporaryName_ne_entryName]
  rw [written, replaced, node?_set_of_ne _ elsewhere]
  exact node?_erase_self _ (by simp)

end Written

end Store

/-- The files of all entries can be written by way of new files. -/
def AcceptsAll (store : Store) (disk : Disk) (place : Place) : Prop :=
  ∀ key number, Accepts store disk place key number

/-- After the file of an entry is written the files of all entries can be written. -/
theorem AcceptsAll.written
    (accepts : AcceptsAll store disk place)
    (entry : Entry)
    (number : Nat)
    (now : Instant) :
    AcceptsAll store (store.written disk place entry number now) place := by
  intro key other
  have before := accepts key other
  have notSame : ∀ {key other : Key} {name otherName : String}, name ≠ otherName →
      place ++ shardPlace store key ++ [name] ≠ place ++ shardPlace store other ++ [otherName] := by
    intro key other name otherName differ same
    exact differ (List.singleton_inj.mp (List.append_inj_right' same rfl))
  refine ⟨before.ready.of_prune_eq (Store.prune_written store disk place entry number now),
    ?_, ?_, ?_⟩
  · rcases Store.node?_written_shard entry number now key with isDirectory | same
    · exact .inr isDirectory
    · rw [same]
      exact before.shard
  · by_cases isEntry : place ++ shardPlace store key ++ [entryName key] =
        place ++ shardPlace store entry.key ++ [entryName entry.key]
    · rw [isEntry]
      exact .inr ⟨_, _, node?_set_self _ (by simp) _⟩
    · rw [IsFree, Store.node?_written_of_ne entry number now isEntry
        (notSame (temporaryName_ne_entryName entry.key key _).symm)]
      exact before.entry
  · by_cases isTemporary : place ++ shardPlace store key ++
        [temporaryName (entryName key) (tagText other)] =
          place ++ shardPlace store entry.key ++
            [temporaryName (entryName entry.key) (tagText number)]
    · rw [isTemporary]
      exact Store.node?_written_temporary entry number now
    · rw [Store.node?_written_of_ne entry number now
        (notSame (temporaryName_ne_entryName key entry.key _)) isTemporary]
      exact before.temporary

/-! ## Storing -/

/-- A tree shows the same contents after the shard of a key is made. -/
theorem Shows.set_shard
    (isShown : Shows store tree contents)
    (key : Key) :
    Shows store (tree.set (shardPlace store key) .directory) contents where
  distinct := isShown.distinct.set _ _
  known := by
    intro place node member
    rcases mem_entries_set.mp member with ⟨rfl, rfl⟩ | ⟨_, before⟩
    · exact Or.inl ⟨key, rfl, rfl⟩
    · exact isShown.known place node before
  stored := by
    intro other entry held
    obtain ⟨node, member, isFile⟩ := isShown.stored other entry held
    exact ⟨node, mem_entries_set.mpr (Or.inr ⟨by simp [entryPlace, shardPlace], member⟩), isFile⟩
  sharded := by
    intro other entry held
    rw [mem_entries_set]
    by_cases same : shardPlace store other = shardPlace store key
    · exact Or.inl ⟨same, rfl⟩
    · exact Or.inr ⟨same, isShown.sharded other entry held⟩
  valid := isShown.valid

/-- A tree shows the new contents after a new entry is written. -/
theorem Shows.replaced
    {entry : Entry}
    (isShown : Shows store tree contents)
    (isOf : entry.IsOf store key)
    (isShard : (shardPlace store key, .directory) ∈ tree.entries)
    (tag : String)
    (now : Instant) :
    Shows store
      (tree.replaced [shardOf store.shardDigits key, temporaryName (entryName key) tag]
        (entryPlace store key) (Store.encodeEntry entry) now)
      (contents.update key (some entry)) where
  distinct := isShown.distinct.replaced _ _ _ _
  known := by
    intro place node member
    rcases mem_entries_replaced.mp member with ⟨rfl, rfl⟩ | ⟨elsewhere, _, before⟩
    · exact Or.inr ⟨key, entry, rfl, by simp [Contents.update], now, rfl⟩
    · rcases isShown.known place node before with isDirectory | ⟨other, held, rfl, isHeld, isFile⟩
      · exact Or.inl isDirectory
      · have otherKey : other ≠ key := by
          rintro rfl
          exact elsewhere rfl
        exact Or.inr ⟨other, held, rfl, by simp [Contents.update, otherKey, isHeld], isFile⟩
  stored := by
    intro other held isHeld
    by_cases same : other = key
    · subst other
      obtain rfl : entry = held := by
        simpa [Contents.update] using isHeld
      exact ⟨_, mem_entries_replaced.mpr (Or.inl ⟨rfl, rfl⟩), now, rfl⟩
    · have before : contents other = some held := by
        simpa [Contents.update, same] using isHeld
      obtain ⟨node, member, isFile⟩ := isShown.stored other held before
      have elsewhere : entryPlace store other ≠ entryPlace store key := by
        simp [entryPlace, entryName_inj, same]
      have notTemporary : entryPlace store other ≠
          [shardOf store.shardDigits key, temporaryName (entryName key) tag] := by
        have noEntry := temporaryName_ne_entryName key other tag
        simp [entryPlace, noEntry.symm]
      exact ⟨node, mem_entries_replaced.mpr (Or.inr ⟨elsewhere, notTemporary, member⟩), isFile⟩
  sharded := by
    intro other held isHeld
    have isOtherShard : (shardPlace store other, .directory) ∈ tree.entries := by
      by_cases same : other = key
      · rwa [same]
      · exact isShown.sharded other held (by simpa [Contents.update, same] using isHeld)
    exact mem_entries_replaced.mpr
      (Or.inr ⟨by simp [shardPlace, entryPlace], by simp [shardPlace], isOtherShard⟩)
  valid := by
    intro other held isHeld
    by_cases same : other = key
    · subst other
      obtain rfl : entry = held := by
        simpa [Contents.update] using isHeld
      exact isOf
    · exact isShown.valid other held (by simpa [Contents.update, same] using isHeld)

/-- A tree shows the same contents after the shard of a key is made if it is not there. -/
theorem Shows.withShard
    (isShown : Shows store (disk.sub place) contents)
    (key : Key) :
    Shows store ((store.withShard disk place key).sub place) contents := by
  unfold Store.withShard
  split
  · exact isShown
  · rw [sub_set disk place (by simp [shardPlace])]
    exact isShown.set_shard key

/-- Entries can be written where a tree shows the contents of a store. -/
theorem Shows.accepts
    (isShown : Shows store (disk.sub place) contents)
    (ready : Ready store disk place)
    (key : Key)
    (number : Nat) :
    Accepts store disk place key number where
  ready := ready
  shard := by
    rw [node?_append_shardPlace]
    exact isShown.node?_shard key
  entry := by
    rw [IsFree, node?_append_shardPlace_append]
    cases held : contents key with
    | none =>
        exact Or.inl (isShown.node?_entry_of_none held)
    | some old =>
        obtain ⟨modified, isFile⟩ := isShown.node?_entry held
        exact Or.inr ⟨_, modified, isFile⟩
  temporary := by
    rw [node?_append_shardPlace_append]
    exact isShown.node?_temporary _ _

/-- Writing the file of an entry succeeds, and the entry is under its key after that. -/
theorem Store.writeEntry_spec
    {entry : Entry}
    (ready : Ready store disk place)
    (isShown : Shows store (disk.sub place) contents)
    (isOf : entry.IsOf store key)
    (number : Nat)
    (now : Instant) :
    ∃ changed, store.writeEntry disk entry (tagText number) now = (.ok (), changed) ∧
      changed.prune place = disk.prune place ∧
      Shows store (changed.sub place) (contents.update key (some entry)) := by
  obtain rfl := isOf.key
  have accepts := isShown.accepts ready entry.key number
  have madeShown := isShown.withShard entry.key
  have isShard : (shardPlace store entry.key, .directory) ∈
      ((store.withShard disk place entry.key).sub place).entries := by
    rw [← madeShown.distinct.node?_eq_some (by simp [shardPlace]), ← node?_append_shardPlace]
    exact Store.node?_withShard store disk place entry.key
  refine ⟨_, Store.writeEntry_eq entry accepts now,
    Store.prune_written store disk place entry _ now, ?_⟩
  rw [Store.written, List.append_assoc, List.append_assoc, sub_replaced (by simp) (by simp)]
  exact madeShown.replaced isOf isShard (tagText number) now

/-- Storing an entry succeeds, and the entry is under its key after that. -/
theorem Store.put_spec
    {entry : Entry}
    (ready : Ready store disk place)
    (isShown : Shows store (disk.sub place) contents)
    (isOf : entry.IsOf store key)
    (number : Nat)
    (now : Instant) :
    ∃ metrics changed,
      store.put disk entry (tagText number) now = (.ok (), { store with metrics }, changed) ∧
        changed.prune place = disk.prune place ∧
        Shows store (changed.sub place) (contents.update key (some entry)) := by
  obtain ⟨changed, written, outside, changedShown⟩ :=
    Store.writeEntry_spec ready isShown isOf number now
  exact ⟨_, changed, by unfold Store.put; rw [written], outside, changedShown⟩

/-! ### Among other files -/

/-- The shard of a key is made if it is not there, or it cannot be made. -/
theorem Store.createDirectories_shardPath_cases
    (ready : Ready store disk place)
    (noLinks : disk.NoLinks place)
    (key : Key) :
    disk.createDirectories (store.shardPath key) = (.error .alreadyExists, disk) ∨
      disk.createDirectories (store.shardPath key) = (.ok (), store.withShard disk place key) := by
  have isName := ready.isName_shard key
  have fits := ready.shardFits key
  unfold withShard
  cases isThere : disk.node? (place ++ shardPlace store key) with
  | none =>
      refine .inr ?_
      rw [if_neg (by simp)]
      exact ready.reaches.createDirectories_vacant isName fits isThere
  | some node =>
      cases node with
      | file content modified =>
          exact .inl (ready.reaches.createDirectories_file isName fits isThere)
      | link target =>
          exact absurd isThere (noLinks _ (by simp [shardPlace]) target)
      | directory =>
          refine .inr ?_
          rw [if_pos rfl]
          exact ready.reaches.createDirectories_directory isName fits isThere

/-- Writing the file of an entry brings nothing but directories and files that are empty or the
entry's, whatever is in the directory of the store, and nothing outside changes. -/
theorem Store.gains_writeEntry
    (ready : Ready store disk place)
    (noLinks : disk.NoLinks place)
    (entry : Entry)
    (number : Nat)
    (now : Instant) :
    Gains (fun bytes => bytes = [] ∨ bytes = encodeEntry entry) place disk
        (store.writeEntry disk entry (tagText number) now).2 ∧
      (store.writeEntry disk entry (tagText number) now).2.prune place = disk.prune place := by
  have gains := gains_createDirectories (fun bytes => bytes = [] ∨ bytes = encodeEntry entry) place
    disk (store.shardPath entry.key)
  unfold writeEntry
  rcases createDirectories_shardPath_cases ready noLinks entry.key with fails | isMade
  · rw [fails]
    exact ⟨.refl _ place disk, rfl⟩
  · rw [isMade] at gains ⊢
    have same := prune_withShard store disk place entry.key
    have isShard := node?_withShard store disk place entry.key
    have reaches := (ready.of_prune_eq same).shard_reaches isShard
    have noLinks := noLinks.of_gains gains
    have isParent :
        Path.parent? (Path.child (store.shardPath entry.key) (entryName entry.key)) =
          some (store.shardPath entry.key) :=
      Path.parent?_child ready.reaches.isFollowed.nonempty (ready.isName_shard entry.key)
        (isName_entryName entry.key)
    have noSlash := noSlash_tagText number
    refine ⟨gains.trans (gains_replace noLinks noSlash _ now), ?_⟩
    rw [← same]
    exact prune_eq_of_append (reaches.prune_replace (noLinks.append _)
      (isName_entryName entry.key) (isName_temporaryName entry.key number) isParent
      (ready.entryFits entry.key) (ready.temporaryFits entry.key number) now)

/-- Storing an entry leaves everything outside of the store as it is, and what is below the
store is accounted for by the entry and those before. -/
theorem Accounted.put
    {entries : List Entry}
    {entry : Entry}
    (accounted : Accounted place disk entries)
    (ready : Ready store disk place)
    (storable : entry.IsStorable)
    (number : Nat)
    (now : Instant) :
    Accounted place (store.put disk entry (tagText number) now).2.2 (entry :: entries) ∧
      (store.put disk entry (tagText number) now).2.2.prune place = disk.prune place := by
  have sameDisk : (store.put disk entry (tagText number) now).2.2 =
      (store.writeEntry disk entry (tagText number) now).2 := by
    unfold Store.put
    rcases store.writeEntry disk entry (tagText number) now with ⟨_ | _, changed⟩ <;> rfl
  obtain ⟨gains, same⟩ := Store.gains_writeEntry ready accounted.noLinks entry number now
  rw [sameDisk]
  refine ⟨accounted.of_gains gains ?_ (List.subset_cons_self entry entries), same⟩
  rintro content other (rfl | rfl) isRead
  · rw [Store.decodeEntry?_nil] at isRead
    exact absurd isRead (by simp)
  · rw [Store.decodeEntry?_encodeEntry storable] at isRead
    rw [← Option.some.inj isRead]
    exact List.mem_cons_self

/-! ## Invalidating -/

/-- Contents without an entry under a key have an entry under others as before. -/
theorem Contents.update_none_eq_some
    {other : Key}
    {entry : Entry} :
    contents.update key none other = some entry ↔ other ≠ key ∧ contents other = some entry := by
  by_cases same : other = key
  · simp [Contents.update, same]
  · simp [Contents.update, same]

/-- A tree shows the new contents after the file of an entry is removed. -/
theorem Shows.erase_entry
    (isShown : Shows store tree contents)
    (key : Key) :
    Shows store (tree.erase (entryPlace store key)) (contents.update key none) where
  distinct := isShown.distinct.erase _
  known := by
    intro place node member
    obtain ⟨elsewhere, before⟩ := mem_entries_erase.mp member
    rcases isShown.known place node before with isDirectory | ⟨other, held, rfl, isHeld, isFile⟩
    · exact Or.inl isDirectory
    · have otherKey : other ≠ key := by
        rintro rfl
        exact elsewhere rfl
      exact Or.inr ⟨other, held, rfl, by simp [Contents.update, otherKey, isHeld], isFile⟩
  stored := by
    intro other held isHeld
    obtain ⟨otherKey, before⟩ := Contents.update_none_eq_some.mp isHeld
    obtain ⟨node, member, isFile⟩ := isShown.stored other held before
    have elsewhere : entryPlace store other ≠ entryPlace store key := by
      simp [entryPlace, entryName_inj, otherKey]
    exact ⟨node, mem_entries_erase.mpr ⟨elsewhere, member⟩, isFile⟩
  sharded := by
    intro other held isHeld
    obtain ⟨_, before⟩ := Contents.update_none_eq_some.mp isHeld
    exact mem_entries_erase.mpr
      ⟨by simp [shardPlace, entryPlace], isShown.sharded other held before⟩
  valid := by
    intro other held isHeld
    exact isShown.valid other held (Contents.update_none_eq_some.mp isHeld).2

/-- Contents that have nothing under a key are not changed by leaving it so. -/
theorem Contents.update_none
    (absent : contents key = none) :
    contents.update key none = contents := by
  funext other
  by_cases same : other = key
  · simp [Contents.update, same, absent]
  · simp [Contents.update, same]

/-- Invalidating a key succeeds and tells whether there was an entry, and there is none
after that. -/
theorem Store.invalidate_spec
    (ready : Ready store disk place)
    (isShown : Shows store (disk.sub place) contents)
    (key : Key) :
    ∃ changed, store.invalidate disk key = (.ok (contents key).isSome, changed) ∧
      changed.prune place = disk.prune place ∧
      Shows store (changed.sub place) (contents.update key none) := by
  cases held : contents key with
  | none =>
      refine ⟨disk, ?_, rfl, ?_⟩
      · unfold Store.invalidate
        rw [removeFile_entry_of_none ready isShown held]
        rfl
      · rw [Contents.update_none held]
        exact isShown
  | some entry =>
      refine ⟨disk.erase (place ++ entryPlace store key), ?_, ?_, ?_⟩
      · unfold Store.invalidate
        rw [removeFile_entry ready isShown held]
        rfl
      · exact prune_erase disk place (by simp [entryPlace])
      · rw [sub_erase disk place (by simp [entryPlace])]
        exact isShown.erase_entry key

end SourceFacts.Cache
