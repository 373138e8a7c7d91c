import SourceFacts.Proofs.Cache.Entries
import SourceFacts.Proofs.Disk.Children

namespace SourceFacts.Cache

/-!
# What a store holds

A store that is used holds entries under keys. The directory of the store shows
exactly these: a directory for every shard, and in it a file for every entry. If other
files come into the directory, then what can be read under a key is still one of the
entries that were put there.
-/

open Disk Text Time

/-- The entries of a store by their keys. -/
abbrev Contents := Key → Option Entry

namespace Contents

/-- The contents without entries. -/
def empty : Contents := fun _ => none

/-- The contents with another entry, or with none, under a key. -/
def update (contents : Contents) (key : Key) (held? : Option Entry) : Contents := fun other =>
  if other = key then held? else contents other

end Contents

/-! ## The directory of a store -/

/-- The size of the longest paths in the directory of a store, those of new files. -/
def Store.longestPath (store : Store) : Nat :=
  (Path.child store.root "").utf8ByteSize + store.shardDigits + 1 + temporaryNameSize

/-- The directory of a store is there, and no path in it is too long. -/
structure Ready (store : Store) (disk : Disk) (place : Place) : Prop where
  reaches : disk.Reaches store.root place
  digits : 0 < store.shardDigits ∧ store.shardDigits ≤ keyDigits
  fits : store.longestPath ≤ maxPathLength

/-- Where the shard of a key is in the directory of a store. -/
def shardPlace (store : Store) (key : Key) : Place := [shardOf store.shardDigits key]

/-- Where the file of a key's entry is in the directory of a store. -/
def entryPlace (store : Store) (key : Key) : Place :=
  [shardOf store.shardDigits key, entryName key]

/-- What a tree holds for an entry. -/
def IsFileOf (entry : Entry) (node : Node) : Prop :=
  ∃ modified, node = .file (Store.encodeEntry entry) modified

/-- An entry that the store can find under a key. -/
structure Entry.IsOf (entry : Entry) (store : Store) (key : Key) : Prop where
  key : entry.key = key
  schemaVersion : entry.schemaVersion = store.schemaVersion
  storable : entry.IsStorable

/-- A tree shows exactly the contents of a store. -/
structure Shows (store : Store) (tree : Disk) (contents : Contents) : Prop where
  distinct : tree.Distinct
  /-- There is nothing but shards and the files of entries. -/
  known : ∀ place node, (place, node) ∈ tree.entries →
    (∃ key, place = shardPlace store key ∧ node = .directory) ∨
      ∃ key entry, place = entryPlace store key ∧ contents key = some entry ∧
        IsFileOf entry node
  /-- Every entry has its file. -/
  stored : ∀ key entry, contents key = some entry →
    ∃ node, (entryPlace store key, node) ∈ tree.entries ∧ IsFileOf entry node
  /-- Every entry is in its shard. -/
  sharded : ∀ key entry, contents key = some entry →
    (shardPlace store key, .directory) ∈ tree.entries
  /-- Every entry can be found. -/
  valid : ∀ key entry, contents key = some entry → entry.IsOf store key

/-! ## Paths -/

namespace Ready

variable {store : Store} {disk : Disk} {place : Place}

/-- The name of a shard is a name. -/
theorem isName_shard
    (ready : Ready store disk place)
    (key : Key) :
    IsName (shardOf store.shardDigits key) :=
  isName_shardOf ready.digits.1 key

/-- The path of a shard is not empty. -/
theorem shardPath_ne_empty
    (ready : Ready store disk place)
    (key : Key) :
    store.shardPath key ≠ "" :=
  Path.child_ne_empty ready.reaches.isFollowed.nonempty (ready.isName_shard key)

/-- The paths of new files are not too long. -/
theorem temporaryFits
    (ready : Ready store disk place)
    (key : Key)
    (number : Nat) :
    (Path.child (store.shardPath key)
      (temporaryName (entryName key) (tagText number))).utf8ByteSize ≤ maxPathLength := by
  have isRoot := ready.reaches.isFollowed.nonempty
  have fits := ready.fits
  have rootSize : (Path.child store.root "").utf8ByteSize =
      store.root.utf8ByteSize + if Path.endsWithSlash store.root then 0 else 1 := by
    have noSlash : '/' ∉ "".toList := by
      simp
    have slash : "/".utf8ByteSize = 1 := rfl
    rw [Path.child, Path.isAbsolute_eq_false_of_noSlash noSlash]
    by_cases ends : Path.endsWithSlash store.root = true
    · simp [isRoot, ends]
    · simp [isRoot, ends, slash]
  have shardOpen : Path.endsWithSlash (store.shardPath key) = false :=
    Path.endsWithSlash_child isRoot (ready.isName_shard key)
  have shardSize : (store.shardPath key).utf8ByteSize =
      (Path.child store.root "").utf8ByteSize + store.shardDigits := by
    rw [rootSize, Store.shardPath, Path.utf8ByteSize_child isRoot (ready.isName_shard key),
      utf8ByteSize_shardOf ready.digits.2]
  rw [Path.utf8ByteSize_child (ready.shardPath_ne_empty key) (isName_temporaryName key number),
    shardOpen, utf8ByteSize_temporaryName, shardSize]
  exact fits

/-- The paths of shards are not too long. -/
theorem shardFits
    (ready : Ready store disk place)
    (key : Key) :
    (store.shardPath key).utf8ByteSize ≤ maxPathLength := by
  have fits := ready.temporaryFits key 0
  rw [Path.utf8ByteSize_child (ready.shardPath_ne_empty key) (isName_temporaryName key 0)] at fits
  omega

/-- The paths of the files of entries are not too long. -/
theorem entryFits
    (ready : Ready store disk place)
    (key : Key) :
    (store.entryPath key).utf8ByteSize ≤ maxPathLength := by
  have fits := ready.temporaryFits key 0
  have longer : (entryName key).utf8ByteSize ≤
      (temporaryName (entryName key) (tagText 0)).utf8ByteSize := by
    simp only [temporaryName, String.utf8ByteSize_append]
    omega
  rw [Path.utf8ByteSize_child (ready.shardPath_ne_empty key) (isName_temporaryName key 0)] at fits
  rw [Store.entryPath,
    Path.utf8ByteSize_child (ready.shardPath_ne_empty key) (isName_entryName key)]
  omega

/-- The directory of a store stays ready when only what is below it changes. -/
theorem of_prune_eq
    {other : Disk}
    (ready : Ready store disk place)
    (same : other.prune place = disk.prune place) :
    Ready store other place where
  reaches := ready.reaches.of_prune_eq same
  digits := ready.digits
  fits := ready.fits

/-- The path of a shard leads to it. -/
theorem shard_reaches
    {key : Key}
    (ready : Ready store disk place)
    (isShard : disk.node? (place ++ shardPlace store key) = some .directory) :
    disk.Reaches (store.shardPath key) (place ++ shardPlace store key) :=
  ready.reaches.child (ready.isName_shard key) (ready.shardFits key) isShard

end Ready

/-! ## What is at a place -/

namespace Shows

variable {store : Store} {tree : Disk} {contents : Contents} {key : Key}

/-- An entry is found in its file. -/
theorem node?_entry
    {entry : Entry}
    (isShown : Shows store tree contents)
    (held : contents key = some entry) :
    ∃ modified,
      tree.node? (entryPlace store key) = some (.file (Store.encodeEntry entry) modified) := by
  obtain ⟨node, member, modified, rfl⟩ := isShown.stored key entry held
  exact ⟨modified, (isShown.distinct.node?_eq_some (by simp [entryPlace])).mpr member⟩

/-- What is in a shard is the file of an entry. -/
theorem known_in_shard
    {shard name : String}
    {node : Node}
    (isShown : Shows store tree contents)
    (member : ([shard, name], node) ∈ tree.entries) :
    ∃ key entry, shard = shardOf store.shardDigits key ∧ name = entryName key ∧
      contents key = some entry ∧ IsFileOf entry node := by
  rcases isShown.known _ _ member with ⟨key, shape, _⟩ | ⟨key, entry, shape, held, isFile⟩
  · simp [shardPlace] at shape
  · simp only [entryPlace, List.cons.injEq, and_true] at shape
    exact ⟨key, entry, shape.1, shape.2, held, isFile⟩

/-- What is directly in the directory of the store is a shard. -/
theorem known_shard
    {shard : String}
    {node : Node}
    (isShown : Shows store tree contents)
    (member : ([shard], node) ∈ tree.entries) :
    (∃ key, shard = shardOf store.shardDigits key) ∧ node = .directory := by
  rcases isShown.known _ _ member with ⟨key, shape, isDirectory⟩ | ⟨key, entry, shape, _, _⟩
  · simp only [shardPlace, List.cons.injEq, and_true] at shape
    exact ⟨⟨key, shape⟩, isDirectory⟩
  · simp [entryPlace] at shape

/-- There is no file for a key without an entry. -/
theorem node?_entry_of_none
    (isShown : Shows store tree contents)
    (absent : contents key = none) :
    tree.node? (entryPlace store key) = none := by
  rw [node?_eq_none (by simp [entryPlace])]
  intro node member
  obtain ⟨other, entry, _, sameName, held, _⟩ := isShown.known_in_shard member
  obtain rfl := entryName_inj.mp sameName
  rw [absent] at held
  exact absurd held (by simp)

/-- Where a new file is made there is nothing. -/
theorem node?_temporary
    (isShown : Shows store tree contents)
    (shard : String)
    (tag : String) :
    tree.node? [shard, temporaryName (entryName key) tag] = none := by
  rw [node?_eq_none (by simp)]
  intro node member
  obtain ⟨other, entry, _, sameName, _, _⟩ := isShown.known_in_shard member
  exact temporaryName_ne_entryName key other tag sameName

/-- The shard of a key is a directory if it is there. -/
theorem node?_shard
    (isShown : Shows store tree contents)
    (key : Key) :
    tree.node? (shardPlace store key) = none ∨
      tree.node? (shardPlace store key) = some .directory := by
  cases found : tree.node? (shardPlace store key) with
  | none =>
      exact Or.inl rfl
  | some node =>
      rw [isShown.distinct.node?_eq_some (by simp [shardPlace])] at found
      obtain ⟨_, rfl⟩ := isShown.known_shard found
      exact Or.inr rfl

/-- The shard of an entry is there. -/
theorem node?_shard_of_some
    {entry : Entry}
    (isShown : Shows store tree contents)
    (held : contents key = some entry) :
    tree.node? (shardPlace store key) = some .directory :=
  (isShown.distinct.node?_eq_some (by simp [shardPlace])).mpr (isShown.sharded key entry held)

end Shows

/-- The empty directory of a store shows no contents. -/
theorem shows_empty
    {store : Store}
    {disk : Disk}
    {place : Place}
    (empty : disk.below place = []) :
    Shows store (disk.sub place) .empty := by
  have nothing : (disk.sub place).entries = [] := empty
  refine ⟨?_, ?_, ?_, ?_, ?_⟩
  · rw [Distinct, nothing]
    exact List.nodup_nil
  · intro other node member
    rw [nothing] at member
    exact absurd member List.not_mem_nil
  · intro key entry held
    exact absurd held (by simp [Contents.empty])
  · intro key entry held
    exact absurd held (by simp [Contents.empty])
  · intro key entry held
    exact absurd held (by simp [Contents.empty])

/-! ## Files -/

section Operations

variable {store : Store} {disk : Disk} {place : Place} {contents : Contents} {key : Key}

/-- What is at the place of a shard. -/
theorem node?_append_shardPlace (disk : Disk) :
    disk.node? (place ++ shardPlace store key) =
      (disk.sub place).node? (shardPlace store key) :=
  (node?_sub disk place (by simp [shardPlace])).symm

/-- What is at a place in a shard. -/
theorem node?_append_shardPlace_append
    (disk : Disk)
    (name : String) :
    disk.node? (place ++ shardPlace store key ++ [name]) =
      (disk.sub place).node? [shardOf store.shardDigits key, name] := by
  rw [List.append_assoc]
  exact (node?_sub disk place (by simp)).symm

/-- An entry has its shard, which is reached, and its file in it. -/
theorem reaches_entry
    {entry : Entry}
    (ready : Ready store disk place)
    (isShown : Shows store (disk.sub place) contents)
    (held : contents key = some entry) :
    disk.Reaches (store.shardPath key) (place ++ shardPlace store key) ∧
      ∃ modified, disk.node? (place ++ shardPlace store key ++ [entryName key]) =
        some (.file (Store.encodeEntry entry) modified) := by
  constructor
  · exact ready.shard_reaches
      ((node?_append_shardPlace disk).trans (isShown.node?_shard_of_some held))
  · rw [node?_append_shardPlace_append]
    exact isShown.node?_entry held

/-- The file of an entry is read. -/
theorem read_entry
    {entry : Entry}
    (ready : Ready store disk place)
    (isShown : Shows store (disk.sub place) contents)
    (held : contents key = some entry) :
    disk.read (store.entryPath key) = .ok (Store.encodeEntry entry) := by
  obtain ⟨reaches, modified, isFile⟩ := reaches_entry ready isShown held
  exact reaches.read_file (isName_entryName key) (ready.entryFits key) isFile

/-- There is nothing to read for a key without an entry. -/
theorem read_entry_of_none
    (ready : Ready store disk place)
    (isShown : Shows store (disk.sub place) contents)
    (absent : contents key = none) :
    disk.read (store.entryPath key) = .error .noSuchFile := by
  rcases isShown.node?_shard key with isVacant | isDirectory
  · rw [← node?_append_shardPlace] at isVacant
    exact ready.reaches.read_missing (ready.isName_shard key) (isName_entryName key)
      (ready.entryFits key) isVacant
  · rw [← node?_append_shardPlace] at isDirectory
    have isVacant := isShown.node?_entry_of_none absent
    rw [entryPlace, ← node?_append_shardPlace_append] at isVacant
    exact (ready.shard_reaches isDirectory).read_vacant (isName_entryName key)
      (ready.entryFits key) isVacant

/-- The file of an entry is removed. -/
theorem removeFile_entry
    {entry : Entry}
    (ready : Ready store disk place)
    (isShown : Shows store (disk.sub place) contents)
    (held : contents key = some entry) :
    disk.removeFile (store.entryPath key) =
      .ok (disk.erase (place ++ entryPlace store key)) := by
  obtain ⟨reaches, modified, isFile⟩ := reaches_entry ready isShown held
  have removed := reaches.removeFile_file (isName_entryName key) (ready.entryFits key) isFile
  rwa [List.append_assoc] at removed

/-- There is nothing to remove for a key without an entry. -/
theorem removeFile_entry_of_none
    (ready : Ready store disk place)
    (isShown : Shows store (disk.sub place) contents)
    (absent : contents key = none) :
    disk.removeFile (store.entryPath key) = .error .noSuchFile := by
  rcases isShown.node?_shard key with isVacant | isDirectory
  · rw [← node?_append_shardPlace] at isVacant
    exact ready.reaches.removeFile_missing (ready.isName_shard key) (isName_entryName key)
      (ready.entryFits key) isVacant
  · rw [← node?_append_shardPlace] at isDirectory
    have isVacant := isShown.node?_entry_of_none absent
    rw [entryPlace, ← node?_append_shardPlace_append] at isVacant
    exact (ready.shard_reaches isDirectory).removeFile_vacant (isName_entryName key)
      (ready.entryFits key) isVacant

/-! ## Looking up -/

/-- What a look-up of a key comes to. -/
def Contents.lookup (contents : Contents) (key : Key) (now : Instant) : Lookup :=
  match contents key with
  | none => .absent
  | some entry => if entry.isExpiredAt now then .expired else .hit entry

/-- Looking up a key comes to what the contents have under it. -/
theorem Store.lookup_eq
    (ready : Ready store disk place)
    (isShown : Shows store (disk.sub place) contents)
    (key : Key)
    (now : Instant) :
    store.lookup disk key now = .ok (contents.lookup key now) := by
  unfold Store.lookup
  rw [Contents.lookup]
  cases held : contents key with
  | none =>
      rw [read_entry_of_none ready isShown held]
  | some entry =>
      have valid := isShown.valid key entry held
      rw [read_entry ready isShown held]
      dsimp only
      rw [Store.inspect, Store.decodeEntry?_encodeEntry valid.storable]
      simp [valid.key, valid.schemaVersion]

/-- The entry that contents have under a key, if it is fresh. -/
def Contents.fresh (contents : Contents) (key : Key) (now : Instant) : Option Entry :=
  (contents key).filter fun entry => !entry.isExpiredAt now

/-- What is fresh is what the contents have and is not expired. -/
theorem Contents.fresh_eq_some
    {entry : Entry}
    {now : Instant} :
    contents.fresh key now = some entry ↔
      contents key = some entry ∧ entry.isExpiredAt now = false := by
  rw [Contents.fresh, Option.filter_eq_some_iff, Bool.not_eq_true']

/-- What a look-up finds is what is fresh. -/
theorem Contents.entry?_lookup
    (key : Key)
    (now : Instant) :
    Lookup.entry? (contents.lookup key now) = contents.fresh key now := by
  rw [Contents.lookup, Contents.fresh]
  cases contents key with
  | none =>
      rfl
  | some entry =>
      cases expired : entry.isExpiredAt now with
      | false =>
          simp [ Lookup.entry?, expired, Option.filter_some]
      | true =>
          simp [ Lookup.entry?, expired, Option.filter_some]

/-- Whatever a store holds, an entry that is found is for its key, and fresh. -/
theorem Store.of_get_eq_some
    {entry : Entry}
    {now : Instant}
    (isFound : (store.get disk key now).1 = .ok (some entry)) :
    entry.key = key ∧ entry.schemaVersion = store.schemaVersion ∧
      entry.isExpiredAt now = false := by
  unfold Store.get Store.lookup at isFound
  generalize disk.read (store.entryPath key) = read at isFound
  cases read with
  | error error =>
      cases error <;> exact absurd isFound (by simp [ Lookup.entry?])
  | ok content =>
      have isHit : Lookup.entry? (store.inspect key now content) = some entry := by
        simpa using isFound
      unfold Store.inspect at isHit
      split at isHit
      · exact absurd isHit (by simp [ Lookup.entry?])
      · rename_i found _
        split at isHit
        · exact absurd isHit (by simp [ Lookup.entry?])
        · rename_i matching
          split at isHit
          · exact absurd isHit (by simp [ Lookup.entry?])
          · rename_i isFresh
            obtain rfl := Option.some.inj isHit
            simp only [ne_eq, Bool.or_eq_true, decide_eq_true_eq, not_or, Decidable.not_not]
              at matching
            exact ⟨matching.1, matching.2, Bool.not_eq_true _ ▸ isFresh⟩

/-- What is found is what the contents have under the key, if it is fresh. -/
theorem Store.get_spec
    (ready : Ready store disk place)
    (isShown : Shows store (disk.sub place) contents)
    (key : Key)
    (now : Instant) :
    store.get disk key now =
      (.ok (contents.fresh key now),
        { store with metrics := store.metrics.afterLookup (contents.lookup key now) }) := by
  unfold Store.get
  rw [Store.lookup_eq ready isShown, ← Contents.entry?_lookup]

/-! ## What can be found -/

/-- What look-ups in a store can find: what can be read as entries in the files of keys. -/
def Store.findable (store : Store) (disk : Disk) : Contents := fun key =>
  ((disk.read (store.entryPath key)).toOption.bind decodeEntry?).filter fun entry =>
    entry.key = key && entry.schemaVersion = store.schemaVersion

/-- What is found is what can be found and is fresh. -/
theorem Store.fresh_findable
    (store : Store)
    (disk : Disk)
    (key : Key)
    (now : Instant) :
    (store.findable disk).fresh key now = (store.get disk key now).1.toOption.join := by
  rw [Contents.fresh, Store.findable, Store.get, Store.lookup]
  cases disk.read (store.entryPath key) with
  | error error =>
      cases error <;> rfl
  | ok content =>
      simp only [Except.toOption, Option.bind_some, Option.join_some, Store.inspect]
      cases decodeEntry? content with
      | none =>
          rfl
      | some entry =>
          by_cases isOther : entry.key = key ∧ entry.schemaVersion = store.schemaVersion
          · cases isExpired : entry.isExpiredAt now <;>
              simp [isOther, isExpired, Lookup.entry?, Option.filter]
          · have isForeign : (decide (entry.key = key) &&
                decide (entry.schemaVersion = store.schemaVersion)) = false := by
              simpa using isOther
            have differs := Decidable.not_and_iff_or_not.mp isOther
            simp [isForeign, differs, Lookup.entry?, Option.filter]

/-- What can be found in the directory of a store is what the directory shows. -/
theorem Shows.findable_eq
    (ready : Ready store disk place)
    (isShown : Shows store (disk.sub place) contents) :
    store.findable disk = contents := by
  funext key
  rw [Store.findable]
  cases held : contents key with
  | none =>
      rw [read_entry_of_none ready isShown held]
      rfl
  | some entry =>
      have valid := isShown.valid key entry held
      rw [read_entry ready isShown held]
      simp [Except.toOption, Store.decodeEntry?_encodeEntry valid.storable, valid.key,
        valid.schemaVersion]

/-- What is read in the file of a key is in a file below the directory of the store, if there
are no links. -/
theorem exists_file_of_read
    {content : Bytes}
    (noLinks : disk.NoLinks place)
    (ready : Ready store disk place)
    (isRead : disk.read (store.entryPath key) = .ok content) :
    ∃ modified, disk.node? (place ++ entryPlace store key) = some (.file content modified) := by
  obtain ⟨there, modified, isFound⟩ : ∃ there modified,
      disk.find true (store.entryPath key) = .ok (there, .file content modified) := by
    rw [Disk.read] at isRead
    split at isRead
    · simp at isRead
    · rename_i there other modified isFound
      obtain rfl := Except.ok.inj isRead
      exact ⟨there, modified, isFound⟩
    · simp at isRead
    · simp at isRead
  have isShard := ready.isName_shard key
  have isEntry := isName_entryName key
  obtain ⟨remaining, continues⟩ := ready.reaches.exists_follow_append
  have leads := follow_of_find isFound
  rw [Store.entryPath, Path.steps_child (ready.shardPath_ne_empty key) isEntry, Store.shardPath,
    Path.names_child ready.reaches.isFollowed.nonempty isShard, List.append_assoc,
    continues _ _ (by simp)] at leads
  have isThere : there = place ++ entryPlace store key := by
    refine noLinks.place_of_follow ?_ List.prefix_rfl leads
    simp [isShard.notHere, isShard.notAbove, isEntry.notHere, isEntry.notAbove]
  rcases node?_of_follow leads with isDirectory | isFile
  · exact absurd isDirectory (by simp)
  · exact ⟨modified, isThere ▸ isFile⟩

/-! ## Where entries come from -/

/-- There are no links below a place, and whatever can be read as an entry there is one of
certain entries. -/
structure Accounted (place : Place) (disk : Disk) (entries : List Entry) : Prop where
  noLinks : disk.NoLinks place
  known : ∀ inner ≠ [], ∀ content modified entry,
    disk.node? (place ++ inner) = some (.file content modified) →
      Store.decodeEntry? content = some entry → entry ∈ entries

/-- Below a place there is nothing that can be read as an entry. -/
theorem accounted_of_below_eq_nil
    (empty : disk.below place = []) :
    Accounted place disk [] := by
  have nothing : ∀ inner ≠ [], disk.node? (place ++ inner) = none := by
    intro inner notPlace
    rw [← node?_sub disk place notPlace, node?_eq_none notPlace]
    intro node member
    rw [show (disk.sub place).entries = [] from empty] at member
    exact absurd member List.not_mem_nil
  constructor
  · intro inner notPlace target isLink
    rw [nothing inner notPlace] at isLink
    exact absurd isLink (by simp)
  · intro inner notPlace content modified entry isFile
    rw [nothing inner notPlace] at isFile
    exact absurd isFile (by simp)

namespace Accounted

variable {before after : Disk} {entries others : List Entry} {isNew : Bytes → Prop}

/-- What is outside does not matter. -/
theorem of_sub_eq
    (accounted : Accounted place before entries)
    (same : after.sub place = before.sub place) :
    Accounted place after entries := by
  have sameNode : ∀ inner ≠ [], after.node? (place ++ inner) = before.node? (place ++ inner) := by
    intro inner notPlace
    rw [← node?_sub after place notPlace, same, node?_sub before place notPlace]
  constructor
  · intro inner notPlace
    rw [sameNode inner notPlace]
    exact accounted.noLinks inner notPlace
  · intro inner notPlace
    rw [sameNode inner notPlace]
    exact accounted.known inner notPlace

/-- What comes below a place is accounted for if what can be read in new files is. -/
theorem of_gains
    (accounted : Accounted place before entries)
    (gains : Gains isNew place before after)
    (areNew : ∀ content entry, isNew content → Store.decodeEntry? content = some entry →
      entry ∈ others)
    (isSubset : entries ⊆ others) :
    Accounted place after others := by
  refine ⟨accounted.noLinks.of_gains gains, ?_⟩
  intro inner notPlace content modified entry isFile isRead
  rcases gains inner notPlace _ isFile with wasFile | isDirectory | ⟨_, _, isNew, sameFile⟩
  · exact isSubset (accounted.known inner notPlace content modified entry wasFile isRead)
  · exact absurd isDirectory (by simp)
  · obtain ⟨rfl, rfl⟩ := Node.file.inj sameFile
    exact areNew content entry isNew isRead

/-- What can be found in a store is accounted for. -/
theorem of_findable
    {entry : Entry}
    (accounted : Accounted place disk entries)
    (ready : Ready store disk place)
    (held : store.findable disk key = some entry) :
    entry ∈ entries ∧ entry.key = key := by
  rw [Store.findable, Option.filter_eq_some_iff] at held
  obtain ⟨isRead, isOf⟩ := held
  obtain ⟨content, hasContent, isEntry⟩ := Option.bind_eq_some_iff.mp isRead
  have isContent : disk.read (store.entryPath key) = .ok content := by
    cases isRead : disk.read (store.entryPath key) with
    | error error =>
        rw [isRead] at hasContent
        exact absurd hasContent (by simp [Except.toOption])
    | ok other =>
        rw [isRead] at hasContent
        rw [Option.some.inj hasContent]
  obtain ⟨modified, isFile⟩ := exists_file_of_read accounted.noLinks ready isContent
  simp only [Bool.and_eq_true, decide_eq_true_iff] at isOf
  exact ⟨accounted.known _ (by simp [entryPlace]) content modified entry isFile isEntry, isOf.1⟩

end Accounted

end Operations

end SourceFacts.Cache
