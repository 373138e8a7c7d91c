import SourceFacts.Proofs.Cache.Entries
import SourceFacts.Proofs.Disk.Removals

namespace SourceFacts.Cache

/-!
# What is listed as an entry

Whatever lies in the directory of a store, and wherever links lead: the files of entries that are
listed are those that are found by the path of an entry's name in a shard.
-/

open Disk Text Time

variable {store : Store} {disk : Disk} {path directory name : String} {place : Place}

/-! ## Names -/

/-- The items are those at the end of a list. -/
theorem eq_append_of_dropEnd?
    [BEq α] [LawfulBEq α]
    {ending items rest : List α}
    (dropped : dropEnd? ending items = some rest) :
    items = rest ++ ending := by
  have starts : ∀ {start items rest : List α},
      dropStart? start items = some rest → items = start ++ rest := by
    intro start items rest dropped
    fun_induction dropStart? start items with
    | case1 items =>
        simpa using dropped
    | case2 =>
        simp at dropped
    | case3 first start item items same inductionHypothesis =>
        rw [List.cons_append, ← inductionHypothesis dropped, eq_of_beq same]
    | case4 =>
        simp at dropped
  rw [dropEnd?, Option.map_eq_some_iff] at dropped
  obtain ⟨reversed, dropped, rfl⟩ := dropped
  have shape := congrArg List.reverse (starts dropped)
  simpa using shape

theorem isName_of_areKeyDigits
    {count : Nat}
    {ending : List Char}
    (positive : 0 < count)
    (bound : count + ending.length ≤ maxNameLength)
    (plain : ending.all isPlain = true)
    {digits : List Char}
    (areDigits : areKeyDigits count digits = true)
    (shape : name.toList = digits ++ ending) :
    IsName name := by
  simp only [areKeyDigits, Bool.and_eq_true, decide_eq_true_eq, List.all_eq_true] at areDigits
  obtain ⟨length, allDigits⟩ := areDigits
  obtain ⟨first, more, rfl⟩ : ∃ first more, digits = first :: more :=
    List.exists_cons_of_length_pos (by omega)
  have isDigit := allDigits first List.mem_cons_self
  refine isName_of_isPlain (c := first) ?_ ?_ (isPlain_of_isKeyDigit isDigit).2 ?_
  · rw [shape, List.all_append, plain, Bool.and_true, List.all_eq_true]
    exact fun c member => (isPlain_of_isKeyDigit (allDigits c member)).1
  · simp [shape]
  · rw [shape, List.length_append, length]
    exact bound

/-- The number of digits of a shard's name is in the range for it. -/
def Store.HasShards (store : Store) : Prop := 1 ≤ store.shardDigits ∧ store.shardDigits ≤ 8

theorem Store.HasShards.isName
    (hasShards : store.HasShards)
    (isShard : store.isShardName name = true) :
    IsName name :=
  isName_of_areKeyDigits hasShards.1 (Nat.le_trans hasShards.2 (by decide)) List.all_nil isShard
    (List.append_nil _).symm

theorem isName_of_isEntryName
    (isEntry : isEntryName name = true) :
    IsName name := by
  rw [isEntryName] at isEntry
  split at isEntry
  · rename_i stem dropped
    exact isName_of_areKeyDigits (by decide) (by decide) (by decide) isEntry
      (eq_append_of_dropEnd? dropped)
  · simp at isEntry

/-! ## Paths -/

/-- A path of an entry's name in a directory with a shard's name. -/
def Store.IsEntryPath (store : Store) (path : String) : Prop :=
  ∃ shard name, store.isShardName shard = true ∧ isEntryName name = true ∧
    path = Path.child (Path.child store.root shard) name

theorem Store.isEntryPath_entryPath
    (hasShards : store.HasShards)
    (key : Key) :
    store.IsEntryPath (store.entryPath key) :=
  ⟨shardOf store.shardDigits key, entryName key,
    isShardName_shardOf (Nat.le_trans hasShards.2 (by decide)) key, isEntryName_entryName key, rfl⟩

/-- A file is read by a path that finds a file. -/
theorem exists_read_iff :
    (∃ content, disk.read path = .ok content) ↔
      ∃ place content modified, disk.find true path = .ok (place, .file content modified) := by
  constructor
  · rintro ⟨content, reads⟩
    rw [Disk.read] at reads
    split at reads
    · simp at reads
    · rename_i place found modified isFound
      exact ⟨place, found, modified, isFound⟩
    · simp at reads
    · simp at reads
  · rintro ⟨place, content, modified, isFound⟩
    exact ⟨content, by rw [Disk.read, isFound]⟩

/-! ## Listing -/

theorem find_of_readDirectory
    {children : List (String × Node)}
    (listed : disk.readDirectory path = .ok children) :
    ∃ place, disk.find true path = .ok (place, .directory) ∧ children = disk.children place := by
  rw [readDirectory] at listed
  split at listed
  · simp at listed
  · rename_i place isFound
    exact ⟨place, isFound, (Except.ok.inj listed).symm⟩
  · simp at listed

theorem leadsToFile_iff :
    Store.leadsToFile disk path = true ↔ ∃ content, disk.read path = .ok content := by
  rw [exists_read_iff, Store.leadsToFile]
  constructor
  · intro leads
    split at leads
    · rename_i place content modified isFound
      exact ⟨place, content, modified, isFound⟩
    · simp at leads
  · rintro ⟨place, content, modified, isFound⟩
    rw [isFound]

/-- What is listed is a directory's, and has a wanted name. -/
theorem exists_children_of_pathsNamed
    {isWanted : String → Bool}
    {paths : List String}
    (listed : Store.pathsNamed disk directory isWanted = .ok paths) :
    ∃ inner, disk.find true directory = .ok (inner, .directory) ∧
      ∀ path, path ∈ paths ↔ ∃ name node, (name, node) ∈ disk.children inner ∧
        isWanted name = true ∧ path = Path.child directory name := by
  rw [Store.pathsNamed] at listed
  cases children : disk.readDirectory directory with
  | error error =>
      rw [children] at listed
      exact absurd listed (by simp [bind, Except.bind])
  | ok items =>
      obtain ⟨inner, isDirectory, rfl⟩ := find_of_readDirectory children
      rw [children] at listed
      obtain rfl := Except.ok.inj listed
      refine ⟨inner, isDirectory, fun path => ?_⟩
      rw [List.mem_map]
      constructor
      · rintro ⟨⟨name, node⟩, member, rfl⟩
        obtain ⟨isChild, isWanted⟩ := List.mem_filter.mp member
        exact ⟨name, node, isChild, isWanted, rfl⟩
      · rintro ⟨name, node, isChild, isWanted, rfl⟩
        exact ⟨(name, node), List.mem_filter.mpr ⟨isChild, isWanted⟩, rfl⟩

/-- The files that are listed in a directory are those that a wanted name finds in it. -/
theorem mem_filesNamed
    {isWanted : String → Bool}
    {files : List String}
    (areNames : ∀ name, isWanted name = true → IsName name)
    (listed : Store.filesNamed disk directory isWanted = .ok files) :
    path ∈ files ↔
      (∃ name, isWanted name = true ∧ path = Path.child directory name) ∧
        ∃ content, disk.read path = .ok content := by
  rw [Store.filesNamed] at listed
  cases named : Store.pathsNamed disk directory isWanted with
  | error error =>
      rw [named] at listed
      exact absurd listed (by simp [bind, Except.bind])
  | ok paths =>
      obtain ⟨place, isDirectory, isNamed⟩ := exists_children_of_pathsNamed named
      rw [named] at listed
      obtain rfl := Except.ok.inj listed
      rw [List.mem_filter, isNamed, leadsToFile_iff]
      constructor
      · rintro ⟨⟨name, node, _, isWanted, rfl⟩, reads⟩
        exact ⟨⟨name, isWanted, rfl⟩, reads⟩
      · rintro ⟨⟨name, isWanted, rfl⟩, reads⟩
        obtain ⟨target, content, modified, isFound⟩ := exists_read_iff.mp reads
        obtain ⟨node, isChild⟩ := exists_mem_children (areNames name isWanted) isDirectory isFound
        exact ⟨⟨name, node, isChild, isWanted, rfl⟩, reads⟩

theorem find_of_shards
    {shards : List String}
    (listed : store.shards disk = .ok shards) :
    ∃ place, disk.find true store.root = .ok (place, .directory) := by
  rw [Store.shards] at listed
  cases children : disk.readDirectory store.root with
  | error error =>
      rw [children] at listed
      exact absurd listed (by simp [bind, Except.bind])
  | ok items =>
      obtain ⟨place, isDirectory, _⟩ := find_of_readDirectory children
      exact ⟨place, isDirectory⟩

/-- The shards that are listed are the directories that a shard's name finds. -/
theorem mem_shards
    {shards : List String}
    (hasShards : store.HasShards)
    (listed : store.shards disk = .ok shards) :
    path ∈ shards ↔
      (∃ name, store.isShardName name = true ∧ path = Path.child store.root name) ∧
        ∃ place, disk.find true path = .ok (place, .directory) := by
  have isDirectory_iff : ∀ path, disk.isDirectory path = true ↔
      ∃ place, disk.find true path = .ok (place, .directory) := by
    intro path
    rw [Disk.isDirectory]
    constructor
    · intro isDirectory
      split at isDirectory
      · rename_i place isFound
        exact ⟨place, isFound⟩
      · simp at isDirectory
    · rintro ⟨place, isFound⟩
      rw [isFound]
  rw [Store.shards] at listed
  cases children : disk.readDirectory store.root with
  | error error =>
      rw [children] at listed
      exact absurd listed (by simp [bind, Except.bind])
  | ok items =>
      obtain ⟨place, isDirectory, rfl⟩ := find_of_readDirectory children
      rw [children] at listed
      obtain rfl := Except.ok.inj listed
      rw [List.mem_filter, List.mem_map, isDirectory_iff]
      constructor
      · rintro ⟨⟨⟨name, node⟩, isChild, rfl⟩, isThere⟩
        exact ⟨⟨name, (List.mem_filter.mp isChild).2, rfl⟩, isThere⟩
      · rintro ⟨⟨name, isShard, rfl⟩, target, isFound⟩
        obtain ⟨node, isChild⟩ := exists_mem_children (hasShards.isName isShard) isDirectory isFound
        exact ⟨⟨(name, node), List.mem_filter.mpr ⟨isChild, isShard⟩, rfl⟩, target, isFound⟩

/-- What is made of items one after the other is made of one of them each. -/
theorem mem_of_mapM
    {make : α → Except ε β}
    {items : List α}
    {results : List β}
    (made : items.mapM make = .ok results) :
    (∀ result ∈ results, ∃ item ∈ items, make item = .ok result) ∧
      ∀ item ∈ items, ∃ result ∈ results, make item = .ok result := by
  induction items generalizing results with
  | nil =>
      obtain rfl := Except.ok.inj made
      simp
  | cons item rest inductionHypothesis =>
      rw [List.mapM_cons] at made
      cases first : make item with
      | error error =>
          rw [first] at made
          exact absurd made (by simp [bind, Except.bind])
      | ok result =>
          rw [first] at made
          cases others : rest.mapM make with
          | error error =>
              rw [others] at made
              exact absurd made (by simp [bind, Except.bind])
          | ok more =>
              rw [others] at made
              obtain rfl := Except.ok.inj made
              obtain ⟨isMade, isThere⟩ := inductionHypothesis others
              constructor
              · rintro other member
                rcases List.mem_cons.mp member with rfl | later
                · exact ⟨item, List.mem_cons_self, first⟩
                · obtain ⟨source, isSource, isImage⟩ := isMade other later
                  exact ⟨source, List.mem_cons_of_mem _ isSource, isImage⟩
              · rintro other member
                rcases List.mem_cons.mp member with rfl | later
                · exact ⟨result, List.mem_cons_self, first⟩
                · obtain ⟨image, isImage, same⟩ := isThere other later
                  exact ⟨image, List.mem_cons_of_mem _ isImage, same⟩

theorem exists_mapM
    {make : α → Except ε β}
    {items : List α}
    (isMade : ∀ item ∈ items, ∃ result, make item = .ok result) :
    ∃ results, items.mapM make = .ok results := by
  induction items with
  | nil =>
      exact ⟨[], rfl⟩
  | cons item rest inductionHypothesis =>
      obtain ⟨result, first⟩ := isMade item List.mem_cons_self
      obtain ⟨results, others⟩ :=
        inductionHypothesis fun other member => isMade other (List.mem_cons_of_mem _ member)
      refine ⟨result :: results, ?_⟩
      rw [List.mapM_cons, first, others]
      rfl

/-- The files of entries that are listed are those that are read by the path of an entry. -/
theorem mem_entryFiles
    {files : List String}
    (hasShards : store.HasShards)
    (listed : store.entryFiles disk = .ok files) :
    path ∈ files ↔ store.IsEntryPath path ∧ ∃ content, disk.read path = .ok content := by
  have areNames : ∀ name, isEntryName name = true → IsName name :=
    fun _ => isName_of_isEntryName
  rw [Store.entryFiles] at listed
  cases isListed : store.shards disk with
  | error error =>
      rw [isListed] at listed
      exact absurd listed (by simp [bind, Except.bind])
  | ok shards =>
      rw [isListed] at listed
      cases isMade : shards.mapM fun shard => Store.filesNamed disk shard isEntryName with
      | error error =>
          have fails : (.error error : Except OsError (List String)) = .ok files := by
            rw [← listed]
            change _ = (do
              let files ← shards.mapM fun shard => Store.filesNamed disk shard isEntryName
              return files.flatten)
            rw [isMade]
            rfl
          exact absurd fails (by simp)
      | ok lists =>
          have whole : (.ok lists.flatten : Except OsError (List String)) = .ok files := by
            rw [← listed]
            change _ = (do
              let files ← shards.mapM fun shard => Store.filesNamed disk shard isEntryName
              return files.flatten)
            rw [isMade]
            rfl
          obtain rfl := Except.ok.inj whole
          obtain ⟨made, isThere⟩ := mem_of_mapM isMade
          rw [List.mem_flatten]
          constructor
          · rintro ⟨list, isList, member⟩
            obtain ⟨shard, isShard, listed⟩ := made list isList
            obtain ⟨⟨shardName, isShardName, rfl⟩, _⟩ := (mem_shards hasShards isListed).mp isShard
            obtain ⟨⟨name, isEntry, rfl⟩, reads⟩ := (mem_filesNamed areNames listed).mp member
            exact ⟨⟨shardName, name, isShardName, isEntry, rfl⟩, reads⟩
          · rintro ⟨⟨shardName, name, isShardName, isEntry, rfl⟩, reads⟩
            obtain ⟨top, isTop⟩ := find_of_shards isListed
            have isPath := Path.child_ne_empty (isFollowed_of_find isTop).nonempty
              (hasShards.isName isShardName)
            obtain ⟨_, _, _, isFound⟩ := exists_read_iff.mp reads
            have isShard := (mem_shards hasShards isListed).mpr ⟨⟨shardName, isShardName, rfl⟩,
              exists_directory_of_find_child isPath (areNames name isEntry) isFound⟩
            obtain ⟨list, isList, listed⟩ := isThere _ isShard
            exact ⟨list, isList,
              (mem_filesNamed areNames listed).mpr ⟨⟨name, isEntry, rfl⟩, reads⟩⟩

end SourceFacts.Cache
