import SourceFacts.Cache.Entry
import SourceFacts.Cache.Metrics
import SourceFacts.Config.Settings
import SourceFacts.Disk.Replace
import SourceFacts.Json.Parser
import SourceFacts.Json.Printer

namespace SourceFacts.Cache

/-!
# The store of a cache

Entries are files in a directory tree: the first digits of a key name a shard, a
directory of the store, and all digits name the file. What cannot be read as an
entry, is not fresh or has another schema version is as good as not there.
-/

open Config Disk Hash Json Text Time

/-- A cache on disk. -/
structure Store where
  root : String
  /-- How many digits of a key name its shard. -/
  shardDigits : Nat
  schemaVersion : String
  metrics : Metrics := {}
deriving Repr, DecidableEq, Inhabited

/-! ## Names -/

/-- The number of digits of a key. -/
def keyDigits : Nat := 64

/-- Whether a character is a lower-case digit of a key. -/
def isKeyDigit (c : Char) : Bool := ('0' ≤ c && c ≤ '9') || ('a' ≤ c && c ≤ 'f')

/-- Whether characters are a number of lower-case digits of a key. -/
def areKeyDigits (count : Nat) (chars : List Char) : Bool :=
  chars.length = count && chars.all isKeyDigit

/-- What follows the key in the name of an entry's file. -/
def entryEnding : String := ".json"

/-- The name of the file of an entry. -/
def entryName (key : Key) : String := key.toHex ++ entryEnding

/-- Whether a name is that of an entry's file. -/
def isEntryName (name : String) : Bool :=
  match dropEnd? entryEnding.toList name.toList with
  | some stem => areKeyDigits keyDigits stem
  | none => false

/-- Whether a name is that of a file from which an entry's file was to be made. -/
def isTemporaryName (name : String) : Bool :=
  match name.toList with
  | '.' :: rest =>
      match splitAtFirst? (entryEnding ++ ".").toList rest with
      | some (stem, ending) => areKeyDigits keyDigits stem && ".tmp".toList.isSuffixOf ending
      | none => false
  | _ => false

/-! ## Outcomes of look-ups -/

/-- What a look-up comes to. -/
inductive Lookup where
  | hit (entry : Entry)
  | absent
  | corrupted
  /-- There is an entry for another key or schema version. -/
  | foreign
  | expired
deriving Repr

/-- The metrics after a look-up. -/
def Metrics.afterLookup (metrics : Metrics) : Lookup → Metrics
  | .hit _ => { metrics with hits := metrics.hits + 1 }
  | .absent | .foreign => { metrics with misses := metrics.misses + 1 }
  | .corrupted =>
      { metrics with misses := metrics.misses + 1, corrupted := metrics.corrupted + 1 }
  | .expired => { metrics with misses := metrics.misses + 1, expired := metrics.expired + 1 }

/-- The entry that a look-up found. -/
def Lookup.entry? : Lookup → Option Entry
  | .hit entry => some entry
  | _ => none

namespace Store

/-- Whether a name is that of a shard. -/
def isShardName (store : Store) (name : String) : Bool :=
  areKeyDigits store.shardDigits name.toList

/-- The path of the shard of a key. -/
def shardPath (store : Store) (key : Key) : String :=
  Path.child store.root (shardOf store.shardDigits key)

/-- The path of the file of a key's entry. -/
def entryPath (store : Store) (key : Key) : String :=
  Path.child (store.shardPath key) (entryName key)

/-! ## Opening -/

/-- The store that settings choose. -/
def ofSettings (settings : CacheSettings) : Store where
  root := settings.directory
  shardDigits := settings.shardPrefixLen.toNat
  schemaVersion := settings.schemaVersion

/-- Opens a store, whose directory is made if it is not there. -/
def start (settings : CacheSettings) (registry : Registry) (disk : Disk) :
    Except Failure (Store × Registry) × Disk :=
  match disk.createDirectories settings.directory with
  | (.error error, disk) => (.error (.io error), disk)
  | (.ok (), disk) =>
      (registry.registerCache.map fun registry => (ofSettings settings, registry), disk)

/-! ## Looking up -/

/-- The entry that the content of a file stands for. -/
def decodeEntry? (content : Bytes) : Option Entry := do
  Entry.ofJson? (← Json.parse? (← decode? content))

/-- What looking up a key in the content of its file comes to. -/
def inspect (store : Store) (key : Key) (now : Instant) (content : Bytes) : Lookup :=
  match decodeEntry? content with
  | none => .corrupted
  | some entry =>
      if entry.key ≠ key || entry.schemaVersion ≠ store.schemaVersion then .foreign
      else if entry.isExpiredAt now then .expired
      else .hit entry

/-- What looking up a key comes to. -/
def lookup (store : Store) (disk : Disk) (key : Key) (now : Instant) : Except Failure Lookup :=
  match disk.read (store.entryPath key) with
  | .ok content => .ok (store.inspect key now content)
  | .error .noSuchFile => .ok .absent
  | .error error => .error (.io error)

/-- The fresh entry of a key, if there is one. -/
def get (store : Store) (disk : Disk) (key : Key) (now : Instant) :
    Except Failure (Option Entry) × Store :=
  match store.lookup disk key now with
  | .error failure => (.error failure, store)
  | .ok lookup => (.ok lookup.entry?, { store with metrics := store.metrics.afterLookup lookup })

/-! ## Storing -/

/-- The content of the file of an entry. -/
def encodeEntry (entry : Entry) : Bytes := encode entry.toJson.compact

/-- Writes the file of an entry. -/
def writeEntry (store : Store) (disk : Disk) (entry : Entry) (tag : String) (now : Instant) :
    Except OsError Unit × Disk :=
  match disk.createDirectories (store.shardPath entry.key) with
  | (.error error, disk) => (.error error, disk)
  | (.ok (), disk) => disk.replace (store.entryPath entry.key) (encodeEntry entry) tag now

/-- Stores an entry, in place of one with the same key. -/
def put (store : Store) (disk : Disk) (entry : Entry) (tag : String) (now : Instant) :
    Except Failure Unit × Store × Disk :=
  match store.writeEntry disk entry tag now with
  | (.error error, disk) => (.error (.io error), store, disk)
  | (.ok (), disk) =>
      let metrics := { store.metrics with writes := store.metrics.writes + 1 }
      (.ok (), { store with metrics }, disk)

/-- Removes the entry of a key, and tells whether there was one. -/
def invalidate (store : Store) (disk : Disk) (key : Key) : Except Failure Bool × Disk :=
  match disk.removeFile (store.entryPath key) with
  | .ok disk => (.ok true, disk)
  | .error .noSuchFile => (.ok false, disk)
  | .error error => (.error (.io error), disk)

/-! ## Maintenance -/

/-- The paths of what in a directory has a name of some kind. -/
def pathsNamed (disk : Disk) (directory : String) (isWanted : String → Bool) :
    Except OsError (List String) := do
  let children ← disk.readDirectory directory
  return (children.filter fun child => isWanted child.1).map fun child =>
    Path.child directory child.1

/-- Whether a path leads to a file. -/
def leadsToFile (disk : Disk) (path : String) : Bool :=
  match disk.find true path with
  | .ok (_, .file ..) => true
  | _ => false

/-- The paths of the files of a directory whose names are of some kind. -/
def filesNamed (disk : Disk) (directory : String) (isWanted : String → Bool) :
    Except OsError (List String) := do
  let paths ← pathsNamed disk directory isWanted
  return paths.filter (leadsToFile disk)

/-- The paths of the shards. -/
def shards (store : Store) (disk : Disk) : Except OsError (List String) := do
  let children ← disk.readDirectory store.root
  let paths := (children.filter fun child => store.isShardName child.1).map fun child =>
    Path.child store.root child.1
  return paths.filter disk.isDirectory

/-- The paths of the files of entries. -/
def entryFiles (store : Store) (disk : Disk) : Except OsError (List String) := do
  let shards ← store.shards disk
  let files ← shards.mapM fun shard => filesNamed disk shard isEntryName
  return files.flatten

/-- The number of entries, fresh or not. -/
def count (store : Store) (disk : Disk) : Except Failure Nat :=
  match store.entryFiles disk with
  | .ok files => .ok files.length
  | .error error => .error (.io error)

/-- Removes those of some paths that lead to files when it is their turn, until one cannot be
removed. -/
def removeFiles (disk : Disk) : List String → Except OsError Unit × Disk
  | [] => (.ok (), disk)
  | path :: rest =>
      if leadsToFile disk path then
        match disk.removeFile path with
        | .error error => (.error error, disk)
        | .ok disk => removeFiles disk rest
      else removeFiles disk rest

/-- Whether a name is that of a file that belongs to the store. -/
def isOwnName (name : String) : Bool := isEntryName name || isTemporaryName name

/-- Removes what belongs to the store from shards, and the shards that are empty
then. -/
def clearShards (disk : Disk) : List String → Except OsError Unit × Disk
  | [] => (.ok (), disk)
  | shard :: rest =>
      match pathsNamed disk shard isOwnName with
      | .error error => (.error error, disk)
      | .ok paths =>
          match removeFiles disk paths with
          | (.error error, disk) => (.error error, disk)
          | (.ok (), disk) => clearShards ((disk.removeDirectory shard).toOption.getD disk) rest

/-- Removes all entries and what is left of unfinished ones. -/
def clear (store : Store) (disk : Disk) : Except Failure Unit × Disk :=
  match store.shards disk with
  | .error error => (.error (.io error), disk)
  | .ok shards =>
      match clearShards disk shards with
      | (.error error, disk) => (.error (.io error), disk)
      | (.ok (), disk) => (.ok (), disk)

/-- Whether the content of an entry's file will never be found again. -/
def isStale (store : Store) (now : Instant) (content : Bytes) : Bool :=
  match decodeEntry? content with
  | none => true
  | some entry => entry.isExpiredAt now || entry.schemaVersion ≠ store.schemaVersion

/-- Removes the stale ones of some files, and counts them. -/
def purgeFiles (store : Store) (now : Instant) (removed : Nat) (disk : Disk) :
    List String → Except OsError Nat × Disk
  | [] => (.ok removed, disk)
  | path :: rest =>
      match disk.read path with
      | .error .noSuchFile => store.purgeFiles now removed disk rest
      | .error error => (.error error, disk)
      | .ok content =>
          if store.isStale now content then
            match disk.removeFile path with
            | .error error => (.error error, disk)
            | .ok disk => store.purgeFiles now (removed + 1) disk rest
          else store.purgeFiles now removed disk rest

/-- Removes the entries that will never be found again, and counts them. -/
def purge (store : Store) (disk : Disk) (now : Instant) : Except Failure Nat × Disk :=
  match store.entryFiles disk with
  | .error error => (.error (.io error), disk)
  | .ok files =>
      match store.purgeFiles now 0 disk files with
      | (.error error, disk) => (.error (.io error), disk)
      | (.ok removed, disk) => (.ok removed, disk)

end Store

end SourceFacts.Cache
