import SourceFacts.Proofs.Cache.Changes
import SourceFacts.Run.Workspace

namespace SourceFacts.Run

/-!
# Workspaces whose store holds something

As long as the directory of the store of a workspace shows certain contents, looking up
a key finds what they have under it, and storing an entry puts it there. Whatever else
a workspace does with its clock or its tags does not matter to the store. If other files
may come into the directory, too, then at least nothing is found that was not stored.
-/

open Cache Config Disk Time

/-- The store of a workspace is the one that settings choose, it holds certain contents,
and outside of its directory there is a certain tree. -/
structure Holds (cache : CacheSettings) (place : Place) (outside : Disk)
    (workspace : Workspace ε π) (contents : Contents) : Prop where
  isStore : { workspace.store with metrics := {} } = Store.ofSettings cache
  ready : Ready workspace.store workspace.disk place
  isShown : Shows workspace.store (workspace.disk.sub place) contents
  isOutside : workspace.disk.prune place = outside

variable {cache : CacheSettings} {place : Place} {outside : Disk} {workspace : Workspace ε π}
  {contents : Contents}

/-- A store holds the same whatever has been counted, and whatever happens to the rest of
the workspace. -/
theorem Holds.of_metrics
    {other : Workspace ε π}
    (holds : Holds cache place outside workspace contents)
    (metrics : Metrics)
    (sameStore : other.store = { workspace.store with metrics })
    (sameDisk : other.disk = workspace.disk) :
    Holds cache place outside other contents where
  isStore := by
    rw [sameStore]
    exact holds.isStore
  ready := by
    rw [sameStore, sameDisk]
    exact holds.ready.withMetrics metrics
  isShown := by
    rw [sameStore, sameDisk]
    exact holds.isShown.withMetrics metrics
  isOutside := by
    rw [sameDisk]
    exact holds.isOutside

/-- A store holds the same whatever happens to the rest of the workspace. -/
theorem Holds.of_eq
    {other : Workspace ε π}
    (holds : Holds cache place outside workspace contents)
    (sameStore : other.store = workspace.store)
    (sameDisk : other.disk = workspace.disk) :
    Holds cache place outside other contents :=
  holds.of_metrics workspace.store.metrics sameStore sameDisk

/-- A store whose directory is empty holds nothing. -/
theorem Holds.of_empty
    (isStore : workspace.store = Store.ofSettings cache)
    (found : workspace.disk.find true cache.directory = .ok (place, .directory))
    (empty : workspace.disk.below place = [])
    (digits : 0 < cache.shardPrefixLen.toNat ∧ cache.shardPrefixLen.toNat ≤ keyDigits)
    (fits : (Store.ofSettings cache).longestPath ≤ maxPathLength) :
    Holds cache place (workspace.disk.prune place) workspace .empty := by
  have ready : Ready workspace.store workspace.disk place := by
    rw [isStore]
    exact ⟨reaches_of_below_eq_nil found empty, digits, fits⟩
  refine ⟨?_, ready, shows_empty empty, rfl⟩
  rw [isStore]
  rfl

namespace Workspace

/-- The entry that is made of a payload now. -/
def entryNow (workspace : Workspace ε π) (key : Key) (payload : Json) (ttlSeconds : UInt64)
    (source : SourceMetadata) : Entry where
  key
  payload
  createdAt := workspace.clock.read.1
  ttlSeconds
  schemaVersion := workspace.store.schemaVersion
  source

/-- Looking up a key finds what the contents have under it, if it is fresh now. -/
theorem get_spec
    (holds : Holds cache place outside workspace contents)
    (key : Key) :
    ∃ after, workspace.get key =
        (.ok (contents.fresh key workspace.clock.read.1), after) ∧
      Holds cache place outside after contents := by
  let now := workspace.clock.read.1
  let metrics := workspace.store.metrics.afterLookup (contents.lookup key now)
  have found := Store.get_spec holds.ready holds.isShown key now
  refine ⟨{ workspace with
      clock := workspace.clock.read.2
      store := { workspace.store with metrics } }, ?_, holds.of_metrics metrics rfl rfl⟩
  simp only [Workspace.get, Workspace.now]
  rw [found]

/-- Storing a payload succeeds, and an entry with it is under its key after that. -/
theorem put_spec
    {payload : Json}
    {ttlSeconds : UInt64}
    {source : SourceMetadata}
    (holds : Holds cache place outside workspace contents)
    (key : Key)
    (storable : (workspace.entryNow key payload ttlSeconds source).IsStorable) :
    ∃ after, workspace.put key payload ttlSeconds source = (.ok (), after) ∧
      Holds cache place outside after
        (contents.update key (some (workspace.entryNow key payload ttlSeconds source))) := by
  obtain ⟨metrics, changed, stored, outsideEq, isShown⟩ :=
    Store.put_spec holds.ready holds.isShown ⟨rfl, rfl, storable⟩ workspace.tagsUsed
      workspace.clock.read.1
  refine ⟨{ workspace with
      clock := workspace.clock.read.2
      tagsUsed := workspace.tagsUsed + 1
      store := { workspace.store with metrics }
      disk := changed }, ?_, ?_⟩
  · simp only [entryNow] at stored
    simp only [Workspace.put, putEntry, now, freshTag, stored]
  · exact {
      isStore := holds.isStore
      ready := (holds.ready.of_prune_eq outsideEq).withMetrics metrics
      isShown := isShown.withMetrics metrics
      isOutside := outsideEq.trans holds.isOutside }

/-- What is left of a workspace after something is stored. -/
theorem put_snd
    (workspace : Workspace ε π)
    (key : Key)
    (payload : Json)
    (ttlSeconds : UInt64)
    (source : SourceMetadata) :
    (workspace.put key payload ttlSeconds source).2 =
      { workspace with
        clock := workspace.clock.read.2
        tagsUsed := workspace.tagsUsed + 1
        store := (workspace.store.put workspace.disk
          (workspace.entryNow key payload ttlSeconds source)
          (tagText workspace.tagsUsed) workspace.clock.read.1).2.1
        disk := (workspace.store.put workspace.disk
          (workspace.entryNow key payload ttlSeconds source)
          (tagText workspace.tagsUsed) workspace.clock.read.1).2.2 } := by
  simp only [put, putEntry, freshTag, now, entryNow]

/-- What look-ups in a workspace can find. -/
def findable (workspace : Workspace ε π) : Contents := workspace.store.findable workspace.disk

/-- A look-up finds what can be found and is fresh. -/
theorem fresh_findable
    (workspace : Workspace ε π)
    (key : Key) :
    workspace.findable.fresh key workspace.clock.read.1 = (workspace.get key).1.toOption.join := by
  simp only [get, now]
  exact Store.fresh_findable workspace.store workspace.disk key workspace.clock.read.1

end Workspace

/-- As long as the store of a workspace holds contents, these are what can be found. -/
theorem Holds.findable_eq
    (holds : Holds cache place outside workspace contents) :
    workspace.findable = contents :=
  holds.isShown.findable_eq holds.ready

/-! ## Stores with other files -/

/-- The store of a workspace is the one that settings choose, and what can be read in its
directory is accounted for by certain entries, whatever else is there. -/
structure Stocks (cache : CacheSettings) (place : Place) (workspace : Workspace ε π)
    (entries : List Entry) : Prop where
  isStore : { workspace.store with metrics := {} } = Store.ofSettings cache
  ready : Ready workspace.store workspace.disk place
  accounted : Accounted place workspace.disk entries

variable {entries : List Entry}

/-- A store stocks the same whatever has been counted, and whatever happens to the rest of the
workspace. -/
theorem Stocks.of_metrics
    {other : Workspace ε π}
    (stocks : Stocks cache place workspace entries)
    (metrics : Metrics)
    (sameStore : other.store = { workspace.store with metrics })
    (sameDisk : other.disk = workspace.disk) :
    Stocks cache place other entries where
  isStore := by
    rw [sameStore]
    exact stocks.isStore
  ready := by
    rw [sameStore, sameDisk]
    exact stocks.ready.withMetrics metrics
  accounted := by
    rw [sameDisk]
    exact stocks.accounted

/-- What can be found in a workspace was stored under its key. -/
theorem Stocks.of_findable
    {key : Key}
    {entry : Entry}
    (stocks : Stocks cache place workspace entries)
    (held : workspace.findable key = some entry) :
    entry ∈ entries ∧ entry.key = key :=
  stocks.accounted.of_findable stocks.ready held

/-- A report on failures is no entry, so that what can be read below a place is accounted for as
before if a report is written, be it there or elsewhere. -/
theorem accounted_saveReport
    {disk : Disk}
    (accounted : Accounted place disk entries)
    (path : String)
    (log : Failures.Log)
    (project : String)
    (started : Instant)
    (elapsed number : Nat)
    (now : Instant) :
    Accounted place (Failures.saveReport disk path (log.report project started elapsed)
      (tagText number) now).2 entries := by
  have noReport :
      Store.decodeEntry? (Text.encode (log.report project started elapsed).pretty) = none := by
    unfold Failures.Log.report
    exact Store.decodeEntry?_pretty_of_noKey (by simp)
  unfold Failures.saveReport
  generalize Text.encode (log.report project started elapsed).pretty = content at noReport ⊢
  have noEntry : ∀ bytes entry, bytes = [] ∨ bytes = content →
      Store.decodeEntry? bytes = some entry → entry ∈ entries := by
    intro bytes entry isNew isRead
    have isNone : Store.decodeEntry? bytes = none := by
      rcases isNew with rfl | rfl
      · exact Store.decodeEntry?_nil
      · exact noReport
    exact absurd (isNone.symm.trans isRead) (by simp)
  have gains := gains_createDirectories (fun bytes => bytes = [] ∨ bytes = content) place disk
    ((Path.parent? path).getD "")
  generalize disk.createDirectories ((Path.parent? path).getD "") = ensured at gains ⊢
  obtain ⟨error | _, made⟩ := ensured
  · exact accounted.of_gains gains noEntry (List.Subset.refl entries)
  · have noSlash := noSlash_tagText number
    have noLinks := accounted.noLinks.of_gains gains
    exact accounted.of_gains (gains.trans (gains_replace noLinks noSlash path now)) noEntry
      (List.Subset.refl entries)

/-! ## What is carried on -/

/-- Looking up a key changes nothing of a store but what is counted. -/
theorem exists_metrics_get
    (store : Store)
    (disk : Disk)
    (key : Key)
    (now : Instant) :
    ∃ metrics, (store.get disk key now).2 = { store with metrics } := by
  unfold Store.get
  split <;> exact ⟨_, rfl⟩

/-- Storing an entry changes nothing of a store but what is counted, and that does not matter to
the tree. -/
theorem exists_metrics_put
    (store : Store)
    (metrics : Metrics)
    (disk : Disk)
    (entry : Entry)
    (tag : String)
    (now : Instant) :
    (∃ counted, (Store.put { store with metrics } disk entry tag now).2.1 =
        { store with metrics := counted }) ∧
      (Store.put { store with metrics } disk entry tag now).2.2 =
        (store.put disk entry tag now).2.2 := by
  have sameWrite : Store.writeEntry { store with metrics } disk entry tag now =
      store.writeEntry disk entry tag now := by
    simp only [Store.writeEntry, Store.entryPath, Store.shardPath]
  unfold Store.put
  rw [sameWrite]
  rcases store.writeEntry disk entry tag now with ⟨error | _, changed⟩
  · exact ⟨⟨_, rfl⟩, rfl⟩
  · exact ⟨⟨_, rfl⟩, rfl⟩

/-- What holds of a workspace and of what is stored in it is carried on: it is about the store
and the tree only, and it holds after a look-up, and after something is stored, of that and of
what was stored before. -/
structure Carries (holds : Workspace ε π → σ → Prop) (add : Entry → σ → σ) : Prop where
  of_eq : ∀ {workspace other : Workspace ε π} {stored : σ}, holds workspace stored →
    other.store = workspace.store → other.disk = workspace.disk → holds other stored
  of_get : ∀ {workspace : Workspace ε π} {stored : σ} (key : Key), holds workspace stored →
    holds (workspace.get key).2 stored
  of_put : ∀ {workspace : Workspace ε π} {stored : σ} (key : Key) (payload : Json)
    (ttlSeconds : UInt64) (source : SourceMetadata), holds workspace stored →
      (workspace.entryNow key payload ttlSeconds source).IsStorable →
        holds (workspace.put key payload ttlSeconds source).2
          (add (workspace.entryNow key payload ttlSeconds source) stored)

/-- The contents of a store are carried on. -/
theorem carries_holds :
    Carries (Holds cache place outside : Workspace ε π → Contents → Prop)
      (fun entry contents => contents.update entry.key (some entry)) where
  of_eq holds sameStore sameDisk := holds.of_eq sameStore sameDisk
  of_get key holds := by
    obtain ⟨after, isFound, afterHolds⟩ := Workspace.get_spec holds key
    rw [isFound]
    exact afterHolds
  of_put key payload ttlSeconds source holds storable := by
    obtain ⟨after, isStored, afterHolds⟩ := Workspace.put_spec holds key storable
    rw [isStored]
    exact afterHolds

/-- The entries that account for a store are carried on. -/
theorem carries_stocks :
    Carries (Stocks cache place : Workspace ε π → List Entry → Prop) List.cons where
  of_eq {workspace _ _} stocks sameStore sameDisk :=
    stocks.of_metrics workspace.store.metrics sameStore sameDisk
  of_get {workspace _} key stocks := by
    obtain ⟨metrics, isCounted⟩ :=
      exists_metrics_get workspace.store workspace.disk key workspace.clock.read.1
    simp only [Workspace.get, Workspace.now]
    exact stocks.of_metrics metrics isCounted rfl
  of_put {workspace _} key payload ttlSeconds source stocks storable := by
    obtain ⟨metrics, isCounted⟩ : ∃ metrics,
        (workspace.store.put workspace.disk (workspace.entryNow key payload ttlSeconds source)
          (tagText workspace.tagsUsed) workspace.clock.read.1).2.1 =
            { workspace.store with metrics } :=
      (exists_metrics_put workspace.store workspace.store.metrics _ _ _ _).1
    obtain ⟨accounted, same⟩ :=
      stocks.accounted.put stocks.ready storable workspace.tagsUsed workspace.clock.read.1
    rw [Workspace.put_snd, isCounted]
    exact ⟨stocks.isStore, (stocks.ready.of_prune_eq same).withMetrics metrics, accounted⟩

end SourceFacts.Run
