import SourceFacts.Proofs.Cache.Maintenance

namespace SourceFacts.Cache

/-!
# What a store gives back

A store is a map of keys to entries, and it gives back their payloads as far as these can be read.
-/

/-!
## Histories of a store

A store that begins with an empty directory behaves like a map from keys to
entries: what is found under a key is what was stored last, unless it was removed
since or is no longer fresh.
-/

open Disk Text Time

/-! ### Operations -/

/-- What is stored under a key. -/
structure Deposit where
  key : Key
  payload : Json
  createdAt : Instant
  ttlSeconds : UInt64
  source : SourceMetadata

/-- The entry that a store makes of a deposit. -/
def Deposit.entry (deposit : Deposit) (store : Store) : Entry where
  key := deposit.key
  payload := deposit.payload
  createdAt := deposit.createdAt
  ttlSeconds := deposit.ttlSeconds
  schemaVersion := store.schemaVersion
  source := deposit.source

/-- Something that is done with a store. -/
inductive Operation where
  /-- Stores a deposit by way of a new file whose name has a number in it. -/
  | put (deposit : Deposit) (number : Nat) (modified : Instant)
  | get (key : Key) (now : Instant)
  | invalidate (key : Key)
  | clear
  | purge (now : Instant)

/-- What comes of an operation. -/
inductive Answer where
  | stored
  | found (held? : Option Entry)
  | invalidated (wasThere : Bool)
  | cleared
  | purged (count : Nat)

namespace Operation

/-- Does something with a store in a tree. -/
def perform (operation : Operation) (store : Store) (disk : Disk) :
    Except Failure Answer × Store × Disk :=
  match operation with
  | .put deposit number modified =>
      let (result, store, disk) :=
        store.put disk (deposit.entry store) (tagText number) modified
      (result.map fun _ => .stored, store, disk)
  | .get key now =>
      let (result, store) := store.get disk key now
      (result.map .found, store, disk)
  | .invalidate key =>
      let (result, disk) := store.invalidate disk key
      (result.map .invalidated, store, disk)
  | .clear =>
      let (result, disk) := store.clear disk
      (result.map fun _ => .cleared, store, disk)
  | .purge now =>
      let (result, disk) := store.purge disk now
      (result.map .purged, store, disk)

/-- The store and the tree after one operation after another. -/
def performAll : List Operation → Store → Disk → Store × Disk
  | [], store, disk => (store, disk)
  | operation :: rest, store, disk =>
      let (_, store, disk) := operation.perform store disk
      performAll rest store disk

/-- An operation whose deposit can be stored, if there is one. -/
def IsStorable : Operation → Prop
  | .put deposit _ _ => Cache.IsStorable deposit.payload ∧ deposit.createdAt.IsValid
  | _ => True

/-- The key that an operation is about, if it is about one. -/
def key? : Operation → Option Key
  | .put deposit _ _ => some deposit.key
  | .get key _ => some key
  | .invalidate key => some key
  | .clear | .purge _ => none

/-- An operation does not take an entry away from a key. -/
def Keeps (key : Key) (entry : Entry) : Operation → Prop
  | .put deposit _ _ => deposit.key ≠ key
  | .get _ _ => True
  | .invalidate other => other ≠ key
  | .clear => False
  | .purge now => entry.isExpiredAt now = false

end Operation

/-- An entry was stored under a key, and nothing that was done later took it away. -/
def Stands (store : Store) (history : List Operation) (key : Key) (entry : Entry) : Prop :=
  ∃ earlier deposit number modified later,
    history = earlier ++ .put deposit number modified :: later ∧ deposit.key = key ∧
      deposit.entry store = entry ∧ ∀ operation ∈ later, operation.Keeps key entry

/-! ### Contents after a history -/

variable {store : Store} {disk : Disk} {place : Place} {contents : Contents} {key : Key}

/-- The contents after an operation. -/
def Contents.after (store : Store) (contents : Contents) : Operation → Contents
  | .put deposit _ _ => contents.update deposit.key (some (deposit.entry store))
  | .get _ _ => contents
  | .invalidate key => contents.update key none
  | .clear => .empty
  | .purge now => fun key => (contents key).filter fun entry => !entry.isExpiredAt now

/-- The contents after operations on an empty store. -/
def contentsAfter (store : Store) (history : List Operation) : Contents :=
  history.foldl (Contents.after store) .empty

/-- An operation stores an entry under a key. -/
def Operation.Puts (store : Store) (key : Key) (entry : Entry) (operation : Operation) : Prop :=
  ∃ deposit number modified, operation = .put deposit number modified ∧ deposit.key = key ∧
    deposit.entry store = entry

/-- What is under a key after an operation was stored by it or kept by it. -/
theorem Contents.after_eq_some
    {operation : Operation}
    {entry : Entry} :
    contents.after store operation key = some entry ↔
      operation.Puts store key entry ∨ contents key = some entry ∧ operation.Keeps key entry := by
  cases operation with
  | put deposit number modified =>
      by_cases same : deposit.key = key
      · simp [Contents.after, Contents.update, Operation.Puts, Operation.Keeps, same]
      · have differs : key ≠ deposit.key := fun isKey => same isKey.symm
        simp [Contents.after, Contents.update, Operation.Puts, Operation.Keeps, same, differs]
  | get other now =>
      simp [Contents.after, Operation.Puts, Operation.Keeps]
  | invalidate other =>
      by_cases same : key = other
      · simp [Contents.after, Contents.update, Operation.Puts, Operation.Keeps, same]
      · have differs : other ≠ key := fun isKey => same isKey.symm
        simp [Contents.after, Contents.update, Operation.Puts, Operation.Keeps, same, differs]
  | clear =>
      simp [Contents.after, Contents.empty, Operation.Puts, Operation.Keeps]
  | purge now =>
      simp [Contents.after, Operation.Puts, Operation.Keeps, Option.filter_eq_some_iff]

/-- What stands was stored first and kept since, or stored later. -/
theorem stands_cons
    {operation : Operation}
    {rest : List Operation}
    {entry : Entry} :
    Stands store (operation :: rest) key entry ↔
      Stands store rest key entry ∨
        operation.Puts store key entry ∧ ∀ later ∈ rest, later.Keeps key entry := by
  constructor
  · rintro ⟨earlier, deposit, number, modified, later, shape, isKey, isEntry, kept⟩
    cases earlier with
    | nil =>
        obtain ⟨rfl, rfl⟩ := List.cons.inj shape
        exact Or.inr ⟨⟨deposit, number, modified, rfl, isKey, isEntry⟩, kept⟩
    | cons first others =>
        obtain ⟨rfl, rfl⟩ := List.cons.inj shape
        exact Or.inl ⟨others, deposit, number, modified, later, rfl, isKey, isEntry, kept⟩
  · rintro (⟨earlier, deposit, number, modified, later, rfl, isKey, isEntry, kept⟩ |
      ⟨⟨deposit, number, modified, rfl, isKey, isEntry⟩, kept⟩)
    · exact ⟨operation :: earlier, deposit, number, modified, later, rfl, isKey, isEntry, kept⟩
    · exact ⟨[], deposit, number, modified, rest, rfl, isKey, isEntry, kept⟩

/-- What is under a key after operations stands after them, or was there before and was
kept by all. -/
theorem foldl_after_eq_some
    {history : List Operation}
    {entry : Entry} :
    history.foldl (Contents.after store) contents key = some entry ↔
      Stands store history key entry ∨
        contents key = some entry ∧ ∀ operation ∈ history, operation.Keeps key entry := by
  induction history generalizing contents with
  | nil =>
      simp [Stands]
  | cons operation rest inductionHypothesis =>
      rw [List.foldl_cons, inductionHypothesis, stands_cons, Contents.after_eq_some, or_and_right,
        or_assoc, and_assoc, List.forall_mem_cons]

/-- What is under a key after operations on an empty store is what stands. -/
theorem contentsAfter_eq_some
    {history : List Operation}
    {entry : Entry} :
    contentsAfter store history key = some entry ↔ Stands store history key entry := by
  rw [contentsAfter, foldl_after_eq_some]
  simp [Contents.empty]

/-! ### Runs of operations -/

/-- An operation that can be done succeeds, the directory of the store shows the contents
after it, and nothing outside of the directory changes. -/
theorem Operation.perform_spec
    {operation : Operation}
    (storable : operation.IsStorable)
    (ready : Ready store disk place)
    (isShown : Shows store (disk.sub place) contents) :
    ∃ answer metrics changed,
      operation.perform store disk = (.ok answer, { store with metrics }, changed) ∧
        changed.prune place = disk.prune place ∧
        Shows store (changed.sub place) (contents.after store operation) := by
  cases operation with
  | put deposit number modified =>
      have isOf : (deposit.entry store).IsOf store deposit.key :=
        ⟨rfl, rfl, storable.1, storable.2⟩
      obtain ⟨metrics, changed, stored, outside, changedShown⟩ :=
        Store.put_spec ready isShown isOf number modified
      exact ⟨.stored, metrics, changed, by rw [Operation.perform, stored]; rfl, outside,
        changedShown⟩
  | get key now =>
      refine ⟨.found (contents.fresh key now),
        store.metrics.afterLookup (contents.lookup key now), disk, ?_, rfl, isShown⟩
      simp only [Operation.perform, Store.get_spec ready isShown, Except.map]
  | invalidate key =>
      obtain ⟨changed, removed, outside, changedShown⟩ := Store.invalidate_spec ready isShown key
      exact ⟨.invalidated (contents key).isSome, store.metrics, changed,
        by rw [Operation.perform, removed]; rfl, outside, changedShown⟩
  | clear =>
      obtain ⟨changed, cleared, outside, changedShown⟩ := Store.clear_spec ready isShown
      exact ⟨.cleared, store.metrics, changed, by rw [Operation.perform, cleared]; rfl, outside,
        changedShown⟩
  | purge now =>
      obtain ⟨total, changed, purged, outside, changedShown⟩ := Store.purge_spec ready isShown now
      exact ⟨.purged total, store.metrics, changed, by rw [Operation.perform, purged]; rfl, outside,
        changedShown⟩

/-- After operations one after another the directory of a store shows the contents after
all of them, and nothing outside of it has changed. -/
theorem Operation.performAll_spec
    {history : List Operation}
    (storable : ∀ operation ∈ history, operation.IsStorable)
    (metrics : Metrics)
    (ready : Ready store disk place)
    (isShown : Shows store (disk.sub place) contents) :
    ∃ finalMetrics changed,
      performAll history { store with metrics } disk =
          ({ store with metrics := finalMetrics }, changed) ∧
        changed.prune place = disk.prune place ∧
        Shows store (changed.sub place) (history.foldl (Contents.after store) contents) := by
  induction history generalizing disk contents metrics with
  | nil =>
      exact ⟨metrics, disk, rfl, rfl, isShown⟩
  | cons operation rest inductionHypothesis =>
      rw [List.forall_mem_cons] at storable
      obtain ⟨answer, nextMetrics, changed, performed, outside, changedShown⟩ :=
        Operation.perform_spec storable.1 (ready.withMetrics metrics) (isShown.withMetrics metrics)
      obtain ⟨finalMetrics, final, finished, finalOutside, finalShown⟩ :=
        inductionHypothesis storable.2 nextMetrics (ready.of_prune_eq outside)
          (changedShown.withMetrics store.metrics)
      exact ⟨finalMetrics, final, by rw [performAll, performed]; exact finished,
        finalOutside.trans outside, finalShown⟩

/-! ### The store as a map -/

/-- A store in a tree does what a map from keys to entries does after a history. -/
structure IsMapAfter (history : List Operation) (store : Store) (disk : Disk) : Prop where
  /-- Everything that can be done succeeds. -/
  succeeds : ∀ operation : Operation, operation.IsStorable →
    ∃ answer, (operation.perform store disk).1 = .ok answer
  /-- What is found is what stands and is fresh. -/
  get : ∀ key now, ∃ found?, (store.get disk key now).1 = .ok found? ∧
    ∀ entry, found? = some entry ↔
      Stands store history key entry ∧ entry.expiresAt.before now = false
  /-- It is told whether anything stood under an invalidated key. -/
  invalidate : ∀ key, ∃ wasThere, (store.invalidate disk key).1 = .ok wasThere ∧
    (wasThere = true ↔ ∃ entry, Stands store history key entry)
  /-- The keys under which anything stands are counted. -/
  count : ∃ keys : List Key, store.count disk = .ok keys.length ∧ keys.Nodup ∧
    ∀ key, key ∈ keys ↔ ∃ entry, Stands store history key entry
  /-- An operation on a key does not change what is found under another. -/
  separate : ∀ (operation : Operation) key now, operation.IsStorable →
    (∃ other, operation.key? = some other ∧ other ≠ key) →
      ((operation.perform store disk).2.1.get (operation.perform store disk).2.2 key now).1 =
        (store.get disk key now).1

/-- An operation on a key leaves what is under another as it is. -/
theorem Contents.after_of_key?_ne
    {operation : Operation}
    {other : Key}
    (isAbout : operation.key? = some other)
    (differs : other ≠ key) :
    contents.after store operation key = contents key := by
  have elsewhere : key ≠ other := fun same => differs same.symm
  cases operation with
  | put deposit number modified =>
      obtain rfl := Option.some.inj isAbout
      simp [Contents.after, Contents.update, elsewhere]
  | get found now =>
      rfl
  | invalidate found =>
      obtain rfl := Option.some.inj isAbout
      simp [Contents.after, Contents.update, elsewhere]
  | clear =>
      exact absurd isAbout (by simp [Operation.key?])
  | purge now =>
      exact absurd isAbout (by simp [Operation.key?])

/-- A store whose directory shows the contents after a history is a map after it. -/
theorem isMapAfter_of_shows
    {history : List Operation}
    (ready : Ready store disk place)
    (isShown : Shows store (disk.sub place) (contentsAfter store history)) :
    IsMapAfter history store disk where
  succeeds := by
    intro operation storable
    obtain ⟨answer, _, _, performed, _, _⟩ := Operation.perform_spec storable ready isShown
    exact ⟨answer, by rw [performed]⟩
  get := by
    intro key now
    refine ⟨_, by rw [Store.get_spec ready isShown], ?_⟩
    intro entry
    rw [Contents.fresh_eq_some, contentsAfter_eq_some, Entry.isExpiredAt]
  invalidate := by
    intro key
    obtain ⟨_, removed, _, _⟩ := Store.invalidate_spec ready isShown key
    refine ⟨_, by rw [removed], ?_⟩
    rw [Option.isSome_iff_exists]
    exact exists_congr fun _ => contentsAfter_eq_some
  count := by
    obtain ⟨keys, distinct, isKey, counted⟩ := Store.count_spec ready isShown
    refine ⟨keys, counted, distinct, ?_⟩
    intro key
    rw [isKey, Option.isSome_iff_exists]
    exact exists_congr fun _ => contentsAfter_eq_some
  separate := by
    rintro operation key now storable ⟨other, isAbout, differs⟩
    obtain ⟨_, metrics, changed, performed, outside, changedShown⟩ :=
      Operation.perform_spec storable ready isShown
    have changedReady := (ready.of_prune_eq outside).withMetrics metrics
    rw [performed, Store.get_spec ready isShown,
      Store.get_spec changedReady (changedShown.withMetrics metrics), Contents.fresh,
      Contents.after_of_key?_ne isAbout differs, Contents.fresh]

/-- A store that begins with an empty directory is a map from keys to entries after
every history. -/
theorem Store.isMapAfter_performAll
    (found : disk.find true store.root = .ok (place, .directory))
    (empty : disk.below place = [])
    (digits : 0 < store.shardDigits ∧ store.shardDigits ≤ keyDigits)
    (fits : store.longestPath ≤ maxPathLength)
    (history : List Operation)
    (storable : ∀ operation ∈ history, operation.IsStorable) :
    IsMapAfter history (Operation.performAll history store disk).1
      (Operation.performAll history store disk).2 := by
  have ready : Ready store disk place :=
    ⟨reaches_of_below_eq_nil found empty, digits, fits⟩
  obtain ⟨metrics, changed, finished, outside, changedShown⟩ :=
    Operation.performAll_spec storable store.metrics ready (shows_empty empty)
  rw [finished]
  exact isMapAfter_of_shows ((ready.of_prune_eq outside).withMetrics metrics)
    (changedShown.withMetrics metrics)

/-- A tree with nothing but an empty directory. -/
def bareDisk (directory : String) : Disk where
  entries := [([directory], .directory)]

/-- The empty directory is found. -/
theorem find_bareDisk :
    (bareDisk "cache").find true "cache" = .ok (["cache"], .directory) :=
  find_top (by decide) (by decide)

/-- What is stored first by a store that has an empty directory. -/
def firstDeposit : Deposit where
  key := KeyInputs.key default
  payload := .null
  createdAt := {}
  ttlSeconds := 60
  source := {}

/-- A store is a map after its first deposit. -/
theorem Store.isMapAfter_firstDeposit :
    IsMapAfter [.put firstDeposit 0 {}]
      (Operation.performAll [.put firstDeposit 0 {}] ⟨"cache", 2, "1", {}⟩ (bareDisk "cache")).1
      (Operation.performAll [.put firstDeposit 0 {}] ⟨"cache", 2, "1", {}⟩
        (bareDisk "cache")).2 := by
  refine Store.isMapAfter_performAll find_bareDisk (by decide) (by decide) (by decide) _ ?_
  rintro operation member
  obtain rfl := List.mem_singleton.mp member
  exact ⟨Json.plain_null, by decide⟩

end SourceFacts.Cache

namespace SourceFacts.Cache

/-!
## Payloads that are found again

What was stored is found again as it was stored, as long as its payload is nested less deeply
than the reader allows and the reader takes the texts of its numbers for these numbers. The
writer knows no such bounds: it stores every payload, and one that is nested too deeply is
counted as corrupted when it is looked up.
-/

open Disk Json Number Text Time

variable {store : Store} {disk : Disk} {place : Place} {deposit : Deposit} {number : Nat}

/-! ### Freshness -/

/-- What is made no later than the calendar ends is fresh when it is made, however short it
stays so. -/
theorem before_expiry_eq_false
    {created : Instant}
    (inTime : Instant.last.before created = false)
    (ttl : UInt64) :
    (expiry created ttl).before created = false := by
  cases added : created.addSeconds? (min ttl.toNat maxDuration) with
  | none =>
      rw [expiry, added]
      exact inTime
  | some later =>
      have isLater : created.seconds < later.seconds ∨ later = created := by
        rw [Instant.addSeconds?, Option.ite_none_right_eq_some, Option.some.injEq] at added
        obtain ⟨_, rfl⟩ := added
        by_cases isNow : min ttl.toNat maxDuration = 0
        · exact Or.inr (if_pos isNow)
        · simp only [if_neg isNow]
          omega
      rw [expiry, added, Option.getD_some, Instant.before]
      rcases isLater with after | rfl
      · simp only [Bool.or_eq_false_iff, Bool.and_eq_false_iff, decide_eq_false_iff_not]
        omega
      · simp

/-! ### Looking up what was written -/

/-- What looking up the key of a deposit comes to once it is stored. -/
def Deposit.lookup (deposit : Deposit) (store : Store) (now : Instant) : Lookup :=
  match recovered? deposit.payload with
  | none => .corrupted
  | some payload =>
      if (deposit.entry store).isExpiredAt now then .expired
      else .hit { deposit.entry store with payload := payload.canonical }

/-- The file of a deposit shows what looking up its key comes to. -/
theorem Store.inspect_encodeEntry
    (valid : deposit.createdAt.IsValid)
    (now : Instant) :
    store.inspect deposit.key now (encodeEntry (deposit.entry store)) =
      deposit.lookup store now := by
  rw [inspect, decodeEntry?_encode (deposit.entry store) valid, Deposit.lookup]
  cases isRead : recovered? deposit.payload with
  | none =>
      simp [Deposit.entry, isRead]
  | some payload =>
      simp [Deposit.entry, isRead]
      rfl

/-- A payload that is nested too deeply cannot be looked up. -/
theorem Deposit.lookup_of_deep
    (deep : maxOpen ≤ deposit.payload.depth)
    (store : Store)
    (now : Instant) :
    deposit.lookup store now = .corrupted := by
  rw [Deposit.lookup, recovered?, if_neg (Nat.not_lt.mpr deep)]

/-- Whatever has been counted, the file of an entry can be written where it could be. -/
theorem Accepts.withMetrics
    {key : Key}
    (accepts : Accepts store disk place key number)
    (metrics : Metrics) :
    Accepts { store with metrics } disk place key number :=
  ⟨accepts.ready.withMetrics metrics, accepts.shard, accepts.entry, accepts.temporary⟩

/-- Looking up the key of a deposit whose file was written comes to what the file shows. -/
theorem Store.get_written
    (accepts : Accepts store disk place deposit.key number)
    (valid : deposit.createdAt.IsValid)
    (modified now : Instant) :
    store.get (store.written disk place (deposit.entry store) number modified) deposit.key now =
      (.ok (Lookup.entry? (deposit.lookup store now)),
        { store with metrics := store.metrics.afterLookup (deposit.lookup store now) }) := by
  have reads : (store.written disk place (deposit.entry store) number modified).read
      (store.entryPath deposit.key) = .ok (encodeEntry (deposit.entry store)) :=
    Store.read_written (deposit.entry store) accepts modified
  have looks : store.lookup (store.written disk place (deposit.entry store) number modified)
      deposit.key now = .ok (deposit.lookup store now) := by
    unfold Store.lookup
    rw [reads]
    exact congrArg Except.ok (Store.inspect_encodeEntry valid now)
  unfold Store.get
  rw [looks]

/-! ### Storing and looking up -/

/-- A store in a tree gives a deposit back at a moment as far as its reader is able to. -/
structure Deposit.IsGivenBack
    (deposit : Deposit)
    (store : Store)
    (disk : Disk)
    (now : Instant) : Prop where
  /-- The deposit is found as it was stored exactly if its payload is nested less deeply than the
  reader allows and the numbers in it are read back. -/
  verbatim : (store.get disk deposit.key now).1 = .ok (some (deposit.entry store)) ↔
    deposit.payload.depth < maxOpen ∧ deposit.payload.ReadsBack
  /-- If it is not nested too deeply, it is found with what is read of its numbers. -/
  reread : deposit.payload.depth < maxOpen → (store.get disk deposit.key now).1 =
    .ok (deposit.payload.reread?.map fun payload => { deposit.entry store with payload })
  /-- If it is nested too deeply, it counts as corrupted. -/
  corrupted : maxOpen ≤ deposit.payload.depth → store.get disk deposit.key now =
    (.ok none, { store with metrics := store.metrics.afterLookup .corrupted })

/-- A deposit is given back as long as it is fresh. -/
theorem Deposit.isGivenBack_written
    {now : Instant}
    (accepts : Accepts store disk place deposit.key number)
    (valid : deposit.createdAt.IsValid)
    (fresh : (deposit.entry store).isExpiredAt now = false)
    (canonical : deposit.payload.canonical = deposit.payload)
    (modified : Instant) :
    deposit.IsGivenBack store
      (store.written disk place (deposit.entry store) number modified) now := by
  have found : Lookup.entry? (deposit.lookup store now) =
      (recovered? deposit.payload).map fun payload => { deposit.entry store with payload } := by
    rw [Deposit.lookup]
    cases isRead : recovered? deposit.payload with
    | none =>
        rfl
    | some payload =>
        have shallow : deposit.payload.reread? = some payload := by
          rw [recovered?, Option.ite_none_right_eq_some] at isRead
          exact isRead.2
        simp [fresh, Lookup.entry?, canonical_of_reread? canonical shallow]
  refine ⟨?_, ?_, ?_⟩
  · rw [Store.get_written accepts valid, found, ← recovered?_eq_self_iff]
    simp [Deposit.entry]
  · intro shallow
    rw [Store.get_written accepts valid, found, recovered?, if_pos shallow]
  · intro deep
    rw [Store.get_written accepts valid, Deposit.lookup_of_deep deep]
    rfl

/-- A store that has counted another write. -/
def Store.afterPut (store : Store) : Store :=
  { store with metrics := { store.metrics with writes := store.metrics.writes + 1 } }

/-- A deposit is stored whatever its payload is. -/
theorem Store.put_deposit
    (accepts : Accepts store disk place deposit.key number)
    (modified : Instant) :
    store.put disk (deposit.entry store) (tagText number) modified =
      (.ok (), store.afterPut, store.written disk place (deposit.entry store) number modified) := by
  have writes : store.writeEntry disk (deposit.entry store) (tagText number) modified =
      (.ok (), store.written disk place (deposit.entry store) number modified) :=
    Store.writeEntry_eq (deposit.entry store) accepts modified
  unfold Store.put
  rw [writes]
  rfl

/-- A deposit is stored whatever its payload is, and it is given back when it was made. -/
theorem Store.put_isGivenBack
    (accepts : Accepts store disk place deposit.key number)
    (valid : deposit.createdAt.IsValid)
    (inTime : Instant.last.before deposit.createdAt = false)
    (canonical : deposit.payload.canonical = deposit.payload)
    (modified : Instant) :
    ∃ changed,
      store.put disk (deposit.entry store) (tagText number) modified =
          (.ok (), store.afterPut, changed) ∧
        deposit.IsGivenBack store.afterPut changed deposit.createdAt := by
  have fresh : (deposit.entry store).isExpiredAt deposit.createdAt = false :=
    before_expiry_eq_false inTime deposit.ttlSeconds
  exact ⟨_, Store.put_deposit accepts modified, Deposit.isGivenBack_written
    (accepts.withMetrics store.afterPut.metrics) valid fresh canonical modified⟩

/-- Entries can be written in an empty directory. -/
theorem accepts_of_below_eq_nil
    (found : disk.find true store.root = .ok (place, .directory))
    (empty : disk.below place = [])
    (digits : 0 < store.shardDigits ∧ store.shardDigits ≤ keyDigits)
    (fits : store.longestPath ≤ maxPathLength)
    (key : Key)
    (number : Nat) :
    Accepts store disk place key number :=
  (shows_empty empty).accepts ⟨reaches_of_below_eq_nil found empty, digits, fits⟩ key number

/-- A store whose directory is empty. -/
def emptyStore : Store := ⟨"cache", 2, "1", {}⟩

/-- Entries can be written in the directory of the empty store. -/
theorem accepts_bareDisk (key : Key) : Accepts emptyStore (bareDisk "cache") ["cache"] key 0 :=
  accepts_of_below_eq_nil find_bareDisk (by decide) (by decide) (by decide) key 0

/-- A deposit whose payload is a record. -/
def recordDeposit : Deposit where
  key := KeyInputs.key default
  payload := .object [
    ("nested", .object [("list", .array [.word 1, .word 2, .word 3])]),
    ("summary", .string "Sets x.")]
  createdAt := {}
  ttlSeconds := 0
  source := {}

/-- A record is found as it was stored when it was stored. -/
theorem Store.put_isGivenBack_recordDeposit :
    ∃ changed,
      emptyStore.put (bareDisk "cache") (recordDeposit.entry emptyStore) (tagText 0) {} =
          (.ok (), emptyStore.afterPut, changed) ∧
        (emptyStore.afterPut.get changed recordDeposit.key {}).1 =
          .ok (some (recordDeposit.entry emptyStore)) := by
  obtain ⟨changed, stored, givenBack⟩ :=
    Store.put_isGivenBack (accepts_bareDisk recordDeposit.key) (by decide) (by decide) rfl {}
  have shallow : recordDeposit.payload.depth < maxOpen := by decide
  have readsBack : recordDeposit.payload.ReadsBack := by
    simp [recordDeposit, ReadsBack, ReadsBackFields, ReadsBackItems, Json.word]
  exact ⟨changed, stored, givenBack.verbatim.mpr ⟨shallow, readsBack⟩⟩

/-! ### Payloads that are not given back -/

/-- The number next above 1.5e-28. -/
def roundedNumber : Double := { magnitude := 4190534277386749972 }

/-- What is read of the text of the number is 1.5e-28. -/
theorem reread?_roundedNumber :
    (Json.double roundedNumber).reread? = some (.double { magnitude := 4190534277386749971 }) :=
  rfl

/-- A deposit whose payload is the number next above 1.5e-28. -/
def roundedDeposit : Deposit := { firstDeposit with payload := .double roundedNumber }

/-- A number is stored and not found as it was stored. -/
theorem Store.get_put_roundedDeposit :
    ∃ changed,
      emptyStore.put (bareDisk "cache") (roundedDeposit.entry emptyStore) (tagText 0) {} =
          (.ok (), emptyStore.afterPut, changed) ∧
        (emptyStore.afterPut.get changed roundedDeposit.key {}).1 ≠
          .ok (some (roundedDeposit.entry emptyStore)) := by
  have accepts := accepts_bareDisk roundedDeposit.key
  have givenBack := Deposit.isGivenBack_written
    (accepts.withMetrics emptyStore.afterPut.metrics) (by decide)
    (before_expiry_eq_false (by decide) 60) rfl {}
  refine ⟨_, Store.put_deposit accepts {}, ?_⟩
  intro found
  have readsBack : (Json.double roundedNumber).ReadsBack := (givenBack.verbatim.mp found).2
  rw [← reread?_eq_self_iff, reread?_roundedNumber] at readsBack
  simp [roundedNumber] at readsBack

/-- So many arrays, one in another. -/
def nestedArrays : Nat → Json
  | 0 => .null
  | count + 1 => .array [nestedArrays count]

/-- So many arrays, one in another, are nested as often. -/
theorem depth_nestedArrays (count : Nat) : (nestedArrays count).depth = count := by
  induction count with
  | zero =>
      rfl
  | succ count inductionHypothesis =>
      simp [nestedArrays, depth, depthOfItems, inductionHypothesis]

/-- A deposit of arrays that are nested as often as the reader allows. -/
def deepDeposit : Deposit := { firstDeposit with payload := nestedArrays maxOpen }

/-- Arrays that are nested as often as the reader allows are stored and not found any more. -/
theorem Store.get_put_deepDeposit :
    ∃ changed,
      emptyStore.put (bareDisk "cache") (deepDeposit.entry emptyStore) (tagText 0) {} =
          (.ok (), emptyStore.afterPut, changed) ∧
        emptyStore.afterPut.get changed deepDeposit.key {} =
          (.ok none, { emptyStore.afterPut with
            metrics := emptyStore.afterPut.metrics.afterLookup .corrupted }) := by
  have accepts := accepts_bareDisk deepDeposit.key
  have deep : maxOpen ≤ deepDeposit.payload.depth := Nat.le_of_eq (depth_nestedArrays maxOpen).symm
  have found := Store.get_written (accepts.withMetrics emptyStore.afterPut.metrics)
    (by decide) {} {}
  rw [Deposit.lookup_of_deep deep] at found
  exact ⟨_, Store.put_deposit accepts {}, found⟩

end SourceFacts.Cache
