import SourceFacts.Analysis.SourceFile
import SourceFacts.Cache.Store
import SourceFacts.Failures.Log
import SourceFacts.Run.Pipeline
import SourceFacts.Scan.SourceFiles

namespace SourceFacts.Run

/-!
# Runs in a directory

The services of a run that works in a directory tree: it reads the files there and
keeps enrichments in a store.
-/

open Cache Config Disk Facts Time

/-- A clock that goes on a little whenever it is looked at. Before that it may show
anything, as a clock that is set does. -/
structure Clock where
  reading : Instant := {}
  /-- What it shows first, look by look. -/
  upcoming : List Instant := []
deriving Repr, DecidableEq, Inhabited

/-- How much the clock goes on, in nanoseconds. -/
def Clock.step : Nat := 1000

/-- Looks at a clock. -/
def Clock.read (clock : Clock) : Instant × Clock :=
  match clock.upcoming with
  | [] => (clock.reading, { reading := .ofNanoseconds (clock.reading.toNanoseconds + Clock.step) })
  | next :: later => (next, { clock with upcoming := later })

/-- The directory that a run works in, and what it works with. -/
structure Workspace (ε π : Type) where
  disk : Disk := {}
  clock : Clock := {}
  /-- How many tags were given out. -/
  tagsUsed : Nat := 0
  store : Store
  enricher : ε
  publisher : π
deriving Inhabited

namespace Workspace

/-- Looks at the clock. -/
def now : Effect (Workspace ε π) Instant := fun workspace =>
  let (now, clock) := workspace.clock.read
  (now, { workspace with clock })

/-- A tag that was not given out before. -/
def freshTag : Effect (Workspace ε π) String := fun workspace =>
  (tagText workspace.tagsUsed, { workspace with tagsUsed := workspace.tagsUsed + 1 })

/-- Finds a fresh entry in the store. -/
def get (key : Key) : Effect (Workspace ε π) (Except Cache.Failure (Option Entry)) :=
  fun workspace =>
    let (now, workspace) := workspace.now
    let (result, store) := workspace.store.get workspace.disk key now
    (result, { workspace with store })

/-- Stores an entry that was made at a moment. -/
def putEntry (entry : Entry) : Effect (Workspace ε π) (Except Cache.Failure Unit) :=
  fun workspace =>
    let (tag, workspace) := workspace.freshTag
    let (result, store, disk) := workspace.store.put workspace.disk entry tag entry.createdAt
    (result, { workspace with store, disk })

/-- Stores a payload for a number of seconds. -/
def put (key : Key) (payload : Json) (ttlSeconds : UInt64) (source : SourceMetadata) :
    Effect (Workspace ε π) (Except Cache.Failure Unit) :=
  fun workspace =>
    let (createdAt, workspace) := workspace.now
    let schemaVersion := workspace.store.schemaVersion
    workspace.putEntry { key, payload, createdAt, ttlSeconds, schemaVersion, source }

/-- Writes a report on failures. -/
def save (path : String) (report : Json) : Effect (Workspace ε π) (Except OsError Unit) :=
  fun workspace =>
    let (tag, workspace) := workspace.freshTag
    let (now, workspace) := workspace.now
    let (result, disk) := Failures.saveReport workspace.disk path report tag now
    (result, { workspace with disk })

/-- The services of a run with settings in a workspace. -/
def services (settings : AnalysisSettings) (enricher : Enricher ε) (publisher : Publisher π) :
    Services (Workspace ε π) where
  now := now
  read file workspace := (Analysis.readSource settings workspace.disk file.path, workspace)
  get key workspace :=
    let (result, workspace) := workspace.get key
    (result.map fun entry? => entry?.map (·.payload), workspace)
  put := put
  enrich request workspace :=
    let (result, state) := enricher.enrich request workspace.enricher
    (result, { workspace with enricher := state })
  publish file report workspace :=
    let (result, state) := publisher.publish file report workspace.publisher
    (result, { workspace with publisher := state })
  finish statistics workspace :=
    let (result, state) := publisher.finish statistics workspace.publisher
    (result, { workspace with publisher := state })
  save := save

end Workspace

/-! ## Beginning -/

/-- Opens the store that settings choose. If they turn it off, there is one that is
never used. -/
def openStore (settings : CacheSettings) (registry : Registry) (disk : Disk) :
    Except Cache.Failure (Store × Registry) × Disk :=
  if settings.enabled then Store.start settings registry disk
  else (.ok (Store.ofSettings settings, registry), disk)

/-- Checks settings and opens the store that they choose. -/
def prepare (settings : Settings) (registry : Registry) (disk : Disk) :
    Except Failure (Store × Registry) × Disk :=
  match settings.validate with
  | .error failure => (.error (.config failure), disk)
  | .ok settings =>
      let (result, disk) := openStore settings.cache registry disk
      (result.mapError .cache, disk)

/-- The files of a project. -/
def scan (disk : Disk) (root : String) : Except DeliveryFailure (List Descriptor) :=
  match Scan.sourceFiles? disk root with
  | some files => .ok files
  | none => .error (.scan root Scan.missingRoot)

end SourceFacts.Run
