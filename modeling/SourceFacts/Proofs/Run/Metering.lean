import SourceFacts.Proofs.Cache.Fidelity
import SourceFacts.Proofs.Run.Faults
import SourceFacts.Proofs.Run.Reuse
import SourceFacts.Proofs.Run.Treatments

namespace SourceFacts.Cache

/-!
# Counting what a store is used for

A store counts the look-ups that find an entry and those that do not, and what it stores. It does
so whatever the system answers when it is asked to read or write, and a call that fails is not
counted. A run looks up one key for every model, so that its reports account for what was counted.
-/

open Config Disk Json Text Time

/-!
## Uses

What matters of a call is what it comes to. What has been counted before does not.
-/

/-- What a call of a store comes to. -/
inductive Use where
  /-- A look-up that finds an entry. -/
  | found
  /-- A look-up that finds none. -/
  | missed
  /-- A look-up that fails. -/
  | failed
  | written
  /-- Whatever else is done, and what cannot be written. -/
  | uncounted
deriving Repr, DecidableEq

namespace Use

/-- What a look-up comes to. -/
def ofLookup : Except Failure (Option α) → Use
  | .ok (some _) => .found
  | .ok none => .missed
  | .error _ => .failed

/-- What storing something comes to. -/
def ofStoring : Except Failure α → Use
  | .ok _ => .written
  | .error _ => .uncounted

/-- What is done with the entry that a look-up finds does not matter. -/
theorem ofLookup_map
    (extract : α → β)
    (answer : Except Failure (Option α)) :
    ofLookup (answer.map fun found? => found?.map extract) = ofLookup answer := by
  rcases answer with _ | _ | _ <;> rfl

end Use

/-- Metrics have counted uses. What is stale or corrupted is missed as well. -/
structure Metrics.Count (before after : Metrics) (uses : List Use) : Prop where
  hits : after.hits = before.hits + uses.count .found
  misses : after.misses = before.misses + uses.count .missed
  writes : after.writes = before.writes + uses.count .written
  spoiled : after.expired + after.corrupted ≤
    before.expired + before.corrupted + uses.count .missed
  unchanged : (∀ use ∈ uses, use = .failed ∨ use = .uncounted) → after = before

namespace Metrics.Count

variable {before middle after : Metrics} {uses others : List Use}

theorem refl (metrics : Metrics) : Metrics.Count metrics metrics [] where
  hits := rfl
  misses := rfl
  writes := rfl
  spoiled := Nat.le_refl _
  unchanged _ := rfl

/-- Uses that are counted one after another are counted together. -/
theorem append
    (first : Metrics.Count before middle uses)
    (second : Metrics.Count middle after others) :
    Metrics.Count before after (uses ++ others) where
  hits := by
    rw [second.hits, first.hits, List.count_append, Nat.add_assoc]
  misses := by
    rw [second.misses, first.misses, List.count_append, Nat.add_assoc]
  writes := by
    rw [second.writes, first.writes, List.count_append, Nat.add_assoc]
  spoiled := by
    have spoiledFirst := first.spoiled
    have spoiledSecond := second.spoiled
    rw [List.count_append]
    omega
  unchanged areUncounted := by
    rw [List.forall_mem_append] at areUncounted
    rw [second.unchanged areUncounted.2, first.unchanged areUncounted.1]

/-- What is not counted leaves the metrics as they are. -/
theorem of_eq
    {use : Use}
    (isUncounted : use = .failed ∨ use = .uncounted)
    (same : after = before) :
    Metrics.Count before after [use] := by
  rw [same]
  rcases isUncounted with rfl | rfl <;>
    exact ⟨rfl, rfl, rfl, Nat.le_refl _, fun _ => rfl⟩

end Metrics.Count

/-!
## Calls

A store sees nothing of the tree but what the system answers when it is asked to read or to
write the file of an entry.
-/

namespace Store

/-- The fresh entry of a key, from what the system answers to reading its file. -/
def getFrom (store : Store) (key : Key) (now : Instant) :
    Except OsError Bytes → Except Failure (Option Entry) × Store
  | .ok content =>
      (.ok (Lookup.entry? (store.inspect key now content)),
        { store with metrics := store.metrics.afterLookup (store.inspect key now content) })
  | .error .noSuchFile =>
      (.ok none, { store with metrics := store.metrics.afterLookup .absent })
  | .error error => (.error (.io error), store)

/-- A look-up depends on the tree by what is read of one file. -/
theorem get_eq_getFrom
    (store : Store)
    (disk : Disk)
    (key : Key)
    (now : Instant) :
    store.get disk key now = store.getFrom key now (disk.read (store.entryPath key)) := by
  unfold Store.get Store.lookup
  generalize disk.read (store.entryPath key) = reading
  rcases reading with error | content
  · cases error <;> rfl
  · rfl

/-- A store after the system has answered to writing the file of an entry. -/
def afterWriting (store : Store) : Except OsError Unit → Store
  | .ok () => { store with metrics := { store.metrics with writes := store.metrics.writes + 1 } }
  | .error _ => store

/-- What storing an entry comes to depends on the tree by what comes of writing one file. -/
theorem put_eq_afterWriting
    (store : Store)
    (disk : Disk)
    (entry : Entry)
    (tag : String)
    (now : Instant) :
    ((store.put disk entry tag now).1, (store.put disk entry tag now).2.1) =
      ((store.writeEntry disk entry tag now).1.mapError .io,
        store.afterWriting (store.writeEntry disk entry tag now).1) := by
  rw [put]
  rcases store.writeEntry disk entry tag now with ⟨_ | _, _⟩ <;> rfl

/-- Whatever a look-up comes to is counted, and what is spoiled is missed. -/
theorem count_afterLookup
    (metrics : Metrics)
    (lookup : Lookup) :
    Metrics.Count metrics (metrics.afterLookup lookup) [Use.ofLookup (.ok lookup.entry?)] := by
  cases lookup with
  | hit entry =>
      exact ⟨rfl, rfl, rfl, Nat.le_refl _,
        fun areUncounted => absurd (areUncounted .found List.mem_cons_self) (by decide)⟩
  | absent | foreign =>
      exact ⟨rfl, rfl, rfl, Nat.le_succ _,
        fun areUncounted => absurd (areUncounted .missed List.mem_cons_self) (by decide)⟩
  | corrupted =>
      exact ⟨rfl, rfl, rfl, Nat.le_refl _,
        fun areUncounted => absurd (areUncounted .missed List.mem_cons_self) (by decide)⟩
  | expired =>
      exact ⟨rfl, rfl, rfl, Nat.le_of_eq (Nat.add_right_comm ..),
        fun areUncounted => absurd (areUncounted .missed List.mem_cons_self) (by decide)⟩

/-- A look-up is counted as what it comes to, whatever is read. -/
theorem count_getFrom
    (store : Store)
    (key : Key)
    (now : Instant)
    (reading : Except OsError Bytes) :
    Metrics.Count store.metrics (store.getFrom key now reading).2.metrics
      [Use.ofLookup (store.getFrom key now reading).1] := by
  unfold getFrom
  split
  · exact count_afterLookup _ _
  · exact count_afterLookup _ .absent
  · exact .of_eq (.inl rfl) rfl

/-- What is stored is counted if it is written, whatever comes of that. -/
theorem count_afterWriting
    (store : Store)
    (writing : Except OsError Unit) :
    Metrics.Count store.metrics (store.afterWriting writing).metrics
      [Use.ofStoring (writing.mapError Failure.io)] := by
  cases writing with
  | error _ =>
      exact .of_eq (.inr rfl) rfl
  | ok _ =>
      exact ⟨rfl, rfl, rfl, Nat.le_refl _,
        fun areUncounted => absurd (areUncounted .written List.mem_cons_self) (by decide)⟩

/-- A look-up in a tree is counted as what it comes to. -/
theorem count_get
    (store : Store)
    (disk : Disk)
    (key : Key)
    (now : Instant) :
    Metrics.Count store.metrics (store.get disk key now).2.metrics
      [Use.ofLookup (store.get disk key now).1] := by
  rw [get_eq_getFrom]
  exact store.count_getFrom key now _

/-- What is stored in a tree is counted if it is written. -/
theorem count_put
    (store : Store)
    (disk : Disk)
    (entry : Entry)
    (tag : String)
    (now : Instant) :
    Metrics.Count store.metrics (store.put disk entry tag now).2.1.metrics
      [Use.ofStoring (store.put disk entry tag now).1] := by
  obtain ⟨isResult, isStore⟩ := Prod.ext_iff.mp (store.put_eq_afterWriting disk entry tag now)
  dsimp only at isResult isStore
  rw [isResult, isStore]
  exact store.count_afterWriting _

end Store

namespace Operation

/-- What can come of an operation, and the store after it, whatever the system answers. What is
done with the files of a store alone does not change the store. -/
inductive Happens (store : Store) : Operation → Except Failure Answer → Store → Prop where
  | put {deposit : Deposit} {number : Nat} {modified : Instant} (writing : Except OsError Unit) :
      Happens store (.put deposit number modified)
        ((writing.mapError .io).map fun _ => .stored) (store.afterWriting writing)
  | get {key : Key} {now : Instant} (reading : Except OsError Bytes) :
      Happens store (.get key now) ((store.getFrom key now reading).1.map .found)
        (store.getFrom key now reading).2
  | invalidate {key : Key} (result : Except Failure Bool) :
      Happens store (.invalidate key) (result.map .invalidated) store
  | clear (result : Except Failure Unit) :
      Happens store .clear (result.map fun _ => .cleared) store
  | purge {now : Instant} (result : Except Failure Nat) :
      Happens store (.purge now) (result.map .purged) store

/-- What is done with a store in a tree is one of the things that can happen. -/
theorem happens_perform
    (operation : Operation)
    (store : Store)
    (disk : Disk) :
    Happens store operation (operation.perform store disk).1
      (operation.perform store disk).2.1 := by
  cases operation with
  | put deposit number modified =>
      have stored := store.put_eq_afterWriting disk (deposit.entry store) (tagText number) modified
      obtain ⟨isResult, isStore⟩ := Prod.ext_iff.mp stored
      dsimp only at isResult isStore
      simp only [perform, isResult, isStore]
      exact .put _
  | get key now =>
      simp only [perform, Store.get_eq_getFrom]
      exact .get _
  | invalidate key =>
      simp only [perform]
      exact .invalidate _
  | clear =>
      simp only [perform]
      exact .clear _
  | purge now =>
      simp only [perform]
      exact .purge _

/-- What an operation comes to. -/
def use : Operation → Except Failure Answer → Use
  | .get .., .ok (.found (some _)) => .found
  | .get .., .ok _ => .missed
  | .get .., .error _ => .failed
  | .put .., .ok _ => .written
  | _, _ => .uncounted

/-- Whatever happens is counted as what it comes to. -/
theorem Happens.count
    {store after : Store}
    {operation : Operation}
    {answer : Except Failure Answer}
    (happens : Happens store operation answer after) :
    Metrics.Count store.metrics after.metrics [operation.use answer] := by
  cases happens with
  | @put deposit number modified writing =>
      have isUse : use (.put deposit number modified)
          ((writing.mapError Failure.io).map fun _ => .stored) =
            Use.ofStoring (writing.mapError Failure.io) := by
        cases writing <;> rfl
      rw [isUse]
      exact store.count_afterWriting writing
  | @get key now reading =>
      have isUse : use (.get key now) ((store.getFrom key now reading).1.map .found) =
          Use.ofLookup (store.getFrom key now reading).1 := by
        rcases (store.getFrom key now reading).1 with _ | _ | _ <;> rfl
      rw [isUse]
      exact store.count_getFrom key now reading
  | invalidate _ | clear _ | purge _ =>
      exact .of_eq (.inr rfl) rfl

/-! ### One call after another -/

/-- An operation and what came of it. -/
abbrev Call := Operation × Except Failure Answer

/-- Calls of a store, and the store after them. -/
inductive HappenAll : Store → List Call → Store → Prop where
  | nil {store : Store} : HappenAll store [] store
  | cons {store middle after : Store} {operation : Operation} {answer : Except Failure Answer}
      {calls : List Call}
      (happens : Happens store operation answer middle)
      (rest : HappenAll middle calls after) :
      HappenAll store ((operation, answer) :: calls) after

/-- What calls come to. -/
def uses (calls : List Call) : List Use := calls.map fun (operation, answer) => operation.use answer

/-- Whatever calls of a store there are and whatever comes of them, they are counted. -/
theorem HappenAll.count
    {store after : Store}
    {calls : List Call}
    (happenAll : HappenAll store calls after) :
    Metrics.Count store.metrics after.metrics (uses calls) := by
  induction happenAll with
  | nil =>
      exact .refl _
  | cons happens _ inductionHypothesis =>
      exact happens.count.append inductionHypothesis

/-- What comes of one operation after another in a tree that something else changes before each
of them, the store and the tree after that. -/
def performAmid : List (Operation × (Disk → Disk)) → Store → Disk → List Call × Store × Disk
  | [], store, disk => ([], store, disk)
  | (operation, change) :: rest, store, disk =>
      let (answer, store, disk) := operation.perform store (change disk)
      let (calls, store, disk) := performAmid rest store disk
      ((operation, answer) :: calls, store, disk)

/-- Operations in a tree are calls that can happen. -/
theorem happenAll_performAmid
    (operations : List (Operation × (Disk → Disk)))
    (store : Store)
    (disk : Disk) :
    HappenAll store (performAmid operations store disk).1
      (performAmid operations store disk).2.1 := by
  induction operations generalizing store disk with
  | nil =>
      exact .nil
  | cons step rest inductionHypothesis =>
      obtain ⟨operation, change⟩ := step
      exact .cons (operation.happens_perform store (change disk)) (inductionHypothesis _ _)

end Operation

/-- A store that is opened has counted nothing. -/
theorem Store.metrics_start
    (settings : CacheSettings)
    (registry : Registry)
    (disk : Disk) :
    (Store.start settings registry disk).1.map (·.1.metrics) =
      (Store.start settings registry disk).1.map fun _ => {} := by
  rw [Store.start]
  rcases disk.createDirectories settings.directory with ⟨_ | _, _⟩
  · rfl
  · cases registry.registerCache <;> rfl

end SourceFacts.Cache

namespace SourceFacts.Run

open Analysis Cache Config Disk Facts Failures Time

/-!
## Runs

A run looks up a key for every model that it reports, and reports what it finds. So its reports
tell how often which of the metrics went up.
-/

/-- What a call of a service comes to for the store. -/
def Event.use : Event → Use
  | .sought _ found => .ofLookup found
  | .kept _ _ _ _ result => .ofStoring result
  | _ => .uncounted

/-- What the calls of a run come to for the store. -/
def uses (events : List Event) : List Use := events.map (·.use)

/-- Services count the uses of a store, by metrics in their state. -/
structure Services.Meter (metrics : σ → Metrics) (services : Services σ) : Prop where
  now : ∀ state, metrics (services.now state).2 = metrics state
  read : ∀ file state, metrics (services.read file state).2 = metrics state
  get : ∀ key state, Metrics.Count (metrics state) (metrics (services.get key state).2)
    [.ofLookup (services.get key state).1]
  put : ∀ key payload ttl source state,
    Metrics.Count (metrics state) (metrics (services.put key payload ttl source state).2)
      [.ofStoring (services.put key payload ttl source state).1]
  enrich : ∀ request state, metrics (services.enrich request state).2 = metrics state
  publish : ∀ file report state,
    metrics (services.publish file report state).2 = metrics state
  finish : ∀ statistics state, metrics (services.finish statistics state).2 = metrics state
  save : ∀ path report state, metrics (services.save path report state).2 = metrics state

section Meter

variable {metrics : σ → Metrics} {services : Services σ}

/-- Writing down a call that is counted keeps the count of what is written down. -/
theorem keeps_count
    {effect : Effect σ α}
    {event : α → Event}
    (start : Metrics)
    (counts : ∀ state, Metrics.Count (metrics state) (metrics (effect state).2)
      [(event (effect state).1).use]) :
    Keeps (fun state : σ × Transcript σ =>
        Metrics.Count start (metrics state.1) (uses state.2.events))
      (observe (fun event before transcript => transcript ++ [⟨event, before⟩]) effect event) := by
  intro (state, transcript) counted
  have both := counted.append (counts state)
  simp only [observe, Transcript.events_append, uses, List.map_append]
  exact both

/-- Services that count and write down their calls count what they write down. -/
theorem Services.Meter.keep_recorded
    (meter : services.Meter metrics)
    (start : Metrics) :
    services.recorded.Keep fun state =>
      Metrics.Count start (metrics state.1) (uses state.2.events) where
  now := keeps_count start fun state => .of_eq (.inr rfl) (meter.now state)
  read file := keeps_count start fun state => .of_eq (.inr rfl) (meter.read file state)
  get key := keeps_count start (meter.get key)
  put key payload ttl source := keeps_count start (meter.put key payload ttl source)
  enrich request := keeps_count start fun state => .of_eq (.inr rfl) (meter.enrich request state)
  publish file report :=
    keeps_count start fun state => .of_eq (.inr rfl) (meter.publish file report state)
  finish statistics :=
    keeps_count start fun state => .of_eq (.inr rfl) (meter.finish statistics state)
  save path report :=
    keeps_count start fun state => .of_eq (.inr rfl) (meter.save path report state)

/-- A run counts the uses that it makes of a store. -/
theorem Services.Meter.count_run
    (meter : services.Meter metrics)
    (pipeline : Pipeline)
    (files : List Descriptor)
    (state : σ) :
    Metrics.Count (metrics state) (metrics (pipeline.run services files state).state)
      (uses (pipeline.transcript services files state).events) := by
  rw [Pipeline.run_eq_recorded]
  exact Pipeline.run_keeps pipeline (meter.keep_recorded (metrics state)) files (.refl _)

end Meter

section Workspaces

variable (settings : AnalysisSettings) (enricher : Enricher ε) (publisher : Publisher π)

/-- The services of a workspace count by the metrics of its store. -/
theorem meter_services :
    (Workspace.services settings enricher publisher).Meter (·.store.metrics) where
  now _ := rfl
  read _ _ := rfl
  get key workspace := by
    simp only [Workspace.services, Workspace.get, Workspace.now, Use.ofLookup_map]
    exact workspace.store.count_get workspace.disk key workspace.clock.read.1
  put key payload ttl source workspace := by
    simp only [Workspace.services, Workspace.put, Workspace.putEntry, Workspace.freshTag,
      Workspace.now]
    exact workspace.store.count_put ..
  enrich _ _ := rfl
  publish _ _ _ := rfl
  finish _ _ := rfl
  save _ _ _ := rfl

/-- A call of a store that fails every now and then is counted if it does not. -/
theorem count_unreliably
    {call : Effect (Workspace ε π) (Except Cache.Failure α)}
    (toUse : Except Cache.Failure α → Use)
    (fails : ∀ failure, toUse (.error failure) = .failed ∨ toUse (.error failure) = .uncounted)
    (counts : ∀ workspace : Workspace ε π, Metrics.Count workspace.store.metrics
      (call workspace).2.store.metrics [toUse (call workspace).1])
    (state : Troubled ε π) :
    Metrics.Count state.1.store.metrics (unreliably call state).2.1.store.metrics
      [toUse (unreliably call state).1] := by
  obtain ⟨workspace, faults⟩ := state
  rcases faults with _ | ⟨_ | fault, later⟩
  · exact counts workspace
  · exact counts workspace
  · exact .of_eq (fails fault.failure) rfl

/-- The same is true if the store fails every now and then. -/
theorem meter_troubled :
    (Workspace.services settings enricher publisher).troubled.Meter (·.1.store.metrics) where
  now _ := rfl
  read _ _ := rfl
  get key := count_unreliably Use.ofLookup (fun _ => .inl rfl)
    ((meter_services settings enricher publisher).get key)
  put key payload ttl source := count_unreliably Use.ofStoring (fun _ => .inr rfl)
    ((meter_services settings enricher publisher).put key payload ttl source)
  enrich _ _ := rfl
  publish _ _ _ := rfl
  finish _ _ := rfl
  save _ _ _ := rfl

end Workspaces

/-! ### Reports -/

/-- Whether a report shows an enrichment that was found. -/
def Report.isCached (report : Report) : Bool := report.enrichment.isCached

/-- Whether a report is about a file with a model. -/
def Report.hasModel (report : Report) : Bool := report.outcome.model?.isSome

/-- The reports that a publisher was given, in order. -/
def reportsOf (events : List Event) : List Report := (events.filterMap (·.report?)).map (·.2)

/-- Every model that is reported was looked up once, and every enrichment that is reported to
have been found was. -/
structure Balance (events : List Event) : Prop where
  found : (uses events).count .found = (reportsOf events).countP (·.isCached)
  lookups : (uses events).count .found + (uses events).count .missed +
    (uses events).count .failed = (reportsOf events).countP (·.hasModel)

namespace Balance

/-- Calls that balance one after another balance together. -/
theorem append
    {events others : List Event}
    (balance : Balance events)
    (balanceToo : Balance others) :
    Balance (events ++ others) := by
  have found := balance.found
  have foundToo := balanceToo.found
  have lookups := balance.lookups
  have lookupsToo := balanceToo.lookups
  simp only [uses, reportsOf] at found foundToo lookups lookupsToo
  constructor
  · simp only [uses, reportsOf, List.map_append, List.filterMap_append, List.count_append,
      List.countP_append]
    omega
  · simp only [uses, reportsOf, List.map_append, List.filterMap_append, List.count_append,
      List.countP_append]
    omega

end Balance

section Balance

variable {pipeline : Pipeline} {file : Descriptor} {files : List Descriptor} {log after : Log}
  {events : List Event}

/-- A look-up that finds nothing is missed or fails. -/
theorem ofLookup_of_miss
    {found : Except Cache.Failure (Option Json)}
    (isMiss : ∀ payload, found ≠ .ok (some payload)) :
    Use.ofLookup found = .missed ∨ Use.ofLookup found = .failed := by
  rcases found with _ | _ | payload
  · exact .inr rfl
  · exact .inl rfl
  · exact absurd rfl (isMiss payload)

/-- Enriching a file looks it up once, and finds what is reported as found. -/
theorem Enriching.looksUp
    {model : Model}
    {source : String}
    {key : Key}
    {enrichment : Enrichment}
    (enriching : Enriching pipeline file model source key enrichment events) :
    (uses events).count .found = (if enrichment.isCached then 1 else 0) ∧
      (uses events).count .found + (uses events).count .missed +
        (uses events).count .failed = 1 := by
  cases enriching with
  | found =>
      exact ⟨rfl, rfl⟩
  | failed isMiss =>
      rcases ofLookup_of_miss isMiss with isUse | isUse <;>
        simp [uses, Event.use, isUse, Enrichment.isCached]
  | @made _ _ kept isMiss =>
      rcases ofLookup_of_miss isMiss with isUse | isUse <;> cases kept <;>
        simp [uses, Event.use, isUse, Use.ofStoring, Enrichment.isCached]

/-- What is found is reported as found, and a model is looked up once. -/
theorem Enriching.balance
    {model : Model}
    {source : SourceText}
    {key : Key}
    {report : Report}
    (enriching : Enriching pipeline file model source.text key report.enrichment events)
    (hasModel : report.hasModel = true)
    (now : Instant)
    (answer : Except DeliveryFailure Unit) :
    Balance (.looked now :: .read file (.ok source) :: events ++
      [.published file report answer]) := by
  obtain ⟨found, lookups⟩ := enriching.looksUp
  have isReported : reportsOf (.looked now :: .read file (.ok source) :: events ++
      [.published file report answer]) = [report] := by
    rw [reportsOf, filterMap_report?_eq, List.filterMap_append, List.filterMap_cons_none rfl,
      List.filterMap_cons_none rfl, enriching.quiet.2.1]
    rfl
  have areUses : ∀ use, use ≠ .uncounted →
      (uses (.looked now :: .read file (.ok source) :: events ++
        [.published file report answer])).count use = (uses events).count use := by
    intro use isCounted
    simp [uses, Event.use, isCounted.symm]
  constructor
  · rw [areUses _ (by decide), found, isReported]
    simp [Report.isCached, List.countP_cons]
  · rw [areUses _ (by decide), areUses _ (by decide), areUses _ (by decide), lookups, isReported]
    simp [hasModel]

/-- A file with a model is looked up once before it is reported. -/
theorem Handling.balance
    {report : Report}
    (isEnabled : pipeline.settings.cache.enabled = true)
    (handling : Handling pipeline file log (.ok report) after events)
    (answer : Except DeliveryFailure Unit) :
    Balance (events ++ [.published file report answer]) := by
  cases handling with
  | failed _ _ _ =>
      exact ⟨rfl, rfl⟩
  | plain _ isDisabled =>
      rw [isEnabled] at isDisabled
      cases isDisabled
  | @enriched now source model enrichment calls succeeds _ _ enriching =>
      obtain ⟨_, _, _, _, hasModel⟩ := Analyzer.exists_model_of_failure? succeeds file.path
      refine enriching.balance ?_ now answer
      simp [Report.hasModel, hasModel]

/-- A file that ends the run is not looked up. -/
theorem Handling.balance_of_stopped
    {failure : Analysis.Failure}
    (handling : Handling pipeline file log (.error failure) after events) :
    Balance events := by
  cases handling with
  | stopped _ _ _ =>
      exact ⟨rfl, rfl⟩

/-- Files that are taken one after another are looked up and reported one after another. -/
theorem Taking.balance
    {stopped? : Option Failure}
    (isEnabled : pipeline.settings.cache.enabled = true)
    (taking : Taking pipeline files log stopped? after events) :
    Balance events := by
  induction taking with
  | done =>
      exact ⟨rfl, rfl⟩
  | stopped handling =>
      exact handling.balance_of_stopped
  | refused handling =>
      exact handling.balance isEnabled _
  | taken handling _ inductionHypothesis =>
      rw [List.append_cons]
      exact (handling.balance isEnabled _).append inductionHypothesis

/-- Nothing is reported while a file is handled. -/
theorem Handling.noReport
    {result : Except Analysis.Failure Report}
    (handling : Handling pipeline file log result after events) :
    events.filterMap (·.report?) = [] := by
  cases handling with
  | failed _ _ _ | stopped _ _ _ | plain _ _ =>
      rfl
  | enriched _ _ _ enriching =>
      rw [filterMap_report?_eq, List.filterMap_cons_none rfl, List.filterMap_cons_none rfl,
        enriching.quiet.2.1]
      rfl

/-- The files that are reported are the first ones. -/
theorem Taking.reports_begin
    {stopped? : Option Failure}
    (taking : Taking pipeline files log stopped? after events) :
    (events.filterMap (·.report?)).map (·.1) <+: files := by
  induction taking with
  | done =>
      exact List.prefix_rfl
  | stopped handling =>
      rw [handling.noReport]
      exact List.nil_prefix
  | refused handling =>
      rw [List.filterMap_append, handling.noReport]
      exact List.prefix_append [_] _
  | @taken file _ _ _ _ _ _ _ _ handling _ inductionHypothesis =>
      rw [List.filterMap_append, handling.noReport]
      exact (List.prefix_append_right_inj [file]).mpr inductionHypothesis

/-- What comes after the last file is neither looked up nor reported. -/
theorem Concluding.balance
    {stopped? : Option Failure}
    {result : Except Failure Statistics}
    (concluding : Concluding pipeline log stopped? result events) :
    Balance events ∧ events.filterMap (·.report?) = [] := by
  cases concluding with
  | stopped saves =>
      cases saves <;> exact ⟨⟨rfl, rfl⟩, rfl⟩
  | unsaved saves =>
      cases saves
      exact ⟨⟨rfl, rfl⟩, rfl⟩
  | finished saves =>
      cases saves <;> exact ⟨⟨rfl, rfl⟩, rfl⟩

/-- Every model that a run reports was looked up once, and the files that it reports are the
first ones. -/
theorem Running.balance
    {result : Except Failure Statistics}
    (isEnabled : pipeline.settings.cache.enabled = true)
    (running : Running pipeline files result log events) :
    Balance events ∧ (events.filterMap (·.report?)).map (·.1) <+: files := by
  obtain ⟨started, stopped?, taken, rest, rfl, taking, concluding⟩ := running.split
  obtain ⟨balanceRest, noReport⟩ := concluding.balance
  have begun : Balance [.looked started] := ⟨rfl, rfl⟩
  refine ⟨begun.append ((taking.balance isEnabled).append balanceRest), ?_⟩
  rw [List.filterMap_cons_none rfl, List.filterMap_append, noReport, List.append_nil]
  exact taking.reports_begin

end Balance

/-- What metrics tell about a run with services: the enrichments that were found are those that
are reported so, and every model that is reported was looked up once. -/
structure Accounts (metrics : σ → Metrics) (pipeline : Pipeline) (services : Services σ)
    (files : List Descriptor) (state : σ) : Prop where
  /-- The reports are on the first files, on each of them once. -/
  reported : ((pipeline.transcript services files state).events.filterMap (·.report?)).map (·.1) <+:
    files
  hits : (metrics (pipeline.run services files state).state).hits = (metrics state).hits +
    (reportsOf (pipeline.transcript services files state).events).countP (·.isCached)
  lookups : (metrics (pipeline.run services files state).state).hits +
      (metrics (pipeline.run services files state).state).misses +
      (uses (pipeline.transcript services files state).events).count .failed =
    (metrics state).hits + (metrics state).misses +
      (reportsOf (pipeline.transcript services files state).events).countP (·.hasModel)
  /-- Without look-ups that fail, all of them are counted. -/
  undisturbed : (∀ key failure, Event.sought key (.error failure) ∉
      (pipeline.transcript services files state).events) →
    (metrics (pipeline.run services files state).state).hits +
      (metrics (pipeline.run services files state).state).misses =
    (metrics state).hits + (metrics state).misses +
      (reportsOf (pipeline.transcript services files state).events).countP (·.hasModel)

/-- Services that count their uses account for the reports of a run. -/
theorem Services.Meter.accounts
    {metrics : σ → Metrics}
    {services : Services σ}
    {pipeline : Pipeline}
    (meter : services.Meter metrics)
    (isEnabled : pipeline.settings.cache.enabled = true)
    (files : List Descriptor)
    (state : σ) :
    Accounts metrics pipeline services files state := by
  obtain ⟨balance, reported⟩ := (pipeline.running services files state).balance isEnabled
  have counts := meter.count_run pipeline files state
  have hits := counts.hits
  have misses := counts.misses
  have found := balance.found
  have looked := balance.lookups
  have lookups : (metrics (pipeline.run services files state).state).hits +
        (metrics (pipeline.run services files state).state).misses +
        (uses (pipeline.transcript services files state).events).count .failed =
      (metrics state).hits + (metrics state).misses +
        (reportsOf (pipeline.transcript services files state).events).countP (·.hasModel) := by
    omega
  refine ⟨reported, hits.trans (by rw [found]), lookups, fun undisturbed => ?_⟩
  have noneFailed : (uses (pipeline.transcript services files state).events).count .failed = 0 := by
    refine List.count_eq_zero.mpr fun isUse => ?_
    obtain ⟨event, isEvent, isFailed⟩ := List.mem_map.mp isUse
    cases event with
    | sought key found =>
        rcases found with failure | _ | _
        · exact undisturbed key failure isEvent
        · cases isFailed
        · cases isFailed
    | kept _ _ _ _ result =>
        cases result <;> cases isFailed
    | looked _ | read _ _ | enriched _ _ | published _ _ _ | finished _ _ | saved _ _ _ =>
        cases isFailed
  omega

/-- A store that is opened has counted nothing. Whatever calls of it there are and whatever the
system answers, its metrics have counted them, and operations in a tree that changes as it likes
are such calls. So metrics account for the reports of every run with a store, be it one that
fails every now and then. -/
theorem metrics_account :
    (∀ settings registry disk, (Store.start settings registry disk).1.map (·.1.metrics) =
      (Store.start settings registry disk).1.map fun _ => {}) ∧
    (∀ store calls last, Operation.HappenAll store calls last →
      Metrics.Count store.metrics last.metrics (Operation.uses calls)) ∧
    (∀ operations store disk, Operation.HappenAll store
      (Operation.performAmid operations store disk).1
      (Operation.performAmid operations store disk).2.1) ∧
    ∀ {ε π : Type} (pipeline : Pipeline) settings (enricher : Enricher ε) (publisher : Publisher π)
      files (workspace : Workspace ε π) faults,
      pipeline.settings.cache.enabled = true →
        Accounts (·.store.metrics) pipeline (Workspace.services settings enricher publisher) files
          workspace ∧
        Accounts (·.1.store.metrics) pipeline
          (Workspace.services settings enricher publisher).troubled files (workspace, faults) :=
  ⟨Store.metrics_start,
    fun _ _ _ => Operation.HappenAll.count,
    Operation.happenAll_performAmid,
    fun _ settings enricher publisher files workspace faults isEnabled =>
      ⟨(meter_services settings enricher publisher).accounts isEnabled files workspace,
        (meter_troubled settings enricher publisher).accounts isEnabled files (workspace, faults)⟩⟩

theorem metrics_account_twins :
    Metrics.Count {} (Operation.performAmid
        [(.get firstDeposit.key {}, id), (.put firstDeposit 0 {}, id), (.clear, id)]
        (Store.ofSettings topCache) (bareDisk "cache")).2.1.metrics
      (Operation.uses (Operation.performAmid
        [(.get firstDeposit.key {}, id), (.put firstDeposit 0 {}, id), (.clear, id)]
        (Store.ofSettings topCache) (bareDisk "cache")).1) ∧
    Accounts (·.1.store.metrics) (Pipeline.ofSettings { cache := topCache } "constant")
      (Workspace.services {} constantEnricher patientPublisher).troubled
      [{ path := "a.py", sizeBytes := 0 }, { path := "b.py", sizeBytes := 0 }]
      (twins, [some { failure := .io .noSpace }]) :=
  ⟨metrics_account.2.1 (Store.ofSettings topCache) _ _ (metrics_account.2.2.1 _ _ _),
    (metrics_account.2.2.2 _ {} constantEnricher patientPublisher _ twins _ rfl).2⟩

end SourceFacts.Run
