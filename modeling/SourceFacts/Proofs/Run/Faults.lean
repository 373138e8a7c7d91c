import SourceFacts.Proofs.Cache.Changes
import SourceFacts.Proofs.Run.Findings
import SourceFacts.Proofs.Run.Workspaces

namespace SourceFacts.Run

/-!
# Stores that fail

Any of the calls with which a run looks up enrichments and stores them may fail, and may leave
something else in the tree when it does. What matters to the run is whether such calls change
what it reads: they do not, if the files lie apart from the directory of the store.
-/

open Analysis Cache Config Disk Facts Failures Time

/-! ## Faults -/

/-- What happens to a call of a store that fails. -/
structure Fault where
  failure : Cache.Failure
  /-- What the call has made of the tree by then. -/
  spoil : Disk → Disk := id

/-- A workspace, and which of the next calls of its store fail. -/
abbrev Troubled (ε π : Type) := Workspace ε π × List (Option Fault)

/-- A call of a store that fails, but for looks at the clock and tags that it takes. -/
def Fault.strike (fault : Fault) (call : Effect (Workspace ε π) (Except Cache.Failure α)) :
    Effect (Workspace ε π) (Except Cache.Failure α) := fun workspace =>
  (.error fault.failure,
    { (call workspace).2 with
      disk := fault.spoil workspace.disk
      store := workspace.store })

/-- A call of a store that fails if it is to. -/
def unreliably (call : Effect (Workspace ε π) (Except Cache.Failure α)) :
    Effect (Troubled ε π) (Except Cache.Failure α) := fun (workspace, faults) =>
  match faults with
  | some fault :: later =>
      let (result, workspace) := fault.strike call workspace
      (result, workspace, later)
  | none :: later =>
      let (result, workspace) := call workspace
      (result, workspace, later)
  | [] =>
      let (result, workspace) := call workspace
      (result, workspace, [])

/-- What does not call the store. -/
def unaffected (effect : Effect (Workspace ε π) α) : Effect (Troubled ε π) α :=
  fun (workspace, faults) =>
    let (result, workspace) := effect workspace
    (result, workspace, faults)

/-- Services whose store fails every now and then. -/
def Services.troubled (services : Services (Workspace ε π)) : Services (Troubled ε π) where
  now := unaffected services.now
  read file := unaffected (services.read file)
  get key := unreliably (services.get key)
  put key payload ttl source := unreliably (services.put key payload ttl source)
  enrich request := unaffected (services.enrich request)
  publish file report := unaffected (services.publish file report)
  finish statistics := unaffected (services.finish statistics)
  save path report := unaffected (services.save path report)

theorem Services.Accepts.troubled
    {services : Services (Workspace ε π)}
    (accepts : services.Accepts) :
    services.troubled.Accepts where
  publish file report state := accepts.publish file report state.1
  finish statistics state := accepts.finish statistics state.1

theorem eq_of_unreliably
    {call : Effect (Workspace ε π) (Except Cache.Failure α)}
    {state : Troubled ε π}
    {value : α}
    (succeeds : (unreliably call state).1 = .ok value) :
    (call state.1).1 = .ok value := by
  obtain ⟨workspace, faults⟩ := state
  rcases faults with _ | ⟨_ | fault, later⟩
  · exact succeeds
  · exact succeeds
  · exact absurd succeeds (by simp [unreliably, Fault.strike])

/-! ## What calls of a store make of a tree -/

/-- The trees that calls of a store make of one, some of which fail. -/
inductive AfterCalls (store : Store) (faults : List (Option Fault)) (disk : Disk) :
    Disk → Prop where
  | none : AfterCalls store faults disk disk
  | stored {later : Disk} (entry : Entry) (number : Nat) (now : Instant)
      (after : AfterCalls store faults disk later) :
      AfterCalls store faults disk (store.put later entry (tagText number) now).2.2
  | failed {later : Disk} {fault : Fault}
      (isFault : some fault ∈ faults)
      (after : AfterCalls store faults disk later) :
      AfterCalls store faults disk (fault.spoil later)

/-- Files are read in a tree as in another one, and the report on failures can be written there
exactly if it can be written in the other. -/
structure Serves (pipeline : Pipeline) (settings : AnalysisSettings) (files : List Descriptor)
    (disk later : Disk) : Prop where
  read : ∀ file ∈ files, readSource settings later file.path = readSource settings disk file.path
  save : ∀ path, pipeline.settings.report.path? = some path →
    ∀ report other number otherNumber now otherNow,
      (saveReport later path report (tagText number) now).1 =
        (saveReport disk path other (tagText otherNumber) otherNow).1

/-- Calls of a store have led to the tree of a workspace. -/
structure Follows (store : Store) (faults : List (Option Fault)) (disk : Disk)
    (workspace : Workspace ε π) : Prop where
  after : AfterCalls store faults disk workspace.disk
  isStore : ∃ metrics, workspace.store = { store with metrics }

section Maintained

variable {store : Store} {faults : List (Option Fault)} {disk : Disk}
  (settings : AnalysisSettings) (enricher : Enricher ε) (publisher : Publisher π)

theorem exists_get_snd
    (key : Key)
    (workspace : Workspace ε π) :
    ∃ metrics, ((Workspace.services settings enricher publisher).get key workspace).2 =
      { workspace with
        clock := workspace.clock.read.2
        store := { workspace.store with metrics } } := by
  obtain ⟨metrics, isCounted⟩ :=
    exists_metrics_get workspace.store workspace.disk key workspace.clock.read.1
  refine ⟨metrics, ?_⟩
  simp only [Workspace.services, Workspace.get, Workspace.now, isCounted]

theorem put_snd
    (key : Key)
    (payload : Json)
    (ttl : UInt64)
    (source : SourceMetadata)
    (workspace : Workspace ε π) :
    ((Workspace.services settings enricher publisher).put key payload ttl source workspace).2 =
      { workspace with
        clock := workspace.clock.read.2
        tagsUsed := workspace.tagsUsed + 1
        store := (workspace.store.put workspace.disk (workspace.entryNow key payload ttl source)
          (tagText workspace.tagsUsed) workspace.clock.read.1).2.1
        disk := (workspace.store.put workspace.disk (workspace.entryNow key payload ttl source)
          (tagText workspace.tagsUsed) workspace.clock.read.1).2.2 } :=
  Workspace.put_snd workspace key payload ttl source

/-- The services of a workspace call its store. -/
theorem maintain_services :
    (Workspace.services settings enricher publisher).Maintain (Follows store faults disk) where
  now _ follows := ⟨follows.after, follows.isStore⟩
  read _ _ follows := follows
  get key workspace follows := by
    obtain ⟨_, isStore⟩ := follows.isStore
    obtain ⟨counted, isGet⟩ := exists_get_snd settings enricher publisher key workspace
    rw [isGet, isStore]
    exact ⟨follows.after, counted, rfl⟩
  put key payload ttl source workspace follows := by
    obtain ⟨metrics, isStore⟩ := follows.isStore
    rw [put_snd]
    generalize workspace.entryNow key payload ttl source = entry
    obtain ⟨isCounted, sameDisk⟩ := exists_metrics_put store metrics workspace.disk entry
      (tagText workspace.tagsUsed) workspace.clock.read.1
    rw [← isStore] at isCounted sameDisk
    refine ⟨?_, isCounted⟩
    dsimp only
    rw [sameDisk]
    exact .stored entry workspace.tagsUsed workspace.clock.read.1 follows.after
  enrich _ _ follows := ⟨follows.after, follows.isStore⟩
  publish _ _ _ follows := ⟨follows.after, follows.isStore⟩

/-- What does not call the store keeps what it keeps without faults. -/
theorem keeps_unaffected
    {effect : Effect (Workspace ε π) α}
    {invariant : Workspace ε π → Prop}
    (keeps : Keeps invariant effect) :
    Keeps (fun state => invariant state.1 ∧ state.2 ⊆ faults) (unaffected effect) :=
  fun state holds => ⟨keeps state.1 holds.1, holds.2⟩

/-- A call that may fail keeps what it keeps when it does not, if failing keeps it too. -/
theorem keeps_unreliably
    {call : Effect (Workspace ε π) (Except Cache.Failure α)}
    {invariant : Workspace ε π → Prop}
    (keeps : Keeps invariant call)
    (strikes : ∀ fault, some fault ∈ faults → Keeps invariant (fault.strike call)) :
    Keeps (fun state => invariant state.1 ∧ state.2 ⊆ faults) (unreliably call) := by
  rintro ⟨workspace, pending⟩ ⟨holds, arePending⟩
  rcases pending with _ | ⟨_ | fault, later⟩
  · exact ⟨keeps workspace holds, arePending⟩
  · exact ⟨keeps workspace holds, List.Subset.trans (List.subset_cons_self ..) arePending⟩
  · exact ⟨strikes fault (arePending List.mem_cons_self) workspace holds,
      List.Subset.trans (List.subset_cons_self ..) arePending⟩

/-- Services of a workspace whose store fails every now and then call it all the same. -/
theorem maintain_troubled :
    (Workspace.services settings enricher publisher).troubled.Maintain
      (fun state => Follows store faults disk state.1 ∧ state.2 ⊆ faults) where
  now := keeps_unaffected (maintain_services settings enricher publisher).now
  read file := keeps_unaffected ((maintain_services settings enricher publisher).read file)
  get key := by
    refine keeps_unreliably ((maintain_services settings enricher publisher).get key) ?_
    intro fault isFault workspace follows
    exact ⟨.failed isFault follows.after, follows.isStore⟩
  put key payload ttl source := by
    refine keeps_unreliably
      ((maintain_services settings enricher publisher).put key payload ttl source) ?_
    intro fault isFault workspace follows
    exact ⟨.failed isFault follows.after, follows.isStore⟩
  enrich request :=
    keeps_unaffected ((maintain_services settings enricher publisher).enrich request)
  publish file report :=
    keeps_unaffected ((maintain_services settings enricher publisher).publish file report)

end Maintained

/-! ## Files that lie apart from a store -/

section Apart

variable {store : Store} {faults : List (Option Fault)} {disk : Disk} {place : Place}

/-- A fault leaves the directory of a store so that entries can be written, and the rest of the
tree as it is. -/
def Fault.IsContained (fault : Fault) (store : Store) (place : Place) : Prop :=
  ∀ disk, AcceptsAll store disk place →
    AcceptsAll store (fault.spoil disk) place ∧ (fault.spoil disk).prune place = disk.prune place

/-- Calls of a store that accepts all entries leave it so, and the rest of the tree as it is. -/
theorem AfterCalls.acceptsAll
    {later : Disk}
    (after : AfterCalls store faults disk later)
    (accepts : AcceptsAll store disk place)
    (contained : ∀ fault, some fault ∈ faults → fault.IsContained store place) :
    AcceptsAll store later place ∧ later.prune place = disk.prune place := by
  induction after with
  | none =>
      exact ⟨accepts, rfl⟩
  | @stored later entry number now after inductionHypothesis =>
      obtain ⟨acceptsNow, sameNow⟩ := inductionHypothesis
      rw [Store.disk_put entry (acceptsNow entry.key number) now]
      exact ⟨acceptsNow.written entry number now,
        (Store.prune_written store later place entry number now).trans sameNow⟩
  | failed isFault after inductionHypothesis =>
      obtain ⟨acceptsNow, sameNow⟩ := inductionHypothesis
      obtain ⟨acceptsThen, sameThen⟩ := contained _ isFault _ acceptsNow
      exact ⟨acceptsThen, sameThen.trans sameNow⟩

/-- Calls of a store do not matter to files that lie apart from its directory. -/
theorem serves_of_acceptsAll
    {pipeline : Pipeline}
    {settings : AnalysisSettings}
    {files : List Descriptor}
    (accepts : AcceptsAll store disk place)
    (contained : ∀ fault, some fault ∈ faults → fault.IsContained store place)
    (apart : ∀ later, later.prune place = disk.prune place →
      Serves pipeline settings files disk later) :
    ∀ later, AfterCalls store faults disk later → Serves pipeline settings files disk later :=
  fun later after => apart later (after.acceptsAll accepts contained).2

end Apart

end SourceFacts.Run
