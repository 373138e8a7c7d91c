import SourceFacts.Proofs.Run.Visits

namespace SourceFacts.Run

/-!
# Runs that share a store

What runs in a workspace find that follow one another, and that each of them goes on to its end.
Where a run may put its reports among the entries of the store, too, what is found there still
was stored by an earlier visit.
-/

open Analysis Cache Config Disk Facts Failures Time

/-!
## Histories of runs

Runs follow one another in a workspace and share a store, whose directory is empty at
first and is changed by nothing but the runs. Anything else may change between them. In
such a history every visit takes its course according to what was stored by the visits
before it.
-/

/-! ### Visits one after another -/

/-- What a store holds after visits, the latest first. -/
def keptBy : List Visit → Contents
  | [] => .empty
  | visit :: earlier => keep (keptBy earlier) visit.kept

/-- The entries that were stored at visits, the latest first. -/
def stored (visits : List Visit) : List Entry := visits.flatMap (·.kept)

/-- Visits, the latest first, of which each takes its course after those before it. -/
def Chronicle (takes : Pipeline → Enricher ε → Prop) : List Visit → Prop
  | [] => True
  | visit :: earlier =>
      (∃ pipeline enricher, takes pipeline enricher ∧
        visit.Course pipeline enricher (keptBy earlier)) ∧ Chronicle takes earlier

/-- Whatever was stored was stored at a moment of the calendar. -/
def Dated (visits : List Visit) : Prop :=
  ∀ visit ∈ visits, ∀ entry ∈ visit.kept, entry.createdAt.IsValid

/-- What is left of dated visits is dated. -/
theorem Dated.of_suffix
    {visits others : List Visit}
    (dated : Dated visits)
    (isSuffix : others <:+ visits) :
    Dated others :=
  fun visit member => dated visit (isSuffix.subset member)

/-- The store of a workspace holds what was stored for the visits, and each of them took its
course. -/
structure Sound (cache : CacheSettings) (place : Place) (outside : Disk)
    (takes : Pipeline → Enricher ε → Prop) (state : Workspace ε π × List Visit) : Prop where
  holds : Holds cache place outside state.1 (keptBy state.2)
  chronicle : Chronicle takes state.2

section Runs

variable {cache : CacheSettings} {place : Place} {outside : Disk}
  {takes : Pipeline → Enricher ε → Prop} {state : Workspace ε π × List Visit}
  {settings : AnalysisSettings} {enricher : Enricher ε} {publisher : Publisher π}
  {pipeline : Pipeline}

/-- It does not matter to the visits what happens to the rest of a workspace. -/
theorem Sound.of_eq
    {other : Workspace ε π}
    (sound : Sound cache place outside takes state)
    (sameStore : other.store = state.1.store)
    (sameDisk : other.disk = state.1.disk) :
    Sound cache place outside takes (other, state.2) :=
  ⟨sound.holds.of_eq sameStore sameDisk, sound.chronicle⟩

/-- What holds before a file is visited and after it holds after all files. -/
theorem processAll_keeps
    {motive : Workspace ε π × List Visit → Prop}
    {files : List Descriptor}
    {log : Log}
    (step : ∀ {workspace : Workspace ε π} {visits : List Visit}, motive (workspace, visits) →
      ∀ file log, ∃ result log' after visit,
        pipeline.process (watched settings enricher publisher) file log (workspace, visits) =
          (result, log', after, visit :: visits) ∧
        visit.report? = none ∧
        ((∀ entry ∈ visit.kept, entry.createdAt.IsValid) → ∀ other : Workspace ε π,
          other.store = after.store → other.disk = after.disk →
            motive (other, { visit with report? := result.toOption } :: visits)))
    (isHeld : motive state)
    (dated : Dated (pipeline.processAll (watched settings enricher publisher) files log
      state).2.2.2) :
    motive (pipeline.processAll (watched settings enricher publisher) files log state).2.2 := by
  induction files generalizing log state with
  | nil =>
      exact isHeld
  | cons file rest inductionHypothesis =>
      obtain ⟨workspace, visits⟩ := state
      obtain ⟨result, log', after, visit, isProcessed, noReport, afterHeld⟩ :=
        step isHeld file log
      unfold Pipeline.processAll at dated ⊢
      rw [isProcessed] at dated ⊢
      cases result with
      | error failure =>
          have unreported :
              { visit with report? := (Except.error failure : Except _ Report).toOption } =
                visit := by
            cases visit
            exact congrArg _ noReport.symm
          rw [unreported] at afterHeld
          exact afterHeld (dated visit List.mem_cons_self) after rfl rfl
      | ok report =>
          dsimp only at dated ⊢
          rw [publish_watched] at dated ⊢
          let reported : Visit := { visit with report? := some report }
          let last : Workspace ε π :=
            { after with publisher := (publisher.publish file report after.publisher).2 }
          have reportedHeld :
              (∀ entry ∈ reported.kept, entry.createdAt.IsValid) →
                motive (last, reported :: visits) :=
            fun valid => afterHeld valid last rfl rfl
          cases isDelivered : (publisher.publish file report after.publisher).1 with
          | error failure =>
              rw [isDelivered] at dated
              exact reportedHeld (dated reported List.mem_cons_self)
          | ok _ =>
              rw [isDelivered] at dated
              have grows : reported :: visits <:+
                  (pipeline.processAll (watched settings enricher publisher) rest log'
                    (last, reported :: visits)).2.2.2 :=
                visits_suffix_processAll settings enricher publisher pipeline rest log' last
                  (reported :: visits)
              exact inductionHypothesis
                (reportedHeld (dated reported (grows.subset List.mem_cons_self))) dated

/-- All files take their course, and the store holds what was stored for them. -/
theorem sound_processAll
    {files : List Descriptor}
    {log : Log}
    (taken : takes pipeline enricher)
    (storable : enricher.IsStorable)
    (sound : Sound cache place outside takes state)
    (dated : Dated (pipeline.processAll (watched settings enricher publisher) files log
      state).2.2.2) :
    Sound cache place outside takes
      (pipeline.processAll (watched settings enricher publisher) files log state).2.2 := by
  refine processAll_keeps ?_ sound dated
  intro workspace visits sound file log
  obtain ⟨result, log', after, visit, isProcessed, course, noReport, _, _, afterHolds⟩ :=
    process_watched sound.holds storable file log visits
  refine ⟨result, log', after, visit, isProcessed, noReport, ?_⟩
  intro valid other sameStore sameDisk
  exact ⟨(afterHolds valid).of_eq sameStore sameDisk, ⟨pipeline, enricher, taken, course⟩,
    sound.chronicle⟩

/-! ### Whole runs -/

/-- A change of a tree leaves the directory of a store as it is. -/
structure Spares (cache : CacheSettings) (place : Place) (disk changed : Disk) : Prop where
  reaches : disk.Reaches cache.directory place → changed.Reaches cache.directory place
  same : changed.sub place = disk.sub place

/-- Writing the report on failures leaves the directory of a store as it is, whatever
that holds. -/
def SavesElsewhere (cache : CacheSettings) (place : Place) (outside : Disk)
    (pipeline : Pipeline) : Prop :=
  ∀ path, pipeline.settings.report.path? = some path →
    ∀ disk report tag now, disk.prune place = outside →
      Spares cache place disk (Failures.saveReport disk path report tag now).2

/-- A store holds the same after something else was changed. -/
theorem Holds.of_spares
    {workspace other : Workspace ε π}
    {contents : Contents}
    (holds : Holds cache place outside workspace contents)
    (isStore : { other.store with metrics := {} } = Store.ofSettings cache)
    (spares : Spares cache place workspace.disk other.disk) :
    Holds cache place (other.disk.prune place) other contents := by
  have isRoot : workspace.store.root = cache.directory := congrArg Store.root holds.isStore
  have sameStore : other.store = { workspace.store with metrics := other.store.metrics } :=
    congrArg (fun store : Store => { store with metrics := other.store.metrics })
      (isStore.trans holds.isStore.symm)
  have reaches : other.disk.Reaches workspace.store.root place := by
    rw [isRoot]
    exact spares.reaches (isRoot ▸ holds.ready.reaches)
  have ready : Ready workspace.store other.disk place :=
    ⟨reaches, holds.ready.digits, holds.ready.fits⟩
  have isShown : Shows workspace.store (other.disk.sub place) contents := by
    rw [spares.same]
    exact holds.isShown
  refine ⟨isStore, ?_, ?_, rfl⟩
  · rw [sameStore]
    exact ready.withMetrics other.store.metrics
  · rw [sameStore]
    exact isShown.withMetrics other.store.metrics

/-- The visits stay sound after something else was changed. -/
theorem Sound.of_spares
    {other : Workspace ε π}
    (sound : Sound cache place outside takes state)
    (isStore : { other.store with metrics := {} } = Store.ofSettings cache)
    (spares : Spares cache place state.1.disk other.disk) :
    Sound cache place (other.disk.prune place) takes (other, state.2) :=
  ⟨sound.holds.of_spares isStore spares, sound.chronicle⟩

/-- Writing the report on failures is no visit. -/
theorem saveReport_visits
    (started : Instant)
    (log : Log)
    (state : Workspace ε π × List Visit) :
    (pipeline.saveReport (watched settings enricher publisher) started log state).2.2 =
      state.2 := by
  unfold Pipeline.saveReport
  cases pipeline.settings.report.path? with
  | none =>
      rfl
  | some path =>
      rfl

/-- Writing the report on failures leaves the visits sound. -/
theorem sound_saveReport
    (started : Instant)
    (log : Log)
    (elsewhere : SavesElsewhere cache place outside pipeline)
    (sound : Sound cache place outside takes state) :
    ∃ changed, Sound cache place changed takes
      (pipeline.saveReport (watched settings enricher publisher) started log state).2 := by
  unfold Pipeline.saveReport
  cases isPath : pipeline.settings.report.path? with
  | none =>
      exact ⟨outside, sound⟩
  | some path =>
      refine ⟨_, sound.of_spares sound.holds.isStore ?_⟩
      exact elsewhere path isPath _ _ _ _ sound.holds.isOutside

variable (settings enricher publisher pipeline) in
/-- After the last file nothing but the report on failures touches the tree. -/
theorem exists_finish
    (started : Instant)
    (log : Log)
    (workspace : Workspace ε π)
    (visits : List Visit) :
    ∃ saved last,
      (pipeline.saveReport (watched settings enricher publisher) started log
          ({ workspace with clock := workspace.clock.read.2 }, visits)).2 = (saved, visits) ∧
        (pipeline.finish (watched settings enricher publisher) started log
          (workspace, visits)).2 = (last, visits) ∧
        last.store = saved.store ∧ last.disk = saved.disk := by
  have noVisit :
      (pipeline.saveReport (watched settings enricher publisher) started log
        ({ workspace with clock := workspace.clock.read.2 }, visits)).2.2 = visits :=
    saveReport_visits started log _
  unfold Pipeline.finish
  rw [now_watched]
  dsimp only
  generalize pipeline.saveReport (watched settings enricher publisher) started log
    ({ workspace with clock := workspace.clock.read.2 }, visits) = ending at noVisit ⊢
  obtain ⟨result, saved, others⟩ := ending
  obtain rfl : others = visits := noVisit
  cases result with
  | error error =>
      exact ⟨saved, saved, rfl, rfl, rfl, rfl⟩
  | ok _ =>
      dsimp only
      rw [finish_watched]
      cases (publisher.finish (log.statistics
          (millisecondsBetween started workspace.clock.read.1)) saved.publisher).1 with
      | error failure =>
          exact ⟨saved, _, rfl, rfl, rfl, rfl⟩
      | ok _ =>
          exact ⟨saved, _, rfl, rfl, rfl, rfl⟩

/-- After the last file a run writes the report on failures, and touches nothing else of the
store and of the tree. -/
theorem exists_run_saved
    (files : List Descriptor)
    (workspace : Workspace ε π)
    (visits : List Visit) :
    let done := (pipeline.processAll (watched settings enricher publisher) files
      (Log.declareTotal {} files.length) ({ workspace with clock := workspace.clock.read.2 },
        visits)).2.2
    ∃ log ended saved,
      ended.store = done.1.store ∧ ended.disk = done.1.disk ∧
      (pipeline.saveReport (watched settings enricher publisher) workspace.clock.read.1 log
        (ended, done.2)).2 = (saved, done.2) ∧
      ∃ last, (pipeline.run (watched settings enricher publisher) files (workspace, visits)).state =
          (last, done.2) ∧
        last.store = saved.store ∧ last.disk = saved.disk := by
  unfold Pipeline.run
  rw [now_watched]
  dsimp only
  generalize pipeline.processAll (watched settings enricher publisher) files
    (Log.declareTotal {} files.length)
    ({ workspace with clock := workspace.clock.read.2 }, visits) = ending
  obtain ⟨stopped?, log, after, others⟩ := ending
  cases stopped? with
  | none =>
      obtain ⟨saved, last, isSaved, isFinished, sameStore, sameDisk⟩ :=
        exists_finish settings enricher publisher pipeline workspace.clock.read.1 log after others
      exact ⟨log, { after with clock := after.clock.read.2 }, saved, rfl, rfl, isSaved, last,
        isFinished, sameStore, sameDisk⟩
  | some failure =>
      have noVisit :
          (pipeline.saveReport (watched settings enricher publisher) workspace.clock.read.1 log
            (after, others)).2.2 = others :=
        saveReport_visits workspace.clock.read.1 log (after, others)
      exact ⟨log, after, _, rfl, rfl, Prod.ext rfl noVisit, _, Prod.ext rfl noVisit, rfl, rfl⟩

/-- A run is over with the last visit. -/
theorem run_visits
    (files : List Descriptor)
    (workspace : Workspace ε π)
    (visits : List Visit) :
    (pipeline.run (watched settings enricher publisher) files (workspace, visits)).state.2 =
      (pipeline.processAll (watched settings enricher publisher) files
        (Log.declareTotal {} files.length)
        ({ workspace with clock := workspace.clock.read.2 }, visits)).2.2.2 := by
  obtain ⟨_, _, _, _, _, _, _, isLast, _, _⟩ := exists_run_saved files workspace visits
  rw [isLast]

/-- A run leaves the visits sound. -/
theorem sound_run
    {files : List Descriptor}
    {workspace : Workspace ε π}
    {visits : List Visit}
    (taken : takes pipeline enricher)
    (storable : enricher.IsStorable)
    (elsewhere : SavesElsewhere cache place outside pipeline)
    (sound : Sound cache place outside takes (workspace, visits))
    (dated : Dated (pipeline.run (watched settings enricher publisher) files
      (workspace, visits)).state.2) :
    ∃ changed, Sound cache place changed takes
      (pipeline.run (watched settings enricher publisher) files (workspace, visits)).state := by
  have readySound : Sound cache place outside takes
      ({ workspace with clock := workspace.clock.read.2 }, visits) :=
    sound.of_eq rfl rfl
  rw [run_visits] at dated
  have processed := sound_processAll taken storable readySound dated
  obtain ⟨log, ended, saved, endedStore, endedDisk, isSaved, last, isLast, sameStore, sameDisk⟩ :=
    exists_run_saved files workspace visits
  obtain ⟨changed, savedSound⟩ := sound_saveReport workspace.clock.read.1 log elsewhere
    (processed.of_eq endedStore endedDisk)
  rw [isSaved] at savedSound
  rw [isLast]
  exact ⟨changed, savedSound.of_eq sameStore sameDisk⟩

variable (settings enricher publisher pipeline) in
/-- A run only adds visits, at moments that the clock shows. -/
theorem exists_run_visits
    {property : Instant → Prop}
    {workspace : Workspace ε π}
    (files : List Descriptor)
    (isShown : workspace.clock.Shows property (3 * files.length + 1))
    (visits : List Visit) :
    ∃ made, (pipeline.run (watched settings enricher publisher) files
        (workspace, visits)).state.2 = made ++ visits ∧
      ∀ visit ∈ made, visit.During property pipeline.settings.cache.ttlSeconds := by
  rw [run_visits]
  exact exists_processAll_visits settings enricher publisher pipeline files isShown.read.2 _ visits

/-- A run only adds visits. -/
theorem visits_suffix_run
    (files : List Descriptor)
    (workspace : Workspace ε π)
    (visits : List Visit) :
    visits <:+ (pipeline.run (watched settings enricher publisher) files
      (workspace, visits)).state.2 := by
  rw [run_visits]
  exact visits_suffix_processAll settings enricher publisher pipeline files _ _ visits

end Runs

/-! ### Histories -/

/-- What can have been done with a store that settings choose, at a place, and what was
visited then, the latest first. -/
inductive History (cache : CacheSettings) (place : Place) (takes : Pipeline → Enricher ε → Prop) :
    Workspace ε π → List Visit → Prop where
  /-- The directory of the store is empty at first. -/
  | begin {workspace : Workspace ε π}
      (isStore : workspace.store = Store.ofSettings cache)
      (found : workspace.disk.find true cache.directory = .ok (place, .directory))
      (empty : workspace.disk.below place = [])
      (digits : 0 < cache.shardPrefixLen.toNat ∧ cache.shardPrefixLen.toNat ≤ keyDigits)
      (fits : (Store.ofSettings cache).longestPath ≤ maxPathLength) :
      History cache place takes workspace []
  /-- Anything but the store may change between runs. -/
  | change {workspace other : Workspace ε π} {visits : List Visit}
      (before : History cache place takes workspace visits)
      (isStore : { other.store with metrics := {} } = Store.ofSettings cache)
      (spares : Spares cache place workspace.disk other.disk) :
      History cache place takes other visits
  | run {workspace : Workspace ε π} {visits : List Visit} {pipeline : Pipeline}
      {enricher : Enricher ε}
      (before : History cache place takes workspace visits)
      (isCache : pipeline.settings.cache = cache)
      (taken : takes pipeline enricher)
      (storable : enricher.IsStorable)
      (elsewhere : SavesElsewhere cache place (workspace.disk.prune place) pipeline)
      (publisher : Publisher π)
      (files : List Descriptor) :
      History cache place takes
        (pipeline.run (watched pipeline.settings.analysis enricher publisher) files
          (workspace, visits)).state.1
        (pipeline.run (watched pipeline.settings.analysis enricher publisher) files
          (workspace, visits)).state.2

/-- In a history the visits are sound, as far as what was stored has a date. -/
theorem History.sound
    {cache : CacheSettings}
    {place : Place}
    {takes : Pipeline → Enricher ε → Prop}
    {workspace : Workspace ε π}
    {visits : List Visit}
    (history : History cache place takes workspace visits)
    (dated : Dated visits) :
    Sound cache place (workspace.disk.prune place) takes (workspace, visits) := by
  induction history with
  | begin isStore found empty digits fits =>
      exact ⟨Holds.of_empty isStore found empty digits fits, trivial⟩
  | change before isStore spares inductionHypothesis =>
      exact (inductionHypothesis dated).of_spares isStore spares
  | run before _ taken storable elsewhere publisher files inductionHypothesis =>
      have earlierDated := dated.of_suffix (visits_suffix_run files _ _)
      obtain ⟨changed, sound⟩ :=
        sound_run taken storable elsewhere (inductionHypothesis earlierDated) dated
      have isOutside := sound.holds.isOutside
      rwa [isOutside]

/-! ### Histories with other files -/

/-- Whatever contents have under a key was stored under it at visits. -/
def StemsFrom (visits : List Visit) (contents : Contents) : Prop :=
  ∀ key entry, contents key = some entry → entry ∈ stored visits ∧ entry.key = key

/-- Visits, the latest first, of which each takes its course while nothing can be found but what
was stored at those before it. -/
def Tale (takes : Pipeline → Enricher ε → Prop) : List Visit → Prop
  | [] => True
  | visit :: earlier =>
      (∃ pipeline enricher contents, takes pipeline enricher ∧ StemsFrom earlier contents ∧
        visit.Course pipeline enricher contents) ∧ Tale takes earlier

/-- What can be found in the store of a workspace was stored at the visits, and each of them took
its course. -/
structure Traced (cache : CacheSettings) (place : Place) (takes : Pipeline → Enricher ε → Prop)
    (state : Workspace ε π × List Visit) : Prop where
  stocks : Stocks cache place state.1 (stored state.2)
  tale : Tale takes state.2

/-- Between runs the store of a workspace is the one that settings choose, what can be read in its
directory was stored at the visits, and each of these took its course. -/
structure Rests (cache : CacheSettings) (place : Place) (takes : Pipeline → Enricher ε → Prop)
    (state : Workspace ε π × List Visit) : Prop where
  isStore : { state.1.store with metrics := {} } = Store.ofSettings cache
  digits : 0 < cache.shardPrefixLen.toNat ∧ cache.shardPrefixLen.toNat ≤ keyDigits
  fits : (Store.ofSettings cache).longestPath ≤ maxPathLength
  accounted : Accounted place state.1.disk (stored state.2)
  tale : Tale takes state.2

/-- What can have been done with a store that settings choose, at a place, and what was visited
then, the latest first. Reports on failures may be written anywhere, also among the entries. -/
inductive OpenHistory (cache : CacheSettings) (place : Place)
    (takes : Pipeline → Enricher ε → Prop) : Workspace ε π → List Visit → Prop where
  /-- There is nothing in the directory of the store at first. -/
  | begin {workspace : Workspace ε π}
      (isStore : workspace.store = Store.ofSettings cache)
      (empty : workspace.disk.below place = [])
      (digits : 0 < cache.shardPrefixLen.toNat ∧ cache.shardPrefixLen.toNat ≤ keyDigits)
      (fits : (Store.ofSettings cache).longestPath ≤ maxPathLength) :
      OpenHistory cache place takes workspace []
  /-- Anything but what is in the directory may change between runs. -/
  | change {workspace other : Workspace ε π} {visits : List Visit}
      (before : OpenHistory cache place takes workspace visits)
      (isStore : { other.store with metrics := {} } = Store.ofSettings cache)
      (same : other.disk.sub place = workspace.disk.sub place) :
      OpenHistory cache place takes other visits
  /-- A run finds the directory of the store. -/
  | run {workspace : Workspace ε π} {visits : List Visit} {pipeline : Pipeline}
      {enricher : Enricher ε}
      (before : OpenHistory cache place takes workspace visits)
      (isCache : pipeline.settings.cache = cache)
      (taken : takes pipeline enricher)
      (storable : enricher.IsStorable)
      (reaches : workspace.disk.Reaches cache.directory place)
      (publisher : Publisher π)
      (files : List Descriptor) :
      OpenHistory cache place takes
        (pipeline.run (watched pipeline.settings.analysis enricher publisher) files
          (workspace, visits)).state.1
        (pipeline.run (watched pipeline.settings.analysis enricher publisher) files
          (workspace, visits)).state.2

section OpenHistories

variable {cache : CacheSettings} {place : Place} {takes : Pipeline → Enricher ε → Prop}
  {state : Workspace ε π × List Visit} {workspace : Workspace ε π} {visits : List Visit}
  {settings : AnalysisSettings} {enricher : Enricher ε} {publisher : Publisher π}
  {pipeline : Pipeline}

/-- A history in which reports are written elsewhere is one in which they may be written
anywhere. -/
theorem History.isOpen
    (history : History cache place takes workspace visits)
    (dated : Dated visits) :
    OpenHistory cache place takes workspace visits := by
  induction history with
  | begin isStore _ empty digits fits =>
      exact .begin isStore empty digits fits
  | change before isStore spares inductionHypothesis =>
      exact .change (inductionHypothesis dated) isStore spares.same
  | @run workspace visits _ _ before isCache taken storable _ publisher files
      inductionHypothesis =>
      have earlierDated := dated.of_suffix (visits_suffix_run files _ _)
      have holds := (before.sound earlierDated).holds
      have isRoot : workspace.store.root = cache.directory := congrArg Store.root holds.isStore
      exact .run (inductionHypothesis earlierDated) isCache taken storable
        (isRoot ▸ holds.ready.reaches) publisher files

/-- All files take their course, and what can be found was stored for them or before. -/
theorem traced_processAll
    {files : List Descriptor}
    {log : Log}
    (taken : takes pipeline enricher)
    (storable : enricher.IsStorable)
    (traced : Traced cache place takes state)
    (dated : Dated (pipeline.processAll (watched settings enricher publisher) files log
      state).2.2.2) :
    Traced cache place takes
      (pipeline.processAll (watched settings enricher publisher) files log state).2.2 := by
  refine processAll_keeps ?_ traced dated
  intro workspace visits traced file log
  obtain ⟨result, log', after, visit, isProcessed, course, noReport, _, _, afterStocks⟩ :=
    process_carries carries_stocks traced.stocks storable file log visits
  refine ⟨result, log', after, visit, isProcessed, noReport, ?_⟩
  intro valid other sameStore sameDisk
  have stocks := afterStocks valid
  rw [List.foldr_cons_eq_append'] at stocks
  exact ⟨stocks.of_metrics after.store.metrics sameStore sameDisk,
    ⟨pipeline, enricher, workspace.findable, taken, fun _ _ => traced.stocks.of_findable, course⟩,
    traced.tale⟩

/-- Writing the report on failures, wherever it is, leaves what can be read in the directory of a
store accounted for. -/
theorem accounted_saveReport_watched
    {entries : List Entry}
    (started : Instant)
    (log : Log)
    (accounted : Accounted place workspace.disk entries) :
    let saved := (pipeline.saveReport (watched settings enricher publisher) started log
      (workspace, visits)).2.1
    Accounted place saved.disk entries ∧ saved.store = workspace.store := by
  unfold Pipeline.saveReport
  cases pipeline.settings.report.path? with
  | none =>
      exact ⟨accounted, rfl⟩
  | some path =>
      exact ⟨accounted_saveReport accounted path log pipeline.project _ _ _ _, rfl⟩

/-- A run that finds the directory of the store begins with what was stored at the visits. -/
theorem Rests.traced
    (rests : Rests cache place takes state)
    (reaches : state.1.disk.Reaches cache.directory place) :
    Traced cache place takes state := by
  have sameStore : state.1.store = { Store.ofSettings cache with metrics := state.1.store.metrics } :=
    congrArg (fun store : Store => { store with metrics := state.1.store.metrics }) rests.isStore
  refine ⟨⟨rests.isStore, ?_, rests.accounted⟩, rests.tale⟩
  rw [sameStore]
  exact ⟨reaches, rests.digits, rests.fits⟩

/-- After a run what can be read in the directory of the store was stored at the visits. -/
theorem rests_run
    {files : List Descriptor}
    (taken : takes pipeline enricher)
    (storable : enricher.IsStorable)
    (reaches : workspace.disk.Reaches cache.directory place)
    (rests : Rests cache place takes (workspace, visits))
    (dated : Dated (pipeline.run (watched settings enricher publisher) files
      (workspace, visits)).state.2) :
    Rests cache place takes
      (pipeline.run (watched settings enricher publisher) files (workspace, visits)).state := by
  have before := rests.traced reaches
  have begun : Traced cache place takes
      ({ workspace with clock := workspace.clock.read.2 }, visits) :=
    ⟨carries_stocks.of_eq before.stocks rfl rfl, before.tale⟩
  rw [run_visits] at dated
  have traced := traced_processAll taken storable begun dated
  obtain ⟨log, ended, saved, endedStore, endedDisk, isSaved, last, isLast, sameStore, sameDisk⟩ :=
    exists_run_saved files workspace visits
  have stocks := carries_stocks.of_eq traced.stocks endedStore endedDisk
  obtain ⟨accounted, savedStore⟩ :=
    accounted_saveReport_watched workspace.clock.read.1 log stocks.accounted
  rw [isSaved] at accounted savedStore
  rw [isLast]
  refine ⟨?_, rests.digits, rests.fits, ?_, traced.tale⟩
  · rw [sameStore, savedStore]
    exact stocks.isStore
  · rw [sameDisk]
    exact accounted

/-- In a history what can be read in the directory of the store was stored at the visits, as far
as what was stored has a date. -/
theorem OpenHistory.rests
    (history : OpenHistory cache place takes workspace visits)
    (dated : Dated visits) :
    Rests cache place takes (workspace, visits) := by
  induction history with
  | begin isStore empty digits fits =>
      refine ⟨?_, digits, fits, accounted_of_below_eq_nil empty, trivial⟩
      rw [isStore]
      rfl
  | change before isStore same inductionHypothesis =>
      have rests := inductionHypothesis dated
      exact ⟨isStore, rests.digits, rests.fits, rests.accounted.of_sub_eq same, rests.tale⟩
  | run before _ taken storable reaches publisher files inductionHypothesis =>
      have rests := inductionHypothesis (dated.of_suffix (visits_suffix_run files _ _))
      exact rests_run taken storable reaches rests dated

/-- Every visit takes its course, and then nothing can be found but what was stored before. -/
theorem Tale.course
    {visit : Visit}
    {earlier : List Visit}
    (tale : Tale takes visits)
    (isSuffix : visit :: earlier <:+ visits) :
    ∃ pipeline enricher contents, takes pipeline enricher ∧ StemsFrom earlier contents ∧
      visit.Course pipeline enricher contents := by
  induction visits with
  | nil =>
      exact absurd isSuffix (by simp)
  | cons first rest inductionHypothesis =>
      rcases List.suffix_cons_iff.mp isSuffix with same | further
      · obtain ⟨rfl, rfl⟩ := List.cons.inj same
        exact tale.1
      · exact inductionHypothesis tale.2 further

/-- Every visit takes its course while something can be found. -/
theorem Tale.course_of_mem
    {visit : Visit}
    (tale : Tale takes visits)
    (member : visit ∈ visits) :
    ∃ pipeline enricher contents, takes pipeline enricher ∧
      visit.Course pipeline enricher contents := by
  obtain ⟨later, earlier, rfl⟩ := List.append_of_mem member
  obtain ⟨pipeline, enricher, contents, taken, _, course⟩ :=
    tale.course (List.suffix_append later (visit :: earlier))
  exact ⟨pipeline, enricher, contents, taken, course⟩

end OpenHistories

/-!
## Runs that go on

A file that can be read and parsed is visited, and the run goes on with the next one if
the report is taken. So a run does not end before all files are visited, as long as they
can be read and parsed and nothing refuses their reports.
-/

variable {cache : CacheSettings} {place : Place} {outside : Disk} {workspace : Workspace ε π}
  {contents : Contents} {settings : AnalysisSettings} {enricher : Enricher ε}
  {publisher : Publisher π} {pipeline : Pipeline}

/-- A file that can be read and has a model is visited, and as long as reports are taken
the run goes on with the next file. -/
theorem processAll_goesOn
    {file : Descriptor}
    {source : SourceText}
    {model : Model}
    (holds : Holds cache place outside workspace contents)
    (storable : enricher.IsStorable)
    (enabled : pipeline.settings.cache.enabled = true)
    (isSource : readSource settings workspace.disk file.path = .ok source)
    (isModel : pipeline.analyzer.model? file.path source = some model)
    (isTaken : ∀ report state, (publisher.publish file report state).1 = .ok ())
    (rest : List Descriptor)
    (log : Log)
    (visits : List Visit) :
    ∃ log' after visit,
      pipeline.processAll (watched settings enricher publisher) (file :: rest) log
          (workspace, visits) =
        pipeline.processAll (watched settings enricher publisher) rest log'
          (after, visit :: visits) ∧
      visit.file = file ∧ visit.source = .ok source ∧
      visit.Course pipeline enricher contents ∧
      ((∀ entry ∈ visit.kept, entry.createdAt.IsValid) →
        Holds cache place outside after (keep contents visit.kept)) := by
  obtain ⟨result, log', after, visit, isProcessed, course, _, isFile, isRead, afterHolds⟩ :=
    process_watched holds storable file log visits
  rw [isSource] at isRead
  cases result with
  | error failure =>
      cases course with
      | passedBy _ _ _ _ noModel =>
          have missing := noModel enabled source isRead
          rw [isFile, isModel] at missing
          exact absurd missing (by simp)
      | enriched isReport =>
          exact absurd isReport (by simp [Except.toOption])
  | ok report =>
      let last : Workspace ε π :=
        { after with publisher := (publisher.publish file report after.publisher).2 }
      refine ⟨log', last, { visit with report? := some report }, ?_, isFile, isRead, course,
        fun valid => (afterHolds valid).of_eq rfl rfl⟩
      rw [Pipeline.processAll, isProcessed]
      dsimp only
      rw [publish_watched, isTaken]

/-- Files that can be read and have models are all visited, one after another. -/
theorem exists_visits_of_readable
    {files : List Descriptor}
    {text : Descriptor → SourceText}
    {log : Log}
    {visits : List Visit}
    (holds : Holds cache place outside workspace contents)
    (storable : enricher.IsStorable)
    (enabled : pipeline.settings.cache.enabled = true)
    (readable : ∀ file ∈ files, ∀ disk : Disk, disk.prune place = outside →
      readSource settings disk file.path = .ok (text file))
    (hasModel : ∀ file ∈ files, ∃ model,
      pipeline.analyzer.model? file.path (text file) = some model)
    (isTaken : ∀ file report state, (publisher.publish file report state).1 = .ok ())
    (dated : Dated (pipeline.processAll (watched settings enricher publisher) files log
      (workspace, visits)).2.2.2) :
    ∃ made,
      (pipeline.processAll (watched settings enricher publisher) files log
        (workspace, visits)).2.2.2 = made ++ visits ∧
      made.map (fun visit => (visit.file, visit.source)) =
        (files.map fun file => (file, .ok (text file))).reverse := by
  induction files generalizing log workspace contents visits with
  | nil =>
      exact ⟨[], rfl, rfl⟩
  | cons file rest inductionHypothesis =>
      rw [List.forall_mem_cons] at readable hasModel
      obtain ⟨model, isModel⟩ := hasModel.1
      obtain ⟨log', after, visit, goesOn, isFile, isSource, _, afterHolds⟩ :=
        processAll_goesOn holds storable enabled (readable.1 _ holds.isOutside) isModel
          (isTaken file) rest log visits
      rw [goesOn] at dated ⊢
      have isVisited := visits_suffix_processAll settings enricher publisher pipeline rest log'
        after (visit :: visits)
      have restHolds := afterHolds (dated visit (isVisited.subset List.mem_cons_self))
      obtain ⟨made, areMade, areFiles⟩ :=
        inductionHypothesis restHolds readable.2 hasModel.2 dated
      refine ⟨made ++ [visit], ?_, ?_⟩
      · rw [areMade, List.append_assoc]
        rfl
      · rw [List.map_append, areFiles, List.map_singleton, isFile, isSource, List.map_cons,
          List.reverse_cons]

/-- A run visits all files that can be read and have models. -/
theorem exists_run_visits_of_readable
    {files : List Descriptor}
    {text : Descriptor → SourceText}
    {visits : List Visit}
    (holds : Holds cache place outside workspace contents)
    (storable : enricher.IsStorable)
    (enabled : pipeline.settings.cache.enabled = true)
    (readable : ∀ file ∈ files, ∀ disk : Disk, disk.prune place = outside →
      readSource settings disk file.path = .ok (text file))
    (hasModel : ∀ file ∈ files, ∃ model,
      pipeline.analyzer.model? file.path (text file) = some model)
    (isTaken : ∀ file report state, (publisher.publish file report state).1 = .ok ())
    (dated : Dated (pipeline.run (watched settings enricher publisher) files
      (workspace, visits)).state.2) :
    ∃ made,
      (pipeline.run (watched settings enricher publisher) files (workspace, visits)).state.2 =
        made ++ visits ∧
      made.map (fun visit => (visit.file, visit.source)) =
        (files.map fun file => (file, .ok (text file))).reverse := by
  rw [run_visits] at dated ⊢
  exact exists_visits_of_readable (holds.of_eq rfl rfl) storable enabled readable hasModel isTaken
    dated

end SourceFacts.Run
