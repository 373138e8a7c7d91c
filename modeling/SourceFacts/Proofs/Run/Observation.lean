import SourceFacts.Run.Pipeline

namespace SourceFacts.Run

/-!
# What a run does to its state

A run does nothing to its state but what its services do, and knows nothing of it but what they
tell. So it keeps what all of them keep, and does not notice if they are observed.
-/

open Analysis Facts Failures Time

/-!
## What services keep

A run does nothing to its state but what its services do. So whatever all of them keep is
kept by a run.
-/

/-- An effect keeps what holds of a state. -/
def Keeps (invariant : σ → Prop) (effect : Effect σ α) : Prop :=
  ∀ state, invariant state → invariant (effect state).2

/-- Services keep what holds of a state while files are processed. -/
structure Services.Maintain (invariant : σ → Prop) (services : Services σ) : Prop where
  now : Keeps invariant services.now
  read : ∀ file, Keeps invariant (services.read file)
  get : ∀ key, Keeps invariant (services.get key)
  put : ∀ key payload ttl source, Keeps invariant (services.put key payload ttl source)
  enrich : ∀ request, Keeps invariant (services.enrich request)
  publish : ∀ file report, Keeps invariant (services.publish file report)

/-- Services keep what holds of a state. -/
structure Services.Keep (invariant : σ → Prop) (services : Services σ) : Prop extends
    services.Maintain invariant where
  finish : ∀ statistics, Keeps invariant (services.finish statistics)
  save : ∀ path report, Keeps invariant (services.save path report)

namespace Pipeline

variable {invariant : σ → Prop} {services : Services σ} (pipeline : Pipeline)

/-- Making an enrichment keeps what the services keep. -/
theorem enrichAnew_keeps
    (keep : services.Maintain invariant)
    (key : Cache.Key)
    (file : Descriptor)
    (model : Model)
    (source : String) :
    Keeps invariant (pipeline.enrichAnew services key file model source) := by
  intro state holds
  have asked := keep.enrich (pipeline.request file model source) state holds
  unfold enrichAnew
  generalize services.enrich (pipeline.request file model source) state = answer at asked ⊢
  obtain ⟨result, after⟩ := answer
  cases result with
  | error failure =>
      exact asked
  | ok payload =>
      exact keep.put key payload _ _ after asked

theorem enrichWithKey_keeps
    (keep : services.Maintain invariant)
    (key : Cache.Key)
    (file : Descriptor)
    (model : Model)
    (source : String) :
    Keeps invariant (pipeline.enrichWithKey services key file model source) := by
  intro state holds
  have sought := keep.get key state holds
  unfold enrichWithKey
  generalize services.get key state = found at sought ⊢
  obtain ⟨result, after⟩ := found
  rcases result with failure | payload?
  · exact enrichAnew_keeps pipeline keep key file model source after sought
  · cases payload? with
    | none =>
        exact enrichAnew_keeps pipeline keep key file model source after sought
    | some payload =>
        exact sought

theorem enrich_keeps
    (keep : services.Maintain invariant)
    (file : Descriptor)
    (analyzed : Analyzed) :
    Keeps invariant (pipeline.enrich services file analyzed) := by
  intro state holds
  unfold enrich
  split
  · split
    · exact enrichWithKey_keeps pipeline keep _ file _ _ state holds
    · exact holds
  · exact holds

theorem process_keeps
    (keep : services.Maintain invariant)
    (file : Descriptor)
    (log : Log)
    {state : σ}
    (holds : invariant state) :
    invariant (pipeline.process services file log state).2.2 := by
  have isRead := keep.read file _ (keep.now state holds)
  simp only [process]
  split
  · exact isRead
  · exact enrich_keeps pipeline keep file _ _ isRead

/-- Processing files keeps what the services keep. -/
theorem processAll_keeps
    (keep : services.Maintain invariant)
    (files : List Descriptor)
    (log : Log)
    {state : σ}
    (holds : invariant state) :
    invariant (pipeline.processAll services files log state).2.2 := by
  induction files generalizing log state with
  | nil =>
      exact holds
  | cons file rest inductionHypothesis =>
      have processed := process_keeps pipeline keep file log holds
      unfold processAll
      generalize pipeline.process services file log state = ending at processed ⊢
      obtain ⟨result, log', after⟩ := ending
      cases result with
      | error failure =>
          exact processed
      | ok report =>
          have published := keep.publish file report after processed
          dsimp only
          generalize services.publish file report after = delivery at published ⊢
          obtain ⟨delivered, last⟩ := delivery
          cases delivered with
          | error failure =>
              exact published
          | ok _ =>
              exact inductionHypothesis log' published

theorem saveReport_keeps
    (keep : services.Keep invariant)
    (started : Instant)
    (log : Log) :
    Keeps invariant (pipeline.saveReport services started log) := by
  intro state holds
  unfold saveReport
  cases pipeline.settings.report.path? with
  | none =>
      exact holds
  | some path =>
      exact keep.save path _ _ (keep.now state holds)

theorem finish_keeps
    (keep : services.Keep invariant)
    (started : Instant)
    (log : Log) :
    Keeps invariant (pipeline.finish services started log) := by
  intro state holds
  have saved :=
    saveReport_keeps pipeline keep started log _ (keep.now state holds)
  simp only [finish]
  generalize pipeline.saveReport services started log (services.now state).2 = ending at saved ⊢
  obtain ⟨result, after⟩ := ending
  cases result with
  | error error =>
      exact saved
  | ok _ =>
      have finished := keep.finish
        (log.statistics (millisecondsBetween started (services.now state).1)) after saved
      dsimp only
      generalize services.finish
        (log.statistics (millisecondsBetween started (services.now state).1)) after = last
        at finished ⊢
      obtain ⟨delivered, last⟩ := last
      cases delivered <;> exact finished

/-- A run keeps what the services keep. -/
theorem run_keeps
    (keep : services.Keep invariant)
    (files : List Descriptor)
    {state : σ}
    (holds : invariant state) :
    invariant (pipeline.run services files state).state := by
  have processed := processAll_keeps pipeline keep.toMaintain files
    (Log.declareTotal {} files.length) (keep.now state holds)
  simp only [run]
  generalize pipeline.processAll services files (Log.declareTotal {} files.length)
    (services.now state).2 = ending at processed ⊢
  obtain ⟨stopped?, log, after⟩ := ending
  cases stopped? with
  | some failure =>
      exact saveReport_keeps pipeline keep _ log after processed
  | none =>
      exact finish_keeps pipeline keep _ log after processed

end Pipeline

/-!
## Runs that are observed

A run knows nothing of its state but what its services do with it. So services that
see more of a state, and do the same with the part that others see, lead to the same
run. This is how a run is observed: what its services do is written down, and the run
does not notice.
-/

/-! ### Services that see more -/

/-- An effect does the same as another one that only sees a part of the state. -/
def Mirrors (view : τ → σ) (effect : Effect τ α) (seen : Effect σ α) : Prop :=
  ∀ state, seen (view state) = ((effect state).1, view (effect state).2)

/-- Services do the same as others that only see a part of the state. -/
structure Services.Mirror (view : τ → σ) (services : Services τ) (seen : Services σ) :
    Prop where
  now : Mirrors view services.now seen.now
  read : ∀ file, Mirrors view (services.read file) (seen.read file)
  get : ∀ key, Mirrors view (services.get key) (seen.get key)
  put : ∀ key payload ttl source,
    Mirrors view (services.put key payload ttl source) (seen.put key payload ttl source)
  enrich : ∀ request, Mirrors view (services.enrich request) (seen.enrich request)
  publish : ∀ file report, Mirrors view (services.publish file report) (seen.publish file report)
  finish : ∀ statistics, Mirrors view (services.finish statistics) (seen.finish statistics)
  save : ∀ path report, Mirrors view (services.save path report) (seen.save path report)

/-- What is seen of an ending. -/
def Ending.seen (view : τ → σ) (ending : Ending τ) : Ending σ where
  result := ending.result
  log := ending.log
  state := view ending.state

namespace Pipeline

variable {view : τ → σ} {services : Services τ} {seen : Services σ} {pipeline : Pipeline}

/-- A new enrichment is the same for services that see more. -/
theorem enrichAnew_mirrors
    (mirror : services.Mirror view seen)
    (key : Cache.Key)
    (file : Descriptor)
    (model : Model)
    (source : String) :
    Mirrors view (pipeline.enrichAnew services key file model source)
      (pipeline.enrichAnew seen key file model source) := by
  intro state
  unfold enrichAnew
  rw [mirror.enrich]
  obtain ⟨result, after⟩ := services.enrich (pipeline.request file model source) state
  cases result with
  | error failure =>
      rfl
  | ok payload =>
      dsimp only
      rw [mirror.put]

/-- The enrichment under a key is the same for services that see more. -/
theorem enrichWithKey_mirrors
    (mirror : services.Mirror view seen)
    (key : Cache.Key)
    (file : Descriptor)
    (model : Model)
    (source : String) :
    Mirrors view (pipeline.enrichWithKey services key file model source)
      (pipeline.enrichWithKey seen key file model source) := by
  intro state
  unfold enrichWithKey
  rw [mirror.get]
  obtain ⟨result, after⟩ := services.get key state
  rcases result with failure | payload?
  · exact enrichAnew_mirrors mirror key file model source after
  · cases payload? with
    | none =>
        exact enrichAnew_mirrors mirror key file model source after
    | some payload =>
        rfl

/-- The enrichment of a file is the same for services that see more. -/
theorem enrich_mirrors
    (mirror : services.Mirror view seen)
    (file : Descriptor)
    (analyzed : Analyzed) :
    Mirrors view (pipeline.enrich services file analyzed)
      (pipeline.enrich seen file analyzed) := by
  intro state
  unfold enrich
  cases analyzed.outcome.model? with
  | none =>
      rfl
  | some model =>
      cases analyzed.source? with
      | none =>
          rfl
      | some source =>
          by_cases isEnabled : pipeline.settings.cache.enabled = true
          · simp only [isEnabled, if_true]
            rw [enrichWithKey_mirrors mirror]
          · simp only [isEnabled, if_false, Bool.false_eq_true]

/-- A file is processed in the same way with services that see more. -/
theorem process_mirrors
    (mirror : services.Mirror view seen)
    (file : Descriptor)
    (log : Log)
    (state : τ) :
    pipeline.process seen file log (view state) =
      ((pipeline.process services file log state).1,
        (pipeline.process services file log state).2.1,
        view (pipeline.process services file log state).2.2) := by
  simp only [process, mirror.now state, mirror.read file (services.now state).2]
  obtain ⟨result, after⟩ := pipeline.analyzer.analyzeRead file.path file.sizeBytes
    (services.read file (services.now state).2).1 (services.now state).1 log
  cases result with
  | error failure =>
      rfl
  | ok analyzed =>
      dsimp only
      rw [enrich_mirrors mirror]

/-- Files are processed in the same way with services that see more. -/
theorem processAll_mirrors
    (mirror : services.Mirror view seen)
    (files : List Descriptor)
    (log : Log)
    (state : τ) :
    pipeline.processAll seen files log (view state) =
      ((pipeline.processAll services files log state).1,
        (pipeline.processAll services files log state).2.1,
        view (pipeline.processAll services files log state).2.2) := by
  induction files generalizing log state with
  | nil =>
      rfl
  | cons file rest inductionHypothesis =>
      unfold processAll
      rw [process_mirrors mirror]
      obtain ⟨result, log, state⟩ := pipeline.process services file log state
      cases result with
      | error failure =>
          rfl
      | ok report =>
          dsimp only
          rw [mirror.publish]
          obtain ⟨delivered, state⟩ := services.publish file report state
          cases delivered with
          | error failure =>
              rfl
          | ok _ =>
              exact inductionHypothesis log state

/-- The report on failures is the same for services that see more. -/
theorem saveReport_mirrors
    (mirror : services.Mirror view seen)
    (started : Instant)
    (log : Log) :
    Mirrors view (pipeline.saveReport services started log)
      (pipeline.saveReport seen started log) := by
  intro state
  unfold saveReport
  cases pipeline.settings.report.path? with
  | none =>
      rfl
  | some path =>
      simp only [mirror.now state]
      rw [mirror.save]

/-- A run is finished in the same way with services that see more. -/
theorem finish_mirrors
    (mirror : services.Mirror view seen)
    (started : Instant)
    (log : Log) :
    Mirrors view (pipeline.finish services started log) (pipeline.finish seen started log) := by
  intro state
  simp only [finish, mirror.now state]
  rw [saveReport_mirrors mirror]
  obtain ⟨saved, after⟩ := pipeline.saveReport services started log (services.now state).2
  cases saved with
  | error error =>
      rfl
  | ok _ =>
      dsimp only
      rw [mirror.finish]
      obtain ⟨finished, last⟩ := services.finish
        (log.statistics (millisecondsBetween started (services.now state).1)) after
      cases finished <;> rfl

/-- A run is the same with services that see more. -/
theorem run_mirrors
    (mirror : services.Mirror view seen)
    (files : List Descriptor)
    (state : τ) :
    pipeline.run seen files (view state) = (pipeline.run services files state).seen view := by
  simp only [run, mirror.now state]
  rw [processAll_mirrors mirror]
  obtain ⟨stopped?, log, after⟩ := pipeline.processAll services files
    (Log.declareTotal {} files.length) (services.now state).2
  cases stopped? with
  | none =>
      dsimp only
      rw [finish_mirrors mirror]
      rfl
  | some failure =>
      dsimp only
      rw [saveReport_mirrors mirror]
      rfl

end Pipeline

/-! ### Writing down what happens -/

/-- What a service did for a run. -/
inductive Event where
  | looked (now : Instant)
  | read (file : Descriptor) (source : Except Analysis.Failure SourceText)
  | sought (key : Cache.Key) (found : Except Cache.Failure (Option Json))
  | kept (key : Cache.Key) (payload : Json) (ttl : UInt64) (source : Cache.SourceMetadata)
      (result : Except Cache.Failure Unit)
  | enriched (request : Request) (result : Except EnrichmentFailure Json)
  | published (file : Descriptor) (report : Report) (result : Except DeliveryFailure Unit)
  | finished (statistics : Statistics) (result : Except DeliveryFailure Unit)
  | saved (path : String) (report : Json) (result : Except Disk.OsError Unit)

/-- An effect of which a note is made, from the event that it is and the state before. -/
def observe (note : Event → σ → ω → ω) (effect : Effect σ α) (event : α → Event) :
    Effect (σ × ω) α := fun (state, notes) =>
  let (result, after) := effect state
  (result, after, note (event result) state notes)

/-- Services that make notes of what they do. -/
def Services.observed (services : Services σ) (note : Event → σ → ω → ω) : Services (σ × ω) where
  now := observe note services.now .looked
  read file := observe note (services.read file) (.read file)
  get key := observe note (services.get key) (.sought key)
  put key payload ttl source :=
    observe note (services.put key payload ttl source) (.kept key payload ttl source)
  enrich request := observe note (services.enrich request) (.enriched request)
  publish file report := observe note (services.publish file report) (.published file report)
  finish statistics := observe note (services.finish statistics) (.finished statistics)
  save path report := observe note (services.save path report) (.saved path report)

/-- An effect that is observed does the same. -/
theorem mirrors_observe
    (note : Event → σ → ω → ω)
    (effect : Effect σ α)
    (event : α → Event) :
    Mirrors Prod.fst (observe note effect event) effect := by
  intro _
  rfl

/-- Services that are observed do the same. -/
theorem Services.mirror_observed
    (services : Services σ)
    (note : Event → σ → ω → ω) :
    (services.observed note).Mirror Prod.fst services where
  now := mirrors_observe note services.now .looked
  read file := mirrors_observe note (services.read file) (.read file)
  get key := mirrors_observe note (services.get key) (.sought key)
  put key payload ttl source :=
    mirrors_observe note (services.put key payload ttl source) (.kept key payload ttl source)
  enrich request := mirrors_observe note (services.enrich request) (.enriched request)
  publish file report :=
    mirrors_observe note (services.publish file report) (.published file report)
  finish statistics := mirrors_observe note (services.finish statistics) (.finished statistics)
  save path report := mirrors_observe note (services.save path report) (.saved path report)

/-- A run that is observed is the same run. -/
theorem Pipeline.run_observed
    (pipeline : Pipeline)
    (services : Services σ)
    (note : Event → σ → ω → ω)
    (files : List Descriptor)
    (state : σ)
    (notes : ω) :
    (pipeline.run (services.observed note) files (state, notes)).seen Prod.fst =
      pipeline.run services files state :=
  (run_mirrors (services.mirror_observed note) files (state, notes)).symm

end SourceFacts.Run
