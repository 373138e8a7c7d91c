import SourceFacts.Proofs.Run.Treatments

namespace SourceFacts.Run

/-!
# Runs that go along with each other

Two runs in equal workspaces whose clocks may differ do the same with a file as long as the
clocks show the same whenever the store is called. Looking at the clock for other reasons only
shows in the log.
-/

open Analysis Cache Config Disk Facts Failures Time

/-! ## What is compared -/

/-- Workspaces that differ at most in their clocks and in what their publishers were given. -/
structure Alike (first second : Workspace ε π) : Prop where
  disk : first.disk = second.disk
  tagsUsed : first.tagsUsed = second.tagsUsed
  store : first.store = second.store
  enricher : first.enricher = second.enricher

theorem Alike.refl (workspace : Workspace ε π) : Alike workspace workspace :=
  ⟨rfl, rfl, rfl, rfl⟩

theorem Alike.trans
    {first second third : Workspace ε π}
    (alike : Alike first second)
    (alikeToo : Alike second third) :
    Alike first third where
  disk := alike.disk.trans alikeToo.disk
  tagsUsed := alike.tagsUsed.trans alikeToo.tagsUsed
  store := alike.store.trans alikeToo.store
  enricher := alike.enricher.trans alikeToo.enricher

/-- What the clock showed when the store was called. -/
def Call.reading? (call : Call (Workspace ε π)) : Option Instant :=
  match call.event with
  | .sought .. | .kept .. => some call.before.clock.read.1
  | _ => none

/-- What the clock showed whenever the store was called. -/
def Transcript.readings (transcript : Transcript (Workspace ε π)) : List Instant :=
  transcript.filterMap Call.reading?

/-- What was done with a file. -/
def Event.deed? : Event → Option Event
  | .looked _ | .saved .. | .finished .. => none
  | event => some event

/-- What was done with files, in order. -/
def Transcript.deeds (transcript : Transcript σ) : List Event :=
  transcript.events.filterMap Event.deed?

@[simp] theorem Transcript.readings_append (first second : Transcript (Workspace ε π)) :
    Transcript.readings (first ++ second) = first.readings ++ second.readings :=
  List.filterMap_append

@[simp] theorem Transcript.deeds_append (first second : Transcript σ) :
    Transcript.deeds (first ++ second) = first.deeds ++ second.deeds := by
  rw [deeds, events_append, List.filterMap_append]
  rfl

/-- Lists agree as far as both of them go. -/
def Coincide (first second : List α) : Prop :=
  ∀ pair ∈ first.zip second, pair.1 = pair.2

namespace Coincide

variable {first second rest others : List α}

theorem refl (items : List α) : Coincide items items := by
  induction items with
  | nil =>
      exact fun _ member => absurd member List.not_mem_nil
  | cons item rest inductionHypothesis =>
      exact List.forall_mem_cons.mpr ⟨rfl, inductionHypothesis⟩

/-- Lists that begin with others agree only if these do. -/
theorem of_append (coincide : Coincide (first ++ rest) (second ++ others)) :
    Coincide first second := by
  induction first generalizing second with
  | nil =>
      exact fun _ member => absurd member List.not_mem_nil
  | cons item items inductionHypothesis =>
      cases second with
      | nil =>
          exact fun _ member => absurd member List.not_mem_nil
      | cons head tail =>
          obtain ⟨same, coincide⟩ := List.forall_mem_cons.mp coincide
          exact List.forall_mem_cons.mpr ⟨same, inductionHypothesis coincide⟩

theorem of_begun
    {firstWhole secondWhole : List α}
    (coincide : Coincide firstWhole secondWhole)
    (begins : first <+: firstWhole)
    (beginsToo : second <+: secondWhole) :
    Coincide first second := by
  obtain ⟨_, rfl⟩ := begins
  obtain ⟨_, rfl⟩ := beginsToo
  exact coincide.of_append

/-- Lists of nothing but one item agree. -/
theorem of_forall
    {item : α}
    (same : ∀ other ∈ first, other = item)
    (sameToo : ∀ other ∈ second, other = item) :
    Coincide first second :=
  fun _ member =>
    have among := List.of_mem_zip member
    (same _ among.1).trans (sameToo _ among.2).symm

/-- What lists have after a common beginning agrees if they do. -/
theorem of_append_left (coincide : Coincide (first ++ rest) (first ++ others)) :
    Coincide rest others := by
  induction first with
  | nil =>
      exact coincide
  | cons item items inductionHypothesis =>
      exact inductionHypothesis (List.forall_mem_cons.mp coincide).2

theorem head {item other : α} (coincide : Coincide (item :: rest) (other :: others)) :
    item = other :=
  (List.forall_mem_cons.mp coincide).1

end Coincide

/-- A workspace with what was called in it. -/
abbrev Recorded (ε π : Type) := Workspace ε π × Transcript (Workspace ε π)

/-- Two runs have done the same with files, and go on from workspaces that are alike. -/
structure Abreast (first second : Recorded ε π) : Prop where
  alike : Alike first.1 second.1
  deeds : first.2.deeds = second.2.deeds
  readings : first.2.readings = second.2.readings

/-- The clocks of two runs showed the same whenever both have called the store. -/
def InTime (first second : Recorded ε π) : Prop := Coincide first.2.readings second.2.readings

/-- An effect comes to the same in runs that are abreast, and keeps them so, as long as the
clocks show the same whenever the store is called. -/
def GoesAlong (effect : Effect (Recorded ε π) α) : Prop :=
  ∀ {first second}, Abreast first second → InTime (effect first).2 (effect second).2 →
    (effect first).1 = (effect second).1 ∧ Abreast (effect first).2 (effect second).2

/-- Services that only add to what was called, and do the same in runs that are abreast. The
publisher takes everything. -/
structure Services.GoAlong (services : Services (Recorded ε π)) : Prop where
  grow : ∀ calls, services.Maintain fun state => calls <+: state.2
  now : ∀ {first second}, Abreast first second →
    Abreast (services.now first).2 (services.now second).2
  read : ∀ file, GoesAlong (services.read file)
  get : ∀ key, GoesAlong (services.get key)
  put : ∀ key payload ttl source, GoesAlong (services.put key payload ttl source)
  enrich : ∀ request, GoesAlong (services.enrich request)
  publish : ∀ file report, GoesAlong (services.publish file report)
  takes : ∀ file report state, (services.publish file report state).1 = .ok ()

theorem InTime.of_begun
    {first second later last : Recorded ε π}
    (inTime : InTime later last)
    (grows : first.2 <+: later.2)
    (growsToo : second.2 <+: last.2) :
    InTime first second := by
  obtain ⟨rest, isLater⟩ := grows
  obtain ⟨others, isLast⟩ := growsToo
  rw [InTime, ← isLater, ← isLast, Transcript.readings_append,
    Transcript.readings_append] at inTime
  exact inTime.of_append

/-- Services that write down their calls add to what was called. -/
theorem Services.recorded_grow
    (services : Services σ)
    (calls : Transcript σ) :
    services.recorded.Maintain fun state => calls <+: state.2 where
  now _ begun := begun.trans (List.prefix_append ..)
  read _ _ begun := begun.trans (List.prefix_append ..)
  get _ _ begun := begun.trans (List.prefix_append ..)
  put _ _ _ _ _ begun := begun.trans (List.prefix_append ..)
  enrich _ _ begun := begun.trans (List.prefix_append ..)
  publish _ _ _ begun := begun.trans (List.prefix_append ..)

/-- Services that write down their calls do the same after other calls. -/
theorem Services.recorded_mirror
    (services : Services σ)
    (calls : Transcript σ) :
    services.recorded.Mirror (fun state => (state.1, calls ++ state.2)) services.recorded := by
  have mirrors : ∀ {α : Type} (effect : Effect σ α) (event : α → Event),
      Mirrors (fun state : σ × Transcript σ => (state.1, calls ++ state.2))
        (observe (fun event before calls => calls ++ [⟨event, before⟩]) effect event)
        (observe (fun event before calls => calls ++ [⟨event, before⟩]) effect event) :=
    fun _ _ _ => Prod.ext rfl (Prod.ext rfl (List.append_assoc ..))
  exact {
    now := mirrors _ _
    read := fun _ => mirrors _ _
    get := fun _ => mirrors _ _
    put := fun _ _ _ _ => mirrors _ _
    enrich := fun _ => mirrors _ _
    publish := fun _ _ => mirrors _ _
    finish := fun _ => mirrors _ _
    save := fun _ _ => mirrors _ _ }

/-- What is called for files does not depend on what was called before. -/
theorem processAll_frame
    (pipeline : Pipeline)
    (services : Services σ)
    (files : List Descriptor)
    (log : Log)
    (state : σ)
    (calls : Transcript σ) :
    (pipeline.processAll services.recorded files log (state, calls)).2.2 =
      ((pipeline.processAll services.recorded files log (state, [])).2.2.1,
        calls ++ (pipeline.processAll services.recorded files log (state, [])).2.2.2) := by
  have frame : pipeline.processAll services.recorded files log (state, calls ++ []) = _ :=
    Pipeline.processAll_mirrors (services.recorded_mirror calls) files log (state, [])
  rw [List.append_nil] at frame
  rw [frame]

theorem process_log
    (pipeline : Pipeline)
    (services : Services σ)
    (file : Descriptor)
    (log other : Log)
    (state : σ) :
    (pipeline.process services file log state).1 = (pipeline.process services file other state).1 ∧
      (pipeline.process services file log state).2.2 =
        (pipeline.process services file other state).2.2 := by
  have sameAnalysis := pipeline.analyzer.analyzeRead_fst file.path file.sizeBytes
    (services.read file (services.now state).2).1 (services.now state).1 (services.now state).1
    log other
  simp only [Pipeline.process]
  generalize pipeline.analyzer.analyzeRead file.path file.sizeBytes
    (services.read file (services.now state).2).1 (services.now state).1 log = analysis
    at sameAnalysis ⊢
  generalize pipeline.analyzer.analyzeRead file.path file.sizeBytes
    (services.read file (services.now state).2).1 (services.now state).1 other = otherAnalysis
    at sameAnalysis ⊢
  obtain ⟨result, log⟩ := analysis
  obtain ⟨_, other⟩ := otherAnalysis
  obtain rfl := sameAnalysis
  cases result <;> exact ⟨rfl, rfl⟩

/-- What is done with files does not depend on what has been logged. -/
theorem processAll_log
    (pipeline : Pipeline)
    (services : Services σ)
    (files : List Descriptor)
    (log other : Log)
    (state : σ) :
    (pipeline.processAll services files log state).2.2 =
      (pipeline.processAll services files other state).2.2 := by
  induction files generalizing log other state with
  | nil =>
      rfl
  | cons file rest inductionHypothesis =>
      obtain ⟨sameResult, sameState⟩ := process_log pipeline services file log other state
      unfold Pipeline.processAll
      generalize pipeline.process services file log state = ending at sameResult sameState ⊢
      generalize pipeline.process services file other state = otherEnding
        at sameResult sameState ⊢
      obtain ⟨result, log, processed⟩ := ending
      obtain ⟨_, other, _⟩ := otherEnding
      obtain rfl := sameResult
      obtain rfl := sameState
      cases result with
      | error failure =>
          rfl
      | ok report =>
          dsimp only
          rcases services.publish file report processed with ⟨failure | _, published⟩
          · rfl
          · exact inductionHypothesis log other published

/-- A report that is taken is followed by the rest of the files. -/
theorem processAll_cons
    {services : Services σ}
    {file : Descriptor}
    {log after : Log}
    {report : Report}
    {state processed : σ}
    (pipeline : Pipeline)
    (takes : ∀ file report state, (services.publish file report state).1 = .ok ())
    (isProcessed : pipeline.process services file log state = (.ok report, after, processed))
    (rest : List Descriptor) :
    pipeline.processAll services (file :: rest) log state =
      pipeline.processAll services rest after (services.publish file report processed).2 := by
  have isTaken := takes file report processed
  rw [Pipeline.processAll, isProcessed]
  dsimp only
  generalize services.publish file report processed = delivery at isTaken ⊢
  obtain ⟨delivered, published⟩ := delivery
  obtain rfl : delivered = .ok () := isTaken
  rfl

/-- Files that follow others are taken where these have left off. -/
theorem processAll_append_of_none
    {services : Services σ}
    {pipeline : Pipeline}
    {front : List Descriptor}
    {log after : Log}
    {state reached : σ}
    (takes : ∀ file report state, (services.publish file report state).1 = .ok ())
    (areTaken : pipeline.processAll services front log state = (none, after, reached))
    (back : List Descriptor) :
    pipeline.processAll services (front ++ back) log state =
      pipeline.processAll services back after reached := by
  induction front generalizing log state with
  | nil =>
      obtain ⟨rfl, rfl⟩ : log = after ∧ state = reached := by
        simpa [Pipeline.processAll] using areTaken
      rfl
  | cons file rest inductionHypothesis =>
      rcases isProcessed : pipeline.process services file log state with
        ⟨failure | report, middle, processed⟩
      · rw [Pipeline.processAll, isProcessed] at areTaken
        exact absurd (congrArg Prod.fst areTaken) (by simp)
      · rw [processAll_cons pipeline takes isProcessed] at areTaken
        rw [List.cons_append, processAll_cons pipeline takes isProcessed]
        exact inductionHypothesis areTaken

/-! ## Services of workspaces that are alike -/

section Workspaces

variable {first second : Workspace ε π} (settings : AnalysisSettings) (enricher : Enricher ε)
  (publisher : Publisher π)

theorem get_alike
    (alike : Alike first second)
    (sameTime : first.clock.read.1 = second.clock.read.1)
    (key : Key) :
    ((Workspace.services settings enricher publisher).get key first).1 =
        ((Workspace.services settings enricher publisher).get key second).1 ∧
      Alike ((Workspace.services settings enricher publisher).get key first).2
        ((Workspace.services settings enricher publisher).get key second).2 := by
  simp only [Workspace.services, Workspace.get, Workspace.now, alike.disk, alike.store, sameTime]
  exact ⟨trivial, rfl, alike.tagsUsed, rfl, alike.enricher⟩

theorem put_alike
    (alike : Alike first second)
    (sameTime : first.clock.read.1 = second.clock.read.1)
    (key : Key)
    (payload : Json)
    (ttl : UInt64)
    (source : SourceMetadata) :
    ((Workspace.services settings enricher publisher).put key payload ttl source first).1 =
        ((Workspace.services settings enricher publisher).put key payload ttl source second).1 ∧
      Alike ((Workspace.services settings enricher publisher).put key payload ttl source first).2
        ((Workspace.services settings enricher publisher).put key payload ttl source
          second).2 := by
  simp only [Workspace.services, Workspace.put, Workspace.putEntry, Workspace.freshTag,
    Workspace.now, alike.disk, alike.store, alike.tagsUsed, sameTime]
  exact ⟨trivial, rfl, rfl, rfl, alike.enricher⟩

/-- A call that does not depend on the time keeps runs abreast if it comes to the same. -/
theorem Abreast.call
    {first second : Recorded ε π}
    {after last : Workspace ε π}
    {event other : Event}
    (abreast : Abreast first second)
    (alike : Alike after last)
    (sameDeed : event.deed? = other.deed?)
    (sameReading : Call.reading? ⟨event, first.1⟩ = Call.reading? ⟨other, second.1⟩) :
    Abreast (after, first.2 ++ [⟨event, first.1⟩]) (last, second.2 ++ [⟨other, second.1⟩]) where
  alike
  deeds := by
    rw [Transcript.deeds_append, Transcript.deeds_append, abreast.deeds]
    refine congrArg (second.2.deeds ++ ·) ?_
    simp only [Transcript.deeds, Transcript.events, List.map_cons, List.map_nil,
      List.filterMap_cons, sameDeed, List.filterMap_nil]
  readings := by
    rw [Transcript.readings_append, Transcript.readings_append, abreast.readings]
    refine congrArg (second.2.readings ++ ·) ?_
    simp only [Transcript.readings, List.filterMap_cons, sameReading, List.filterMap_nil]

theorem Abreast.sameTime
    {first second : Recorded ε π}
    {after last : Workspace ε π}
    {event other : Event}
    (abreast : Abreast first second)
    (isReading : Call.reading? ⟨event, first.1⟩ = some first.1.clock.read.1)
    (isOther : Call.reading? ⟨other, second.1⟩ = some second.1.clock.read.1)
    (inTime : InTime (after, first.2 ++ [⟨event, first.1⟩])
      (last, second.2 ++ [⟨other, second.1⟩])) :
    first.1.clock.read.1 = second.1.clock.read.1 := by
  rw [InTime, Transcript.readings_append, Transcript.readings_append, abreast.readings] at inTime
  have ends := inTime.of_append_left
  rw [Transcript.readings, Transcript.readings, List.filterMap_cons_some isReading,
    List.filterMap_cons_some isOther] at ends
  exact ends.head

/-- The services of workspaces go along with each other. -/
theorem goAlong_services
    (accepts : publisher.Accepts) :
    (Workspace.services settings enricher publisher).recorded.GoAlong where
  grow := Services.recorded_grow _
  now abreast := abreast.call ⟨abreast.alike.disk, abreast.alike.tagsUsed, abreast.alike.store,
    abreast.alike.enricher⟩ rfl rfl
  read file first second abreast _ := by
    have sameSource : readSource settings first.1.disk file.path =
        readSource settings second.1.disk file.path := by
      rw [abreast.alike.disk]
    exact ⟨sameSource, abreast.call abreast.alike
      (congrArg (fun source => some (Event.read file source)) sameSource) rfl⟩
  -- Only calls of the store depend on the time, and both clocks show the same for them.
  get key first second abreast inTime := by
    rw [Services.recorded_get, Services.recorded_get] at inTime ⊢
    dsimp only
    have sameTime := abreast.sameTime rfl rfl inTime
    obtain ⟨sameFound, alike⟩ :=
      get_alike settings enricher publisher abreast.alike sameTime key
    exact ⟨sameFound, abreast.call alike
      (congrArg (fun found => some (Event.sought key found)) sameFound)
      (congrArg some sameTime)⟩
  put key payload ttl source first second abreast inTime := by
    rw [Services.recorded_put, Services.recorded_put] at inTime ⊢
    dsimp only
    have sameTime := abreast.sameTime rfl rfl inTime
    obtain ⟨sameResult, alike⟩ :=
      put_alike settings enricher publisher abreast.alike sameTime key payload ttl source
    exact ⟨sameResult, abreast.call alike
      (congrArg (fun result => some (Event.kept key payload ttl source result)) sameResult)
      (congrArg some sameTime)⟩
  enrich request first second abreast _ := by
    have alike := abreast.alike
    have sameAnswer : (enricher.enrich request first.1.enricher).1 =
        (enricher.enrich request second.1.enricher).1 := by
      rw [alike.enricher]
    have sameState : (enricher.enrich request first.1.enricher).2 =
        (enricher.enrich request second.1.enricher).2 := by
      rw [alike.enricher]
    exact ⟨sameAnswer,
      abreast.call ⟨alike.disk, alike.tagsUsed, alike.store, sameState⟩
        (congrArg (fun answer => some (Event.enriched request answer)) sameAnswer) rfl⟩
  publish file report first second abreast _ := by
    have sameDelivery : (publisher.publish file report first.1.publisher).1 =
        (publisher.publish file report second.1.publisher).1 := by
      rw [accepts.publish, accepts.publish]
    have alike := abreast.alike
    exact ⟨sameDelivery,
      abreast.call ⟨alike.disk, alike.tagsUsed, alike.store, alike.enricher⟩
        (congrArg (fun result => some (Event.published file report result)) sameDelivery) rfl⟩
  takes file report state := accepts.publish file report state.1.publisher

end Workspaces

/-! ## Files -/

section Files

variable {services : Services (Recorded ε π)} (pipeline : Pipeline)

/-- Making an enrichment goes along. -/
theorem enrichAnew_goesAlong
    (goAlong : services.GoAlong)
    (key : Key)
    (file : Descriptor)
    (model : Model)
    (source : String) :
    GoesAlong (pipeline.enrichAnew services key file model source) := by
  intro first second abreast inTime
  let request := pipeline.request file model source
  have grows : ∀ state, (services.enrich request state).2.2 <+:
      (pipeline.enrichAnew services key file model source state).2.2 := by
    intro state
    unfold Pipeline.enrichAnew
    rcases services.enrich request state with ⟨failure | payload, after⟩
    · exact List.prefix_rfl
    · exact (goAlong.grow after.2).put key payload _ _ after List.prefix_rfl
  obtain ⟨sameAnswer, abreast⟩ :=
    goAlong.enrich request abreast (inTime.of_begun (grows first) (grows second))
  unfold Pipeline.enrichAnew at inTime ⊢
  generalize services.enrich request first = answer at sameAnswer abreast inTime ⊢
  generalize services.enrich request second = otherAnswer at sameAnswer abreast inTime ⊢
  obtain ⟨result, after⟩ := answer
  obtain ⟨other, last⟩ := otherAnswer
  obtain rfl : result = other := sameAnswer
  cases result with
  | error failure =>
      exact ⟨rfl, abreast⟩
  | ok payload =>
      exact ⟨rfl, (goAlong.put key payload _ _ abreast inTime).2⟩

theorem enrichWithKey_goesAlong
    (goAlong : services.GoAlong)
    (key : Key)
    (file : Descriptor)
    (model : Model)
    (source : String) :
    GoesAlong (pipeline.enrichWithKey services key file model source) := by
  intro first second abreast inTime
  have grows : ∀ state, (services.get key state).2.2 <+:
      (pipeline.enrichWithKey services key file model source state).2.2 := by
    intro state
    unfold Pipeline.enrichWithKey
    rcases services.get key state with ⟨failure | _ | payload, after⟩
    · exact pipeline.enrichAnew_keeps (goAlong.grow after.2) key file model source after
        List.prefix_rfl
    · exact pipeline.enrichAnew_keeps (goAlong.grow after.2) key file model source after
        List.prefix_rfl
    · exact List.prefix_rfl
  obtain ⟨sameFound, abreast⟩ :=
    goAlong.get key abreast (inTime.of_begun (grows first) (grows second))
  unfold Pipeline.enrichWithKey at inTime ⊢
  generalize services.get key first = answer at sameFound abreast inTime ⊢
  generalize services.get key second = otherAnswer at sameFound abreast inTime ⊢
  obtain ⟨found, after⟩ := answer
  obtain ⟨other, last⟩ := otherAnswer
  obtain rfl : found = other := sameFound
  rcases found with failure | _ | payload
  · exact enrichAnew_goesAlong pipeline goAlong key file model source abreast inTime
  · exact enrichAnew_goesAlong pipeline goAlong key file model source abreast inTime
  · exact ⟨rfl, abreast⟩

theorem enrich_goesAlong
    (goAlong : services.GoAlong)
    (file : Descriptor)
    (analyzed : Analyzed) :
    GoesAlong (pipeline.enrich services file analyzed) := by
  intro first second abreast inTime
  unfold Pipeline.enrich at inTime ⊢
  generalize analyzed.outcome.model? = model? at inTime ⊢
  generalize analyzed.source? = source? at inTime ⊢
  cases model? with
  | none =>
      exact ⟨rfl, abreast⟩
  | some model =>
      cases source? with
      | none =>
          exact ⟨rfl, abreast⟩
      | some source =>
          cases isEnabled : pipeline.settings.cache.enabled with
          | false =>
              simp only [isEnabled] at inTime ⊢
              exact ⟨rfl, abreast⟩
          | true =>
              simp only [isEnabled, if_true] at inTime ⊢
              obtain ⟨sameEnrichment, abreast⟩ :=
                enrichWithKey_goesAlong pipeline goAlong _ file model source abreast inTime
              exact ⟨congrArg (fun enrichment => (some _, enrichment)) sameEnrichment, abreast⟩

theorem process_goesAlong
    (goAlong : services.GoAlong)
    (file : Descriptor)
    (log other : Log)
    {first second : Recorded ε π}
    (abreast : Abreast first second)
    (inTime : InTime (pipeline.process services file log first).2.2
      (pipeline.process services file other second).2.2) :
    (pipeline.process services file log first).1 =
        (pipeline.process services file other second).1 ∧
      Abreast (pipeline.process services file log first).2.2
        (pipeline.process services file other second).2.2 := by
  have grows : ∀ log state, (services.read file (services.now state).2).2.2 <+:
      (pipeline.process services file log state).2.2.2 := by
    intro log state
    simp only [Pipeline.process]
    split
    · exact List.prefix_rfl
    · exact pipeline.enrich_keeps (goAlong.grow _) file _ _ List.prefix_rfl
  obtain ⟨sameSource, abreast⟩ := goAlong.read file (goAlong.now abreast)
    (inTime.of_begun (grows log first) (grows other second))
  simp only [Pipeline.process] at inTime ⊢
  rw [sameSource] at inTime ⊢
  have sameAnalysis := pipeline.analyzer.analyzeRead_fst file.path file.sizeBytes
    (services.read file (services.now second).2).1 (services.now first).1
    (services.now second).1 log other
  generalize pipeline.analyzer.analyzeRead file.path file.sizeBytes
    (services.read file (services.now second).2).1 (services.now first).1 log = analysis
    at sameAnalysis inTime ⊢
  generalize pipeline.analyzer.analyzeRead file.path file.sizeBytes
    (services.read file (services.now second).2).1 (services.now second).1 other = otherAnalysis
    at sameAnalysis inTime ⊢
  obtain ⟨result, log⟩ := analysis
  obtain ⟨otherResult, other⟩ := otherAnalysis
  obtain rfl : result = otherResult := sameAnalysis
  cases result with
  | error failure =>
      exact ⟨rfl, abreast⟩
  | ok analyzed =>
      obtain ⟨sameEnrichment, abreast⟩ :=
        enrich_goesAlong pipeline goAlong file analyzed abreast inTime
      refine ⟨?_, abreast⟩
      exact congrArg (fun enriched : Option Key × Enrichment =>
        (Except.ok {
          path := file.path
          outcome := analyzed.outcome
          key? := enriched.1
          enrichment := enriched.2 } : Except Analysis.Failure Report)) sameEnrichment

/-- What was called for a file stays at the beginning of what is called for it and others. -/
theorem process_begins
    (goAlong : services.GoAlong)
    (file : Descriptor)
    (rest : List Descriptor)
    (log : Log)
    (state : Recorded ε π) :
    (pipeline.process services file log state).2.2.2 <+:
      (pipeline.processAll services (file :: rest) log state).2.2.2 := by
  rcases isProcessed : pipeline.process services file log state with ⟨failure | report, log', after⟩
  · simp only [Pipeline.processAll, isProcessed, List.prefix_rfl]
  · rw [processAll_cons pipeline goAlong.takes isProcessed]
    have published := (goAlong.grow after.2).publish file report after List.prefix_rfl
    exact pipeline.processAll_keeps (goAlong.grow after.2) rest log' published

/-- Processing files goes along, whatever has been logged. -/
theorem processAll_goesAlong
    (goAlong : services.GoAlong)
    (files : List Descriptor)
    (log other : Log)
    {first second : Recorded ε π}
    (abreast : Abreast first second)
    (inTime : InTime (pipeline.processAll services files log first).2.2
      (pipeline.processAll services files other second).2.2) :
    (pipeline.processAll services files log first).1 =
        (pipeline.processAll services files other second).1 ∧
      Abreast (pipeline.processAll services files log first).2.2
        (pipeline.processAll services files other second).2.2 := by
  induction files generalizing log other first second with
  | nil =>
      exact ⟨rfl, abreast⟩
  | cons file rest inductionHypothesis =>
      obtain ⟨sameReport, abreast⟩ := process_goesAlong pipeline goAlong file log other abreast
        (inTime.of_begun (process_begins pipeline goAlong file rest log first)
          (process_begins pipeline goAlong file rest other second))
      rcases isFirst : pipeline.process services file log first with ⟨result, log', after⟩
      rcases isSecond : pipeline.process services file other second with ⟨_, other', last⟩
      rw [isFirst, isSecond] at sameReport abreast
      obtain rfl := sameReport
      cases result with
      | error failure =>
          rw [Pipeline.processAll, Pipeline.processAll, isFirst, isSecond]
          exact ⟨rfl, abreast⟩
      | ok report =>
          rw [processAll_cons pipeline goAlong.takes isFirst,
            processAll_cons pipeline goAlong.takes isSecond] at inTime ⊢
          obtain ⟨_, abreast⟩ := goAlong.publish file report abreast
            (inTime.of_begun
              (pipeline.processAll_keeps (goAlong.grow _) rest log' List.prefix_rfl)
              (pipeline.processAll_keeps (goAlong.grow _) rest other' List.prefix_rfl))
          exact inductionHypothesis log' other' abreast inTime

end Files

/-! ## Files that are taken -/

section Taken

variable {services : Services (Recorded ε π)} {pipeline : Pipeline}

/-- If failures do not end a run, every file is reported. -/
theorem exists_report
    (continues : pipeline.analyzer.settings.continueOnError = true)
    (services : Services σ)
    (file : Descriptor)
    (log : Log)
    (state : σ) :
    ∃ report after processed,
      pipeline.process services file log state = (.ok report, after, processed) := by
  simp only [Pipeline.process]
  cases isFailure : pipeline.analyzer.failure? (services.read file (services.now state).2).1 with
  | some failure =>
      obtain ⟨record, _, isAnalyzed⟩ :=
        Analyzer.analyzeRead_of_failure? isFailure file.path file.sizeBytes
          (services.now state).1 log
      rw [isAnalyzed, continues]
      exact ⟨_, _, _, rfl⟩
  | none =>
      obtain ⟨source, _, isSource, _, _⟩ := Analyzer.exists_model_of_failure? isFailure file.path
      rw [isSource] at isFailure ⊢
      rw [Analyzer.analyzeRead_ok isFailure]
      exact ⟨_, _, _, rfl⟩

/-- If failures do not end a run, all files are taken. -/
theorem processAll_fst
    (goAlong : services.GoAlong)
    (continues : pipeline.analyzer.settings.continueOnError = true)
    (files : List Descriptor)
    (log : Log)
    (state : Recorded ε π) :
    (pipeline.processAll services files log state).1 = none := by
  induction files generalizing log state with
  | nil =>
      rfl
  | cons file rest inductionHypothesis =>
      obtain ⟨report, after, processed, isProcessed⟩ :=
        exists_report continues services file log state
      rw [processAll_cons pipeline goAlong.takes isProcessed]
      exact inductionHypothesis after _

/-- If failures do not end a run, files that follow others are taken where these have left off. -/
theorem processAll_append
    (goAlong : services.GoAlong)
    (continues : pipeline.analyzer.settings.continueOnError = true)
    (front back : List Descriptor)
    (log : Log)
    (state : Recorded ε π) :
    pipeline.processAll services (front ++ back) log state =
      pipeline.processAll services back (pipeline.processAll services front log state).2.1
        (pipeline.processAll services front log state).2.2 :=
  processAll_append_of_none goAlong.takes
    (Prod.ext (processAll_fst goAlong continues front log state) rfl) back

end Taken

end SourceFacts.Run
