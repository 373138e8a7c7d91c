import SourceFacts.Proofs.Run.Delivery
import SourceFacts.Proofs.Run.Stopping

namespace SourceFacts.Run

/-!
# Runs that end at failures, and runs that do not

A run that ends at failures is compared with one that goes on after them, in workspaces that are
alike and whose clocks show the same whenever the store is called. If no file fails they come to
the same. Otherwise the first run does what the second one does up to the first file that fails,
which is the last one that it reads; the report on failures tells of that file and of no other.
-/

open Analysis Config Disk Facts Failures Time

/-! ## Reports on failures -/

/-- Writing the report on failures does not depend on whether failures end a run. -/
theorem Writes.of_continuing
    {pipeline : Pipeline}
    {continues : Bool}
    {log : Log}
    {tree changed : Disk}
    {tag : String}
    {result : Except OsError Unit}
    (writes : Writes (pipeline.continuing continues) log tree tag result changed) :
    Writes pipeline log tree tag result changed := by
  cases writes with
  | unwanted noPath =>
      exact .unwanted noPath
  | attempted isPath =>
      exact .attempted isPath

/-- Runs that write their reports on failures in workspaces that are alike succeed alike. -/
theorem Closes.succeeds
    {pipeline : Pipeline}
    {first second : Log × Recorded ε π}
    {ending otherEnding : Ending (Workspace ε π)}
    {calls others : Transcript (Workspace ε π)}
    {continues continuesToo : Bool}
    {statistics : Statistics}
    (closes : Closes (pipeline.continuing continues) first ending calls)
    (closesToo : Closes (pipeline.continuing continuesToo) second otherEnding others)
    (alike : Alike first.2.1 second.2.1)
    (isResult : ending.result = .ok statistics) :
    ∃ otherStatistics, otherEnding.result = .ok otherStatistics := by
  obtain ⟨saved, writes, isEnd⟩ := closes.saved
  obtain ⟨savedToo, writesToo, isEndToo⟩ := closesToo.saved
  rw [alike.disk, alike.tagsUsed] at writes
  obtain ⟨rfl, _⟩ := writes.of_continuing.differ writesToo.of_continuing
  rw [isResult] at isEnd
  rw [← isEnd] at isEndToo
  cases isOther : otherEnding.result with
  | error failure =>
      rw [isOther] at isEndToo
      exact absurd isEndToo (by simp [Except.map])
  | ok otherStatistics =>
      exact ⟨otherStatistics, rfl⟩

/-! ## Two runs -/

section Stages

variable {services : Services (Recorded ε π)} {pipeline : Pipeline}

/-- What was called for files stays at the beginning of what is called for them and others. -/
theorem processAll_begins
    (goAlong : services.GoAlong)
    (pipeline : Pipeline)
    (front rest : List Descriptor)
    (log : Log)
    (state : Recorded ε π) :
    (pipeline.processAll services front log state).2.2.2 <+:
      (pipeline.processAll services (front ++ rest) log state).2.2.2 := by
  induction front generalizing log state with
  | nil =>
      exact pipeline.processAll_keeps (goAlong.grow state.2) rest log List.prefix_rfl
  | cons file others inductionHypothesis =>
      rcases isProcessed : pipeline.process services file log state with
        ⟨failure | report, after, processed⟩
      · simp only [List.cons_append, Pipeline.processAll, isProcessed, List.prefix_rfl]
      · rw [List.cons_append, processAll_cons pipeline goAlong.takes isProcessed,
          processAll_cons pipeline goAlong.takes isProcessed]
        exact inductionHypothesis after _

/-- What is called if failures end a run stays at the beginning of what is called if they do
not. -/
theorem stopping_begins
    (goAlong : services.GoAlong)
    (pipeline : Pipeline)
    (files : List Descriptor)
    (log : Log)
    (state : Recorded ε π) :
    ((pipeline.continuing false).processAll services files log state).2.2.2 <+:
      ((pipeline.continuing true).processAll services files log state).2.2.2 := by
  rcases passes_or_fails goAlong.takes pipeline files log state with
    ⟨after, passes⟩ | ⟨front, file, back, reached, failure, rfl, passes, fails⟩
  · simp only [passes false, passes true, List.prefix_rfl]
  · rw [passes.stops goAlong.takes fails back, passes.goesOn goAlong.takes fails back]
    exact (pipeline.continuing true).processAll_keeps (goAlong.grow _) back _
      ((goAlong.grow _).publish file _ _ List.prefix_rfl)

/-- If failures would end a run and have not, there were none. -/
theorem passes_of_none
    (takes : ∀ file report state, (services.publish file report state).1 = .ok ())
    {files : List Descriptor}
    {log : Log}
    {state : Recorded ε π}
    (isNone : ((pipeline.continuing false).processAll services files log state).1 = none) :
    ∃ after, Passes pipeline services files log state after := by
  rcases passes_or_fails takes pipeline files log state with
    passing | ⟨front, file, back, reached, failure, rfl, passes, fails⟩
  · exact passing
  · rw [passes.stops takes fails back] at isNone
    exact absurd isNone (by simp)

end Stages

/-- A workspace in which nothing was done since another one but to write the report on failures. -/
structure OnlyReports (pipeline : Pipeline) (log : Log) (before after : Workspace ε π) : Prop where
  store : after.store = before.store
  enricher : after.enricher = before.enricher
  publisher : after.publisher = before.publisher
  tree : ∃ saved, Writes pipeline log before.disk (tagText before.tagsUsed) saved after.disk

/-- Whether failures end a run makes no difference. -/
structure GoesThrough (strict resilient : Pipeline) (services : Services (Workspace ε π))
    (files : List Descriptor) (first second : Workspace ε π) (treatments : List Treatment) :
    Prop where
  unfailed : ∀ treatment ∈ treatments, treatment.report.outcome.isFailed = false
  /-- The same is read and reported, and the statistics are the same but for the time. -/
  results : ∃ statistics otherStatistics,
    (strict.run services files first).result = .ok statistics ∧
    (resilient.run services files second).result = .ok otherStatistics ∧
    statistics.untimed = otherStatistics.untimed ∧
    (strict.transcript services files first).events.filterMap (·.delivery?) =
      reported treatments ++ [.statistics statistics] ∧
    (resilient.transcript services files second).events.filterMap (·.delivery?) =
      reported treatments ++ [.statistics otherStatistics]
  deeds : (strict.transcript services files first).deeds =
    (resilient.transcript services files second).deeds
  /-- In one workspace the runs are the same altogether. -/
  same : first = second → strict.run services files first = resilient.run services files second

/-- A run ends at the first file that fails, after some that do not. -/
structure StopsAt (strict resilient : Pipeline) (services : Services (Workspace ε π))
    (files : List Descriptor) (first second : Workspace ε π) (before : List Treatment)
    (failing : Treatment) (failure : Analysis.Failure) (record : Record) : Prop where
  unfailed : ∀ treatment ∈ before, treatment.report.outcome.isFailed = false
  /-- The run that goes on reports why the file fails, and the one that does not returns it. -/
  outcome : failing.report.outcome = .failed (Category.classify failure.message) failure.message
  result : (strict.run services files first).result = .error (.analysis failure)
  /-- The publisher is given the reports on the files before, and no statistics. -/
  deliveries : (strict.transcript services files first).events.filterMap (·.delivery?) =
    reported before
  /-- No file is read after the one that fails. -/
  sources : (strict.transcript services files first).events.filterMap (·.source?) =
    (before ++ [failing]).map fun treatment => (treatment.file, treatment.source)
  /-- After that nothing is looked up, enriched or stored either. -/
  deeds : ∃ done rest,
    (strict.transcript services files first).deeds = done ++ [.read failing.file failing.source] ∧
    (resilient.transcript services files second).deeds =
      done ++ .read failing.file failing.source ::
        .published failing.file failing.report (.ok ()) :: rest
  /-- The enrichments, the store and the tree are those of a run over the files before, but for the
  report on failures. -/
  state : OnlyReports strict (strict.run services files first).log
    (reached strict services (before.map (·.file)) first).2.1
    (strict.run services files first).state
  isRecord : ∃ now, record = Record.ofMessage failing.file.path failure.message
    (Analyzer.context failing.file.sizeBytes failing.source) now
  /-- The log tells of the file that fails and of no other. -/
  log : (strict.run services files first).log =
    { records := [record], successful := before.length, declaredTotal := files.length }
  /-- So does the report on failures, if there is to be one. -/
  exported : ∀ path, strict.settings.report.path? = some path →
    ∃ timestamp summary,
      .saved path
        (.object [
          ("timestamp", timestamp),
          ("project_path", .string strict.project),
          ("summary", summary),
          ("errors", .array [record.toJson])])
        (.ok ()) ∈ (strict.transcript services files first).events

section Comparison

variable {pipeline : Pipeline} (settings : AnalysisSettings) (enricher : Enricher ε)
  {publisher : Publisher π}

theorem saveReport_onlyReports
    (pipeline : Pipeline)
    (publisher : Publisher π)
    (started : Instant)
    (log : Log)
    (workspace : Workspace ε π) :
    OnlyReports pipeline log workspace
      (pipeline.saveReport (Workspace.services settings enricher publisher) started log
        workspace).2 := by
  obtain ⟨saved, last, isSaved, writes, sameStore, sameEnricher⟩ :=
    saveReport_writes pipeline settings enricher publisher started log workspace
  have samePublisher : (pipeline.saveReport (Workspace.services settings enricher publisher)
      started log workspace).2.publisher = workspace.publisher := by
    unfold Pipeline.saveReport
    cases pipeline.settings.report.path? <;> rfl
  rw [isSaved] at samePublisher ⊢
  exact ⟨sameStore, sameEnricher, samePublisher, saved, writes⟩

/-- The clock shows the same whenever the store is called for files or at all. -/
theorem readings_transcript
    (pipeline : Pipeline)
    (services : Services (Workspace ε π))
    (files : List Descriptor)
    (workspace : Workspace ε π) :
    (pipeline.transcript services files workspace).readings =
      (reached pipeline services files workspace).2.2.readings := by
  rcases areTaken : pipeline.processAll services.recorded files (Log.declareTotal {} files.length)
    (services.recorded.now (workspace, [])).2 with ⟨stopped?, log, last⟩
  obtain ⟨closing, isTranscript, _, concluding⟩ := run_concludes areTaken
  rw [isTranscript, Transcript.readings_append, readings_of_deeds concluding.noDeed,
    List.append_nil, reached, areTaken]

/-- Clocks that agree in a run that goes on and in one that does not agree in two that do not. -/
theorem inTime_stopping
    {first second : Workspace ε π}
    (accepts : publisher.Accepts)
    (files : List Descriptor)
    (inTime : Coincide
      ((pipeline.continuing false).transcript (Workspace.services settings enricher publisher)
        files first).readings
      ((pipeline.continuing true).transcript (Workspace.services settings enricher publisher)
        files second).readings) :
    InTime
      (reached (pipeline.continuing false) (Workspace.services settings enricher publisher) files
        first).2
      (reached (pipeline.continuing false) (Workspace.services settings enricher publisher) files
        second).2 := by
  rw [readings_transcript, readings_transcript] at inTime
  exact Coincide.of_begun inTime List.prefix_rfl
    ((stopping_begins (goAlong_services settings enricher publisher accepts) pipeline files _
      _).filterMap _)

/-- Files none of which fails are treated alike in two runs that have begun alike. -/
structure TreatedAlike (pipeline : Pipeline) (files : List Descriptor) (log : Log)
    (first second last after : Recorded ε π) (calls others : Transcript (Workspace ε π))
    (treatments : List Treatment) : Prop where
  abreast : Abreast last after
  areCalls : last.2 = first.2 ++ calls
  areOthers : after.2 = second.2 ++ others
  sameDeeds : calls.deeds = others.deeds
  areFiles : treatments.map (·.file) = files
  treats : Treats (pipeline.continuing true) treatments log (log.addSuccesses files.length)
    calls.events
  treatsToo : Treats (pipeline.continuing true) treatments log (log.addSuccesses files.length)
    others.events
  unfailed : ∀ treatment ∈ treatments, treatment.report.outcome.isFailed = false

/-- Files none of which fails in one run do not fail in another one that goes along with it. -/
theorem Passes.alongside
    {files : List Descriptor}
    {log : Log}
    {first second after : Recorded ε π}
    (accepts : publisher.Accepts)
    (begun : Abreast first second)
    (inTime : InTime
      ((pipeline.continuing false).processAll
        (Workspace.services settings enricher publisher).recorded files log first).2.2
      ((pipeline.continuing false).processAll
        (Workspace.services settings enricher publisher).recorded files log second).2.2)
    (passes : Passes pipeline (Workspace.services settings enricher publisher).recorded files log
      second after) :
    ∃ last calls others treatments,
      Passes pipeline (Workspace.services settings enricher publisher).recorded files log first
        last ∧
      TreatedAlike pipeline files log first second last after calls others treatments := by
  have goAlong := goAlong_services settings enricher publisher accepts
  obtain ⟨sameEnd, abreast⟩ :=
    processAll_goesAlong (pipeline.continuing false) goAlong files log log begun inTime
  rw [passes false] at sameEnd abreast
  obtain ⟨last, passesToo⟩ := passes_of_none goAlong.takes sameEnd
  rw [passesToo false] at abreast
  obtain ⟨calls, treatments, areCalls, areFiles, treats, unfailed⟩ := passesToo.treats
  obtain ⟨others, otherTreatments, areOthers, _, treatsToo, _⟩ := passes.treats
  have sameDeeds : calls.deeds = others.deeds := by
    have same := abreast.deeds
    rw [areCalls, areOthers, Transcript.deeds_append, Transcript.deeds_append, begun.deeds] at same
    exact List.append_cancel_left same
  obtain rfl := treats.unique treatsToo sameDeeds
  exact ⟨last, calls, others, treatments, passesToo, {
    abreast, areCalls, areOthers, sameDeeds, areFiles, treats, treatsToo, unfailed }⟩

/-- If no file fails, runs come to the same whether failures would end them or not. -/
theorem goesThrough
    {first second : Workspace ε π}
    {files : List Descriptor}
    {after : Recorded ε π}
    (accepts : publisher.Accepts)
    (alike : Alike first second)
    (inTime : InTime
      (reached (pipeline.continuing false) (Workspace.services settings enricher publisher) files
        first).2
      (reached (pipeline.continuing false) (Workspace.services settings enricher publisher) files
        second).2)
    (written : ∀ saved ∈ ((pipeline.continuing false).transcript
      (Workspace.services settings enricher publisher) files first).events.filterMap (·.saved?),
      saved = .ok ())
    (passes : Passes pipeline (Workspace.services settings enricher publisher).recorded files
      (Log.declareTotal {} files.length)
      ((Workspace.services settings enricher publisher).recorded.now (second, [])).2 after) :
    ∃ treatments,
      Completes (pipeline.continuing true) files ((pipeline.continuing true).transcript
        (Workspace.services settings enricher publisher) files second).events treatments ∧
      GoesThrough (pipeline.continuing false) (pipeline.continuing true)
        (Workspace.services settings enricher publisher) files first second treatments := by
  let services := Workspace.services settings enricher publisher
  have goAlong : services.recorded.GoAlong := goAlong_services settings enricher publisher accepts
  have begun : Abreast (services.recorded.now (first, [])).2
      (services.recorded.now (second, [])).2 :=
    goAlong.now ⟨alike, rfl, rfl⟩
  obtain ⟨last, calls, others, treatments, passesToo, areTreated⟩ :=
    passes.alongside settings enricher accepts begun inTime
  obtain ⟨closing, isTranscript, _, concluding⟩ := run_concludes (passesToo false)
  obtain ⟨otherClosing, isOther, _, concludingToo⟩ := run_concludes (passes true)
  rw [areTreated.areCalls] at isTranscript
  rw [areTreated.areOthers] at isOther
  -- The strict run succeeds since its report on failures is written, and the other run writes its
  -- own in the same tree.
  obtain ⟨statistics, isResult⟩ := concluding.succeeds
    (fun saved isSaved => written saved (by
      rw [isTranscript, filterMap_started fun _ => rfl]
      exact List.mem_append_right _ isSaved))
    (fun answer isAnswer => (accepts.services settings enricher).answers _ _ _ answer (by
      rw [isTranscript, filterMap_started fun _ => rfl]
      exact List.mem_append_right _ isAnswer))
  obtain ⟨otherStatistics, isOtherResult⟩ : ∃ otherStatistics,
      ((pipeline.continuing true).run services files second).result = .ok otherStatistics := by
    have closes := closes_of_taken (pipeline.continuing false) settings enricher accepts files first
      (congrArg Prod.fst (passesToo false))
    have closesToo := closes_of_taken (pipeline.continuing true) settings enricher accepts files
      second (congrArg Prod.fst (passes true))
    rw [reached, passesToo false] at closes
    rw [reached, passes true] at closesToo
    exact closes.succeeds closesToo areTreated.abreast.alike isResult
  have treats := areTreated.treats
  refine ⟨treatments, ⟨areTreated.areFiles, treats.faithful, ?_⟩, areTreated.unfailed, ?_, ?_, ?_⟩
  · rw [isOther, filterMap_started fun _ => rfl, areTreated.treatsToo.sources,
      concludingToo.quiet.1, List.append_nil]
  · rw [isResult] at concluding
    rw [isOtherResult] at concludingToo
    obtain ⟨⟨elapsed, rfl⟩, delivered⟩ := concluding.statistics
    obtain ⟨⟨later, rfl⟩, deliveredToo⟩ := concludingToo.statistics
    refine ⟨_, _, isResult, isOtherResult, Statistics.untimed_statistics treats.counts treats.counts
      elapsed later, ?_, ?_⟩
    · rw [isTranscript, filterMap_started fun _ => rfl, treats.deliveries, delivered]
    · rw [isOther, filterMap_started fun _ => rfl, areTreated.treatsToo.deliveries, deliveredToo]
  · rw [isTranscript, isOther, Transcript.deeds, Transcript.deeds, filterMap_started fun _ => rfl,
      filterMap_started fun _ => rfl, concluding.noDeed, concludingToo.noDeed]
    exact congrArg (· ++ []) areTreated.sameDeeds
  · rintro rfl
    exact run_of_passes passes

/-- If a file fails after some that do not, a run that goes on after failures reports it after
them, and then goes on. -/
theorem goesOn_completes
    {workspace : Workspace ε π}
    {front back : List Descriptor}
    {file : Descriptor}
    {failure : Analysis.Failure}
    {there : Recorded ε π}
    {calls : Transcript (Workspace ε π)}
    {before : List Treatment}
    (accepts : publisher.Accepts)
    (passes : Passes pipeline (Workspace.services settings enricher publisher).recorded front
      (Log.declareTotal {} (front ++ file :: back).length)
      ((Workspace.services settings enricher publisher).recorded.now (workspace, [])).2 there)
    (fails : pipeline.analyzer.failure?
      ((Workspace.services settings enricher publisher).recorded.sourceOf file there) =
        some failure)
    (areCalls : there.2 = ((Workspace.services settings enricher publisher).recorded.now
      (workspace, [])).2.2 ++ calls)
    (areFront : before.map (·.file) = front)
    (treats : Treats (pipeline.continuing true) before
      (Log.declareTotal {} (front ++ file :: back).length)
      ((Log.declareTotal {} (front ++ file :: back).length).addSuccesses front.length)
      calls.events) :
    ∃ after rest,
      Completes (pipeline.continuing true) (front ++ file :: back)
        ((pipeline.continuing true).transcript (Workspace.services settings enricher publisher)
          (front ++ file :: back) workspace).events
        (before ++
          ⟨file, (Workspace.services settings enricher publisher).recorded.sourceOf file there,
            .ofFailure file failure⟩ :: after) ∧
      ((pipeline.continuing true).transcript (Workspace.services settings enricher publisher)
          (front ++ file :: back) workspace).events.filterMap (·.report?) =
        reports (before ++
          ⟨file, (Workspace.services settings enricher publisher).recorded.sourceOf file there,
            .ofFailure file failure⟩ :: after) ∧
      ((pipeline.continuing true).transcript (Workspace.services settings enricher publisher)
          (front ++ file :: back) workspace).deeds =
        calls.deeds ++
          .read file
            ((Workspace.services settings enricher publisher).recorded.sourceOf file there) ::
          .published file (.ofFailure file failure) (.ok ()) :: rest := by
  let services := Workspace.services settings enricher publisher
  have goAlong : services.recorded.GoAlong := goAlong_services settings enricher publisher accepts
  let counted :=
    (Log.declareTotal {} (front ++ file :: back).length).addSuccesses front.length
  let record := services.recorded.recordOf file failure there
  let source := services.recorded.sourceOf file there
  let report := Report.ofFailure file failure
  let failing := services.failedCalls file failure there.1
  have takes : ∀ file report state, (services.publish file report state).1 = .ok () :=
    fun file report workspace => accepts.publish file report workspace.publisher
  have areDeeds : failing.deeds = [.read file source, .published file report (.ok ())] := by
    rw [Transcript.deeds, Services.events_failedCalls takes]
    rfl
  have failsToo : (pipeline.continuing true).analyzer.failure?
      (services.sourceOf file there.1) = some failure :=
    fails
  have treatsFailing : Treats (pipeline.continuing true) [⟨file, source, report⟩] counted
      (counted.addRecord record) failing.events :=
    treats_failedCalls takes failsToo counted
  have continues : (pipeline.continuing true).analyzer.settings.continueOnError = true := rfl
  obtain ⟨afterLog, last, backCalls, after, areTaken, areBack, treatsBack⟩ :=
    processAll_treats settings enricher accepts continues back (counted.addRecord record)
      (services.recorded.publish file report
        (services.recorded.read file (services.recorded.now there).2).2).2
  obtain ⟨closing, isTranscript, _, concluding⟩ :=
    run_concludes ((passes.goesOn goAlong.takes fails back).trans areTaken)
  have isPublished := congrArg Prod.snd (services.recorded_failed file failure there)
  have isWhole : (pipeline.continuing true).transcript services (front ++ file :: back) workspace =
      (services.recorded.now (workspace, [])).2.2 ++ (calls ++ (failing ++ backCalls)) ++
        closing := by
    rw [isTranscript, isPublished, areCalls]
    simp only [List.append_assoc]
    rfl
  have treatsAll := treats.append (treatsFailing.append treatsBack)
  refine ⟨after, backCalls.deeds, ⟨?_, treatsAll.faithful, ?_⟩, ?_, ?_⟩
  · rw [List.map_append, areFront, List.map_cons, areBack]
  · rw [isWhole, filterMap_started fun _ => rfl, Transcript.events_append, Transcript.events_append,
      treatsAll.sources, concluding.quiet.1, List.append_nil]
    rfl
  · rw [isWhole, filterMap_started fun _ => rfl, Transcript.events_append, Transcript.events_append,
      concluding.quiet.2, List.append_nil]
    exact filterMap_report? (treatsAll.deliveries.trans (List.append_nil _).symm) rfl
  · rw [isWhole, Transcript.deeds, filterMap_started fun _ => rfl, concluding.noDeed,
      List.append_nil]
    show Transcript.deeds (calls ++ (failing ++ backCalls)) = _
    rw [Transcript.deeds_append, Transcript.deeds_append, areDeeds]
    rfl

/-- If a file fails after some that do not, a run that ends at failures does nothing more after it
has read the file. -/
theorem stopsAt
    {first second : Workspace ε π}
    {front back : List Descriptor}
    {file : Descriptor}
    {failure : Analysis.Failure}
    {there : Recorded ε π}
    (accepts : publisher.Accepts)
    (alike : Alike first second)
    (inTime : InTime
      (reached (pipeline.continuing false) (Workspace.services settings enricher publisher)
        (front ++ file :: back) first).2
      (reached (pipeline.continuing false) (Workspace.services settings enricher publisher)
        (front ++ file :: back) second).2)
    (written : ∀ saved ∈ ((pipeline.continuing false).transcript
      (Workspace.services settings enricher publisher) (front ++ file :: back)
        first).events.filterMap (·.saved?),
      saved = .ok ())
    (passes : Passes pipeline (Workspace.services settings enricher publisher).recorded front
      (Log.declareTotal {} (front ++ file :: back).length)
      ((Workspace.services settings enricher publisher).recorded.now (second, [])).2 there)
    (fails : pipeline.analyzer.failure?
      ((Workspace.services settings enricher publisher).recorded.sourceOf file there) =
        some failure) :
    ∃ before failing after record,
      Completes (pipeline.continuing true) (front ++ file :: back)
        ((pipeline.continuing true).transcript (Workspace.services settings enricher publisher)
          (front ++ file :: back) second).events (before ++ failing :: after) ∧
      ((pipeline.continuing true).transcript (Workspace.services settings enricher publisher)
          (front ++ file :: back) second).events.filterMap (·.report?) =
        reports (before ++ failing :: after) ∧
      StopsAt (pipeline.continuing false) (pipeline.continuing true)
        (Workspace.services settings enricher publisher) (front ++ file :: back) first second
        before failing failure record := by
  let services := Workspace.services settings enricher publisher
  let total := Log.declareTotal {} (front ++ file :: back).length
  have goAlong : services.recorded.GoAlong := goAlong_services settings enricher publisher accepts
  have begun : Abreast (services.recorded.now (first, [])).2
      (services.recorded.now (second, [])).2 :=
    goAlong.now ⟨alike, rfl, rfl⟩
  -- Up to the file that fails the runs do the same.
  obtain ⟨here, calls, others, before, passesToo, areTreated⟩ :=
    passes.alongside settings enricher accepts begun (inTime.of_begun
      (processAll_begins goAlong (pipeline.continuing false) front (file :: back) total _)
      (processAll_begins goAlong (pipeline.continuing false) front (file :: back) total _))
  have areFront := areTreated.areFiles
  have sameSource : services.recorded.sourceOf file here = services.recorded.sourceOf file there :=
    congrArg (fun disk => readSource settings disk file.path) areTreated.abreast.alike.disk
  have failsToo : pipeline.analyzer.failure? (services.recorded.sourceOf file here) =
      some failure :=
    sameSource ▸ fails
  obtain ⟨after, rest, completes, reports, deeds⟩ :=
    goesOn_completes settings enricher accepts passes fails areTreated.areOthers areFront
      areTreated.treatsToo
  have areTaken := passesToo.stops goAlong.takes failsToo back
  obtain ⟨closing, isRun, isTranscript, saves⟩ := run_of_stopped areTaken
  let source := services.recorded.sourceOf file there
  let reading := services.readCalls file here.1
  have isReading : reading.events = [.looked (services.now here.1).1, .read file source] :=
    congrArg (fun source => [Event.looked (services.now here.1).1, .read file source]) sameSource
  have isWhole : (pipeline.continuing false).transcript services (front ++ file :: back) first =
      (services.recorded.now (first, [])).2.2 ++ (calls ++ reading) ++ closing := by
    rw [isTranscript, services.recorded_read, areTreated.areCalls]
    simp only [List.append_assoc]
    rfl
  -- The report on failures is all that is left to write.
  have isLeft : (reached (pipeline.continuing false) services front first).2 = here := by
    rw [reached, processAll_log (pipeline.continuing false) services.recorded front _ total]
    exact congrArg (·.2.2) (passesToo false)
  have onlyReports := saveReport_onlyReports settings enricher (pipeline.continuing false) publisher
    (services.now first).1
    (total.addSuccesses front.length |>.addRecord (services.recorded.recordOf file failure here))
    (services.recorded.read file (services.recorded.now here).2).2.1
  refine ⟨before, _, after, services.recorded.recordOf file failure here, completes, reports, {
    unfailed := areTreated.unfailed
    outcome := rfl
    result := by rw [isRun]
    deliveries := ?_
    sources := ?_
    deeds := ⟨calls.deeds, rest, ?_, areTreated.sameDeeds ▸ deeds⟩
    state := ?_
    isRecord := ⟨(services.recorded.now here).1, ?_⟩
    log := ?_
    exported := ?_ }⟩
  · rw [isWhole, filterMap_started fun _ => rfl, Transcript.events_append, List.filterMap_append,
      areTreated.treats.deliveries, saves.quiet.2, List.append_nil]
    exact List.append_nil _
  · rw [isWhole, filterMap_started fun _ => rfl, Transcript.events_append, List.filterMap_append,
      areTreated.treats.sources, isReading, saves.quiet.1, List.append_nil, List.map_append]
    rfl
  · rw [isWhole, Transcript.deeds, filterMap_started fun _ => rfl, Transcript.events_append,
      List.filterMap_append, isReading, saves.noDeed, List.append_nil]
    rfl
  · rw [isRun, areFront, isLeft]
    exact ⟨onlyReports.store, onlyReports.enricher, onlyReports.publisher, onlyReports.tree⟩
  · rw [Services.recordOf, sameSource]
  · have isCount : before.length = front.length := by
      rw [← areFront, List.length_map]
    rw [isRun, isCount, Log.addSuccesses]
    show Log.mk ([] ++ [_]) (0 + front.length) _ = _
    rw [Nat.zero_add]
    rfl
  · intro path isPath
    obtain ⟨now, elapsed, isSaved⟩ := saves.mem_of_path isPath
    have areEvents : ∀ event ∈ closing.events,
        event ∈ ((pipeline.continuing false).transcript services (front ++ file :: back)
          first).events := by
      intro event isEvent
      rw [isWhole, Transcript.events_append]
      exact List.mem_append_right _ isEvent
    have isWritten := written _ (List.mem_filterMap.mpr ⟨_, areEvents _ isSaved, rfl⟩)
    rw [isWritten] at isSaved
    exact ⟨_, _, areEvents _ isSaved⟩

/-- A run that ends at failures agrees with one that goes on after them up to the first file that
fails, and altogether if there is none. -/
theorem run_agrees_to_failure
    {first second : Workspace ε π}
    (accepts : publisher.Accepts)
    (alike : Alike first second)
    (pipeline : Pipeline)
    (files : List Descriptor)
    (inTime : Coincide
      ((pipeline.continuing false).transcript (Workspace.services settings enricher publisher)
        files first).readings
      ((pipeline.continuing true).transcript (Workspace.services settings enricher publisher)
        files second).readings)
    (written : ∀ saved ∈ ((pipeline.continuing false).transcript
      (Workspace.services settings enricher publisher) files first).events.filterMap (·.saved?),
      saved = .ok ()) :
    ∃ treatments,
      Completes (pipeline.continuing true) files ((pipeline.continuing true).transcript
        (Workspace.services settings enricher publisher) files second).events treatments ∧
      ((pipeline.continuing true).transcript (Workspace.services settings enricher publisher)
        files second).events.filterMap (·.report?) = reports treatments ∧
      (GoesThrough (pipeline.continuing false) (pipeline.continuing true)
          (Workspace.services settings enricher publisher) files first second treatments ∨
        ∃ before failing after failure record,
          treatments = before ++ failing :: after ∧
          StopsAt (pipeline.continuing false) (pipeline.continuing true)
            (Workspace.services settings enricher publisher) files first second before failing
            failure record) := by
  have goAlong := goAlong_services settings enricher publisher accepts
  have inTimeThere := inTime_stopping settings enricher accepts files inTime
  rcases passes_or_fails goAlong.takes pipeline files (Log.declareTotal {} files.length)
      ((Workspace.services settings enricher publisher).recorded.now (second, [])).2 with
    ⟨after, passes⟩ | ⟨front, file, back, there, failure, rfl, passes, fails⟩
  · obtain ⟨treatments, completes, goesThrough⟩ :=
      goesThrough settings enricher accepts alike inTimeThere written passes
    obtain ⟨_, _, _, _, _, _, deliveries⟩ := goesThrough.results
    exact ⟨treatments, completes, filterMap_report? deliveries rfl, .inl goesThrough⟩
  · obtain ⟨before, failing, after, record, completes, reports, stops⟩ :=
      stopsAt settings enricher accepts alike inTimeThere written passes fails
    exact ⟨_, completes, reports, .inr ⟨before, failing, after, failure, record, rfl, stops⟩⟩

/-- In one workspace a run that ends at failures is in time with one that does not. -/
theorem coincide_readings
    (accepts : publisher.Accepts)
    (pipeline : Pipeline)
    (files : List Descriptor)
    (workspace : Workspace ε π) :
    Coincide
      ((pipeline.continuing false).transcript (Workspace.services settings enricher publisher)
        files workspace).readings
      ((pipeline.continuing true).transcript (Workspace.services settings enricher publisher)
        files workspace).readings := by
  rw [readings_transcript, readings_transcript]
  exact (Coincide.refl _).of_begun
    ((stopping_begins (goAlong_services settings enricher publisher accepts) pipeline files _
      _).filterMap _)
    List.prefix_rfl

/-- Without a store, files that are taken leave everything as it was but the clock and the
publisher. -/
theorem Passes.alike
    {files : List Descriptor}
    {log : Log}
    {state after : Recorded ε π}
    (isDisabled : pipeline.settings.cache.enabled = false)
    (passes : Passes pipeline (Workspace.services settings enricher publisher).recorded files log
      state after) :
    Alike state.1 after.1 := by
  have isDisabledToo : (pipeline.continuing true).settings.cache.enabled = false := isDisabled
  have unchanged : Alike state.1 ((pipeline.continuing true).processAll
      (Workspace.services settings enricher publisher) files log state.1).2.2 :=
    processAll_alike settings enricher publisher isDisabledToo files log state.1
  rw [Pipeline.processAll_mirrors (Workspace.services settings enricher publisher).mirror_recorded
    files log state, passes true] at unchanged
  exact unchanged

end Comparison

/-! ## A file that is not there -/

/-- A pipeline without a store that writes a report on failures, for texts without content. -/
def frugalPipeline : Pipeline where
  settings := { cache := { enabled := false }, report := { path? := some "cache/errors.json" } }
  analyzer := {
    parse := fun _ _ => .ok {
      root := .mk { kind := "module" } []
      errors := [] } }
  configId := "constant"

/-- A file that is there. -/
def presentFile : Descriptor := { path := "a.py", sizeBytes := 0 }

/-- A file that is there, one that is not, and another one that is. -/
def frugalFiles : List Descriptor := [presentFile, missing, { path := "b.py", sizeBytes := 0 }]

/-- The file that is there does not fail, and leaves the tree as it was. -/
theorem passes_presentFile :
    ∃ reached, Alike twins reached.1 ∧
      Passes frugalPipeline twinServices.recorded [presentFile]
        (Log.declareTotal {} frugalFiles.length) (twinServices.recorded.now (twins, [])).2
        reached := by
  let start := (twinServices.recorded.now (twins, [])).2
  have found : twins.disk.find true "a.py" = .ok (["a.py"], .file [] {}) :=
    find_top_file (by decide) (by decide)
  have isRead : twinServices.recorded.sourceOf presentFile start =
      .ok { text := "", sizeBytes := 0 } := by
    show readSource {} twins.disk "a.py" = _
    rw [readSource, Disk.read, found]
    rfl
  have succeeds : frugalPipeline.analyzer.failure?
      (twinServices.recorded.sourceOf presentFile start) = none := by
    rw [isRead]
    rfl
  obtain ⟨report, processed, isProcessed⟩ :=
    process_passes succeeds (Log.declareTotal {} frugalFiles.length)
  have takes :=
    (goAlong_services {} constantEnricher patientPublisher accepts_patientPublisher).takes
  have passes : Passes frugalPipeline twinServices.recorded [presentFile]
      (Log.declareTotal {} frugalFiles.length) start
      (twinServices.recorded.publish presentFile report processed).2 :=
    .cons takes isProcessed fun _ => rfl
  have unchanged : Alike start.1
      (twinServices.recorded.publish presentFile report processed).2.1 :=
    passes.alike {} constantEnricher rfl
  have begins : Alike twins start.1 := ⟨rfl, rfl, rfl, rfl⟩
  exact ⟨_, begins.trans unchanged, passes⟩

/-- The report on the file that is not there is written. -/
theorem written_frugal :
    ∀ saved ∈ ((frugalPipeline.continuing false).transcript twinServices frugalFiles
      twins).events.filterMap (·.saved?), saved = .ok () := by
  obtain ⟨reached, alike, passes⟩ := passes_presentFile
  have takes :=
    (goAlong_services {} constantEnricher patientPublisher accepts_patientPublisher).takes
  have fails : frugalPipeline.analyzer.failure?
      (twinServices.recorded.sourceOf missing reached) = some (.fileAccess .noSuchFile) := by
    show frugalPipeline.analyzer.failure? (readSource {} reached.1.disk missing.path) = _
    rw [← alike.disk]
    exact failure?_missing frugalPipeline
  intro saved isSaved
  rw [saved_of_stopped (passes.stops takes fails _) isSaved]
  show (saveReport reached.1.disk "cache/errors.json" _ (tagText reached.1.tagsUsed) _).1 = _
  rw [← alike.disk, ← alike.tagsUsed]
  exact (saveReport_twins _ _).1

/-- A run over a file that is not there, which comes after one that is, agrees up to it with a run
that goes on. -/
theorem run_agrees_to_missing :
    ∃ treatments,
      Completes (frugalPipeline.continuing true) frugalFiles ((frugalPipeline.continuing
        true).transcript twinServices frugalFiles twins).events treatments ∧
      ((frugalPipeline.continuing true).transcript twinServices frugalFiles
        twins).events.filterMap (·.report?) = reports treatments ∧
      (GoesThrough (frugalPipeline.continuing false) (frugalPipeline.continuing true) twinServices
          frugalFiles twins twins treatments ∨
        ∃ before failing after failure record,
          treatments = before ++ failing :: after ∧
          StopsAt (frugalPipeline.continuing false) (frugalPipeline.continuing true) twinServices
            frugalFiles twins twins before failing failure record) :=
  run_agrees_to_failure {} constantEnricher accepts_patientPublisher (.refl twins) frugalPipeline
    frugalFiles (coincide_readings {} constantEnricher accepts_patientPublisher _ _ _)
    written_frugal

end SourceFacts.Run
