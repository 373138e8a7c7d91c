import SourceFacts.Proofs.Run.Containment

namespace SourceFacts

/-!
# Stopping at the first file that fails

Failures end a run or do not. As long as no file fails this makes no difference. The first file
that does is read, and that is all if failures end the run; otherwise it is reported and the others
follow.
-/

open Analysis Facts Failures Time

/-- A log after a number of successes. -/
def Failures.Log.addSuccesses (log : Log) (count : Nat) : Log :=
  { log with successful := log.successful + count }

namespace Run

/-- The pipeline that goes on after failures, or that does not. -/
def Pipeline.continuing (pipeline : Pipeline) (continues : Bool) : Pipeline :=
  { pipeline with
    settings := { pipeline.settings with
      analysis := { pipeline.settings.analysis with continueOnError := continues } }
    analyzer := pipeline.analyzer.continuing continues }

section Files

variable {pipeline : Pipeline} {services : Services σ} {file : Descriptor}
  {failure : Analysis.Failure} {files front : List Descriptor} {log after : Log}
  {state reached : σ}

/-- A file that does not fail is processed in the same way whether failures end a run or not, and is
one more success. -/
theorem process_passes
    (succeeds : pipeline.analyzer.failure? (services.sourceOf file state) = none)
    (log : Log) :
    ∃ report processed, ∀ continues,
      (pipeline.continuing continues).process services file log state =
        (.ok report, log.addSuccess, processed) := by
  obtain ⟨source, _, isRead, _, _⟩ := Analyzer.exists_model_of_failure? succeeds file.path
  have isAnalyzed := Analyzer.analyzeRead_ok (isRead ▸ succeeds) file.path file.sizeBytes
    (services.now state).1 log
  rw [← isRead] at isAnalyzed
  let analyzed : Analyzed := {
    outcome := pipeline.analyzer.outcome file.path (services.sourceOf file state)
    source? := some source.text }
  let enriched := pipeline.enrich services file analyzed
    (services.read file (services.now state).2).2
  let report : Report := {
    path := file.path
    outcome := analyzed.outcome
    key? := enriched.1.1
    enrichment := enriched.1.2 }
  refine ⟨report, enriched.2, fun continues => ?_⟩
  have same : (pipeline.continuing continues).analyzer.analyzeRead file.path file.sizeBytes
      (services.sourceOf file state) (services.now state).1 log = _ :=
    (Analyzer.analyzeRead_continuing succeeds continues _ _ _ _).trans isAnalyzed
  simp only [Pipeline.process, Services.sourceOf] at same ⊢
  rw [same]
  rfl

/-- Files are taken and none of them fails, whether failures end a run or not. -/
def Passes (pipeline : Pipeline) (services : Services σ) (files : List Descriptor) (log : Log)
    (state after : σ) : Prop :=
  ∀ continues, (pipeline.continuing continues).processAll services files log state =
    (none, log.addSuccesses files.length, after)

/-- Files are taken after one that does not fail. -/
theorem Passes.cons
    {report : Report}
    {processed last : σ}
    (takes : ∀ file report state, (services.publish file report state).1 = .ok ())
    (isProcessed : ∀ continues, (pipeline.continuing continues).process services file log state =
      (.ok report, log.addSuccess, processed))
    (passes : Passes pipeline services files log.addSuccess
      (services.publish file report processed).2 last) :
    Passes pipeline services (file :: files) log state last := by
  intro continues
  have isCounted : log.addSuccess.addSuccesses files.length =
      log.addSuccesses (files.length + 1) := by
    simp only [Log.addSuccesses, Log.addSuccess, Nat.add_assoc, Nat.add_comm 1]
  rw [processAll_cons _ takes (isProcessed continues), passes continues, isCounted]
  rfl

/-- Either no file fails, or there is a first one that does. -/
theorem passes_or_fails
    (takes : ∀ file report state, (services.publish file report state).1 = .ok ())
    (pipeline : Pipeline)
    (files : List Descriptor)
    (log : Log)
    (state : σ) :
    (∃ after, Passes pipeline services files log state after) ∨
      ∃ front file back reached failure, files = front ++ file :: back ∧
        Passes pipeline services front log state reached ∧
        pipeline.analyzer.failure? (services.sourceOf file reached) = some failure := by
  induction files generalizing log state with
  | nil =>
      exact .inl ⟨state, fun _ => rfl⟩
  | cons file rest inductionHypothesis =>
      cases isFailure : pipeline.analyzer.failure? (services.sourceOf file state) with
      | some failure =>
          exact .inr ⟨[], file, rest, state, failure, rfl, fun _ => rfl, isFailure⟩
      | none =>
          obtain ⟨report, processed, isProcessed⟩ := process_passes isFailure log
          rcases inductionHypothesis log.addSuccess (services.publish file report processed).2 with
            ⟨after, passing⟩ | ⟨front, failing, back, reached, failure, rfl, passing, fails⟩
          · exact .inl ⟨after, .cons takes isProcessed passing⟩
          · exact .inr ⟨file :: front, failing, back, reached, failure, rfl,
              .cons takes isProcessed passing, fails⟩

namespace Passes

/-- If failures end a run, the first file that fails is the last one that is read. -/
theorem stops
    (takes : ∀ file report state, (services.publish file report state).1 = .ok ())
    (passes : Passes pipeline services front log state reached)
    (fails : pipeline.analyzer.failure? (services.sourceOf file reached) = some failure)
    (back : List Descriptor) :
    (pipeline.continuing false).processAll services (front ++ file :: back) log state =
      (some (.analysis failure),
        (log.addSuccesses front.length).addRecord (services.recordOf file failure reached),
        (services.read file (services.now reached).2).2) := by
  have failsToo : (pipeline.continuing false).analyzer.failure? (services.sourceOf file reached) =
      some failure :=
    fails
  rw [processAll_append_of_none takes (passes false), Pipeline.processAll, process_fails failsToo]
  rfl

/-- If failures do not end a run, the first file that fails is reported and the others follow. -/
theorem goesOn
    (takes : ∀ file report state, (services.publish file report state).1 = .ok ())
    (passes : Passes pipeline services front log state reached)
    (fails : pipeline.analyzer.failure? (services.sourceOf file reached) = some failure)
    (back : List Descriptor) :
    (pipeline.continuing true).processAll services (front ++ file :: back) log state =
      (pipeline.continuing true).processAll services back
        ((log.addSuccesses front.length).addRecord (services.recordOf file failure reached))
        (services.publish file (.ofFailure file failure)
          (services.read file (services.now reached).2).2).2 := by
  have failsToo : (pipeline.continuing true).analyzer.failure? (services.sourceOf file reached) =
      some failure :=
    fails
  rw [processAll_append_of_none takes (passes true),
    processAll_cons _ takes (process_fails failsToo _)]

end Passes

end Files

/-! ## Files that are treated -/

/-- What is read and reported is all that there is to treatments. -/
theorem treatments_ext
    {first second : List Treatment}
    (sources : first.map (fun treatment => (treatment.file, treatment.source)) =
      second.map fun treatment => (treatment.file, treatment.source))
    (sameReports : reports first = reports second) :
    first = second := by
  induction first generalizing second with
  | nil =>
      exact (List.map_eq_nil_iff.mp sources.symm).symm
  | cons treatment rest inductionHypothesis =>
      cases second with
      | nil =>
          exact absurd sources (by simp)
      | cons other others =>
          obtain ⟨sameSource, otherSources⟩ := List.cons.inj sources
          obtain ⟨sameReport, otherReports⟩ := List.cons.inj sameReports
          obtain ⟨file, source, report⟩ := treatment
          obtain ⟨_, _, _⟩ := other
          obtain ⟨rfl, rfl⟩ := Prod.mk.inj sameSource
          obtain ⟨-, rfl⟩ := Prod.mk.inj sameReport
          rw [inductionHypothesis otherSources otherReports]

theorem source?_of_deed?
    {event : Event}
    (noDeed : event.deed? = none) :
    event.source? = none := by
  cases event with
  | looked _ | saved _ _ _ | finished _ _ =>
      rfl
  | _ => exact absurd noDeed (by simp [Event.deed?])

/-- Files that are treated by the same deeds are treated alike. -/
theorem Treats.unique
    {pipeline other : Pipeline}
    {treatments others : List Treatment}
    {log after otherLog last : Log}
    {calls more : Transcript σ}
    (treats : Treats pipeline treatments log after calls.events)
    (treatsToo : Treats other others otherLog last more.events)
    (sameDeeds : calls.deeds = more.deeds) :
    treatments = others := by
  have reported : ∀ {pipeline : Pipeline} {treatments log after} {calls : Transcript σ},
      Treats pipeline treatments log after calls.events →
      calls.deeds.filterMap (·.report?) = reports treatments := by
    intro pipeline treatments log after calls treats
    rw [filterMap_deeds fun _ => report?_of_deed?]
    exact filterMap_report? (treats.deliveries.trans (List.append_nil _).symm) rfl
  apply treatments_ext
  · rw [← treats.sources, ← treatsToo.sources, ← filterMap_deeds fun _ => source?_of_deed?,
      ← filterMap_deeds fun _ => source?_of_deed?, sameDeeds]
  · rw [← reported treats, ← reported treatsToo, sameDeeds]

/-- Files none of which fails are treated. -/
theorem Passes.treats
    {pipeline : Pipeline}
    {services : Services σ}
    {files : List Descriptor}
    {log : Log}
    {state after : σ × Transcript σ}
    (passes : Passes pipeline services.recorded files log state after) :
    ∃ calls treatments, after.2 = state.2 ++ calls ∧ treatments.map (·.file) = files ∧
      Treats (pipeline.continuing true) treatments log (log.addSuccesses files.length)
        calls.events ∧
      ∀ treatment ∈ treatments, treatment.report.outcome.isFailed = false := by
  obtain ⟨workspace, transcript⟩ := state
  obtain ⟨stopped?, last, processed, calls, areTaken, taking⟩ :=
    Pipeline.processAll_recorded (pipeline.continuing true) services files log workspace transcript
  rw [passes true] at areTaken
  obtain ⟨rfl, rfl, rfl⟩ : stopped? = none ∧ last = _ ∧ after = _ := by
    simpa [eq_comm] using areTaken
  obtain ⟨treatments, areFiles, treats⟩ := taking.treats
  refine ⟨calls, treatments, rfl, areFiles, treats, ?_⟩
  -- The log has got no record, so none of the outcomes is a failure.
  have noFailures : (outcomes treatments).filterMap (·.failureCategory?) = [] :=
    List.append_right_eq_self.mp treats.counts.categories.symm
  intro treatment isTreated
  have noFailure := List.filterMap_eq_nil_iff.mp noFailures _ (List.mem_map_of_mem isTreated)
  cases isOutcome : treatment.report.outcome with
  | failed category reason =>
      rw [isOutcome] at noFailure
      exact absurd noFailure (by simp [Outcome.failureCategory?])
  | success _ | incomplete _ _ =>
      rfl

/-- A file that fails and is reported is treated. -/
theorem treats_failedCalls
    {pipeline : Pipeline}
    {services : Services σ}
    {file : Descriptor}
    {failure : Analysis.Failure}
    {state : σ}
    (takes : ∀ file report state, (services.publish file report state).1 = .ok ())
    (fails : pipeline.analyzer.failure? (services.sourceOf file state) = some failure)
    (log : Log) :
    Treats pipeline [⟨file, services.sourceOf file state, .ofFailure file failure⟩] log
      (log.addRecord (services.recordOf file failure state))
      (services.failedCalls file failure state).events := by
  have faithful : Treatment.IsFaithful pipeline
      ⟨file, services.sourceOf file state, .ofFailure file failure⟩ :=
    ⟨rfl, (Analyzer.outcome_of_failure? fails file.path).symm⟩
  have isCategory : (services.recordOf file failure state).category =
      Category.classify failure.message := by
    simp only [Services.recordOf, Record.ofMessage]
  rw [Services.events_failedCalls takes]
  exact ⟨List.forall_mem_singleton.mpr faithful, rfl, rfl, .addRecord _ isCategory⟩

/-! ## After the last file -/

section Runs

variable {pipeline : Pipeline} {services : Services σ} {files : List Descriptor} {state : σ}
  {stopped? : Option Failure} {log : Log} {reached : σ × Transcript σ}

/-- A run that is written down takes its files and concludes. -/
theorem run_concludes
    (areTaken : pipeline.processAll services.recorded files (Log.declareTotal {} files.length)
      (services.recorded.now (state, [])).2 = (stopped?, log, reached)) :
    ∃ closing, pipeline.transcript services files state = reached.2 ++ closing ∧
      (pipeline.run services files state).log = log ∧
      Concluding pipeline log stopped? (pipeline.run services files state).result
        closing.events := by
  rw [Pipeline.run_eq_recorded, Pipeline.transcript]
  simp only [Pipeline.run, areTaken]
  obtain ⟨last, calls⟩ := reached
  cases stopped? with
  | some failure =>
      obtain ⟨saved, after, closing, isSaved, saves⟩ :=
        Pipeline.saveReport_recorded pipeline services (services.now state).1 log last calls
      refine ⟨closing, ?_, rfl, .stopped saves⟩
      exact congrArg (·.2.2) isSaved
  | none =>
      obtain ⟨now, result, after, saving, closing, isFinished, ends⟩ :=
        Pipeline.finish_recorded pipeline services (services.now state).1 log last calls
      have isStarted : (services.recorded.now (state, [])).1 = (services.now state).1 := rfl
      dsimp only
      rw [isStarted, isFinished]
      refine ⟨closing, rfl, rfl, ?_⟩
      rcases ends with ⟨error, saves, rfl, areEvents⟩ | ⟨elapsed, answer, saves, rfl, areEvents⟩
      · rw [areEvents]
        exact .unsaved saves
      · rw [areEvents]
        exact .finished saves

/-- A run over files none of which fails is the same whether failures would end it or not. -/
theorem run_of_passes
    (passes : Passes pipeline services.recorded files (Log.declareTotal {} files.length)
      (services.recorded.now (state, [])).2 reached) :
    (pipeline.continuing false).run services files state =
      (pipeline.continuing true).run services files state := by
  have seen : ∀ continues, (pipeline.continuing continues).processAll services files
      (Log.declareTotal {} files.length) (services.now state).2 =
        (none, Log.addSuccesses (Log.declareTotal {} files.length) files.length, reached.1) := by
    intro continues
    have mirrored := (pipeline.continuing continues).processAll_mirrors services.mirror_recorded
      files (Log.declareTotal {} files.length) (services.recorded.now (state, [])).2
    rw [passes continues] at mirrored
    exact mirrored
  simp only [Pipeline.run, seen]
  rfl

/-- A run that is stopped has nothing to do but to write the report on failures. -/
theorem run_of_stopped
    {failure : Failure}
    (areTaken : pipeline.processAll services.recorded files (Log.declareTotal {} files.length)
      (services.recorded.now (state, [])).2 = (some failure, log, reached)) :
    ∃ closing,
      pipeline.run services files state = {
        result := .error failure
        log
        state := (pipeline.saveReport services (services.now state).1 log reached.1).2 } ∧
      pipeline.transcript services files state = reached.2 ++ closing ∧
      Saving pipeline log (pipeline.saveReport services (services.now state).1 log reached.1).1
        closing.events := by
  have seen : pipeline.processAll services files (Log.declareTotal {} files.length)
      (services.now state).2 = _ :=
    Pipeline.processAll_mirrors services.mirror_recorded files (Log.declareTotal {} files.length)
      (services.recorded.now (state, [])).2
  rw [areTaken] at seen
  obtain ⟨last, calls⟩ := reached
  obtain ⟨saved, after, closing, isSaved, saves⟩ :=
    Pipeline.saveReport_recorded pipeline services (services.now state).1 log last calls
  have sameSave : pipeline.saveReport services (services.now state).1 log last = _ :=
    Pipeline.saveReport_mirrors services.mirror_recorded (services.now state).1 log (last, calls)
  rw [isSaved] at sameSave
  refine ⟨closing, ?_, ?_, sameSave ▸ saves⟩
  · simp only [Pipeline.run]
    rw [seen]
  · rw [Pipeline.transcript]
    simp only [Pipeline.run, areTaken]
    exact congrArg (·.2.2) isSaved

/-- What is shown of a run apart from the clock is what was done with its files and after them. -/
theorem filterMap_started
    {show? : Event → Option α}
    (unseen : ∀ now, show? (.looked now) = none)
    (services : Services σ)
    (state : σ)
    (calls closing : Transcript σ) :
    (Transcript.events
        ((services.recorded.now (state, [])).2.2 ++ calls ++ closing)).filterMap show? =
      calls.events.filterMap show? ++ closing.events.filterMap show? := by
  have isStart : (Transcript.events (services.recorded.now (state, [])).2.2).filterMap show? = [] :=
    List.filterMap_cons_none (unseen _)
  rw [Transcript.events_append, Transcript.events_append, List.filterMap_append,
    List.filterMap_append, isStart, List.nil_append]

/-- What a run that is stopped writes is the report on failures, once. -/
theorem saved_of_stopped
    {failure : Failure}
    {saved : Except Disk.OsError Unit}
    (areTaken : pipeline.processAll services.recorded files (Log.declareTotal {} files.length)
      (services.recorded.now (state, [])).2 = (some failure, log, reached))
    (isSaved : saved ∈
      (pipeline.transcript services files state).events.filterMap (·.saved?)) :
    saved = (pipeline.saveReport services (services.now state).1 log reached.1).1 := by
  obtain ⟨closing, _, isTranscript, saves⟩ := run_of_stopped areTaken
  obtain ⟨stopped?, after, last, calls, isTaken, taking⟩ :=
    Pipeline.processAll_recorded pipeline services files (Log.declareTotal {} files.length)
      (services.now state).2 (services.recorded.now (state, [])).2.2
  have isReached : reached.2 = (services.recorded.now (state, [])).2.2 ++ calls :=
    congrArg (·.2.2.2) (areTaken.symm.trans isTaken)
  rw [isTranscript, isReached, filterMap_started fun _ => rfl, taking.unsaved,
    List.nil_append] at isSaved
  rcases saves.saved?_eq with ⟨areSaved, _⟩ | ⟨areSaved, _⟩
  · rw [areSaved] at isSaved
    exact List.mem_singleton.mp isSaved
  · rw [areSaved] at isSaved
    exact absurd isSaved List.not_mem_nil

/-- If there is a path for it, the report on failures is written there. -/
theorem Saving.mem_of_path
    {saved : Except Disk.OsError Unit}
    {events : List Event}
    {path : String}
    (saves : Saving pipeline log saved events)
    (isPath : pipeline.settings.report.path? = some path) :
    ∃ now elapsed, .saved path (log.report pipeline.project now elapsed) saved ∈ events := by
  cases saves with
  | unwanted noPath =>
      exact absurd isPath (by simp [noPath])
  | @attempted other now elapsed _ isOther =>
      obtain rfl := Option.some.inj (isPath.symm.trans isOther)
      exact ⟨now, elapsed, List.mem_cons_of_mem _ List.mem_cons_self⟩

/-- Nothing is done with files after the last one. -/
theorem Concluding.noDeed
    {result : Except Failure Statistics}
    {events : List Event}
    (concluding : Concluding pipeline log stopped? result events) :
    events.filterMap Event.deed? = [] := by
  cases concluding with
  | stopped saves | unsaved saves =>
      exact saves.noDeed
  | finished saves =>
      rw [List.filterMap_append]
      exact congrArg (· ++ []) saves.noDeed

/-- What is delivered after the last file are the statistics that the run returns. -/
theorem Concluding.statistics
    {statistics : Statistics}
    {events : List Event}
    (concluding : Concluding pipeline log stopped? (.ok statistics) events) :
    (∃ elapsed, statistics = log.statistics elapsed) ∧
      events.filterMap (·.delivery?) = [.statistics statistics] := by
  generalize isResult : (.ok statistics : Except Failure Statistics) = result at concluding
  cases concluding with
  | stopped _ | unsaved _ =>
      exact absurd isResult (by simp)
  | @finished now elapsed answer saving saves =>
      cases answer with
      | error failure =>
          cases isResult
      | ok _ =>
          obtain rfl := Except.ok.inj isResult
          refine ⟨⟨elapsed, rfl⟩, ?_⟩
          rw [List.filterMap_append]
          exact congrArg (· ++ _) saves.quiet.2

/-- A run that takes all its files succeeds if the report on failures is written and the publisher
takes the statistics. -/
theorem Concluding.succeeds
    {result : Except Failure Statistics}
    {events : List Event}
    (concluding : Concluding pipeline log none result events)
    (written : ∀ saved ∈ events.filterMap (·.saved?), saved = .ok ())
    (taken : ∀ answer ∈ events.filterMap (·.answer?), answer = .ok ()) :
    ∃ statistics, result = .ok statistics := by
  cases concluding with
  | @unsaved now error saving saves =>
      rcases saves.saved?_eq with ⟨isSaved, _⟩ | ⟨_, isOk⟩
      · have areSaved : (.looked now :: saving).filterMap (·.saved?) = [.error error] := isSaved
        have isOk := written (.error error) (areSaved ▸ List.mem_singleton_self _)
        exact absurd isOk (by simp)
      · exact absurd isOk (by simp)
  | @finished now elapsed answer saving saves =>
      have isTaken : answer = .ok () :=
        taken answer (List.mem_filterMap.mpr ⟨_, List.mem_append_right _ List.mem_cons_self, rfl⟩)
      rw [isTaken]
      exact ⟨_, rfl⟩

end Runs

end Run

end SourceFacts
