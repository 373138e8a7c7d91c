import SourceFacts.Proofs.Failures.Tallies
import SourceFacts.Proofs.Run.Closing
import SourceFacts.Proofs.Run.Findings
import SourceFacts.Proofs.Run.Reuse

namespace SourceFacts.Run

/-!
# Files that fail among others

A run over some files is compared with a run over the same files and one more, which cannot be
analysed. As long as their clocks show the same whenever the store is called, both do the same
with the other files. What the one that fails leaves behind is a record in the log, which
shows in the statistics and in the report on failures.
-/

open Analysis Cache Config Disk Facts Failures Time

/-! ## Stages of a run -/

/-- The report on a file that cannot be analysed. -/
def Report.ofFailure (file : Descriptor) (failure : Analysis.Failure) : Report where
  path := file.path
  outcome := .ofFailure failure
  enrichment := .skipped

/-- What is recorded of a file that fails when it is taken next. -/
def Services.recordOf (services : Services σ) (file : Descriptor) (failure : Analysis.Failure)
    (state : σ) : Record :=
  Record.ofMessage file.path failure.message
    (Analyzer.context file.sizeBytes (services.sourceOf file state)) (services.now state).1

/-- A file that fails is read and recorded, and is reported or ends the run. -/
theorem process_fails
    {pipeline : Pipeline}
    {services : Services σ}
    {file : Descriptor}
    {failure : Analysis.Failure}
    {state : σ}
    (fails : pipeline.analyzer.failure? (services.sourceOf file state) = some failure)
    (log : Log) :
    pipeline.process services file log state =
      (if pipeline.analyzer.settings.continueOnError then .ok (.ofFailure file failure)
        else .error failure,
        log.addRecord (services.recordOf file failure state),
        (services.read file (services.now state).2).2) := by
  have isAnalyzed := Analyzer.analyzeRead_failed fails file.path file.sizeBytes
    (services.now state).1 log
  simp only [Pipeline.process, Services.sourceOf] at isAnalyzed ⊢
  rw [isAnalyzed]
  cases pipeline.analyzer.settings.continueOnError <;> rfl

namespace Services

variable (services : Services σ) (file : Descriptor)

/-- What is called to read a file that is taken next. -/
def readCalls (state : σ) : Transcript σ :=
  [⟨.looked (services.now state).1, state⟩,
    ⟨.read file (services.sourceOf file state), (services.now state).2⟩]

theorem recorded_read (state : σ × Transcript σ) :
    services.recorded.read file (services.recorded.now state).2 =
      (services.sourceOf file state.1, (services.read file (services.now state.1).2).2,
        state.2 ++ services.readCalls file state.1) :=
  Prod.ext rfl (Prod.ext rfl (List.append_assoc ..))

/-- What is called for a file that is taken next, cannot be analysed and is reported. -/
def failedCalls (failure : Analysis.Failure) (state : σ) : Transcript σ :=
  let ready := (services.read file (services.now state).2).2
  services.readCalls file state ++
    [⟨.published file (.ofFailure file failure)
      (services.publish file (.ofFailure file failure) ready).1, ready⟩]

theorem recorded_failed
    (failure : Analysis.Failure)
    (state : σ × Transcript σ) :
    (services.recorded.publish file (.ofFailure file failure)
      (services.recorded.read file (services.recorded.now state).2).2).2 =
        ((services.publish file (.ofFailure file failure)
          (services.read file (services.now state.1).2).2).2,
          state.2 ++ services.failedCalls file failure state.1) := by
  rw [recorded_read, failedCalls, ← List.append_assoc]
  rfl

variable {services file}

theorem events_failedCalls
    (takes : ∀ file report state, (services.publish file report state).1 = .ok ())
    (failure : Analysis.Failure)
    (state : σ) :
    (services.failedCalls file failure state).events =
      [.looked (services.now state).1, .read file (services.sourceOf file state),
        .published file (.ofFailure file failure) (.ok ())] := by
  rw [failedCalls, takes]
  rfl

end Services

section Stages

variable {pipeline : Pipeline} (settings : AnalysisSettings) (enricher : Enricher ε)
  {publisher : Publisher π}

/-- Files are treated, and what was called for them is added to what was called before. -/
theorem processAll_treats
    (accepts : publisher.Accepts)
    (continues : pipeline.analyzer.settings.continueOnError = true)
    (files : List Descriptor)
    (log : Log)
    (state : Recorded ε π) :
    ∃ after last calls treatments,
      pipeline.processAll (Workspace.services settings enricher publisher).recorded files log
          state =
        (none, after, last, state.2 ++ calls) ∧
      treatments.map (·.file) = files ∧ Treats pipeline treatments log after calls.events := by
  obtain ⟨workspace, transcript⟩ := state
  have goAlong := goAlong_services settings enricher publisher accepts
  have isNone := processAll_fst goAlong continues files log (workspace, transcript)
  obtain ⟨stopped?, after, last, calls, areTaken, taking⟩ :=
    Pipeline.processAll_recorded pipeline (Workspace.services settings enricher publisher) files
      log workspace transcript
  rw [areTaken] at isNone
  obtain rfl : stopped? = none := isNone
  obtain ⟨treatments, areFiles, treats⟩ := taking.treats
  exact ⟨after, last, calls, treatments, areTaken, areFiles, treats⟩

/-- Nothing is done with a file that cannot be analysed after it is read. -/
theorem process_of_failure?
    {services : Services σ}
    {file : Descriptor}
    {source : Except Analysis.Failure SourceText}
    {failure : Analysis.Failure}
    {state after : σ}
    (continues : pipeline.analyzer.settings.continueOnError = true)
    (isRead : services.read file (services.now state).2 = (source, after))
    (fails : pipeline.analyzer.failure? source = some failure)
    (log : Log) :
    ∃ record, pipeline.process services file log state =
      (.ok (.ofFailure file failure), log.addRecord record, after) := by
  have isSource : services.sourceOf file state = source := congrArg Prod.fst isRead
  rw [process_fails (isSource ▸ fails), continues, isRead]
  exact ⟨_, rfl⟩

/-- A file that cannot be analysed is read and reported, and then come the other files. -/
theorem processAll_failed
    {file : Descriptor}
    {failure : Analysis.Failure}
    (accepts : publisher.Accepts)
    (continues : pipeline.analyzer.settings.continueOnError = true)
    (state : Recorded ε π)
    (fails : pipeline.analyzer.failure? (readSource settings state.1.disk file.path) =
      some failure)
    (rest : List Descriptor)
    (log : Log) :
    ∃ record last,
      pipeline.processAll (Workspace.services settings enricher publisher).recorded (file :: rest)
          log state =
        pipeline.processAll (Workspace.services settings enricher publisher).recorded rest
          (log.addRecord record) last ∧
      last.1 = { (Workspace.now state.1).2 with
        publisher := (publisher.publish file (.ofFailure file failure) state.1.publisher).2 } ∧
      last.2.deeds = state.2.deeds ++
        [.read file (readSource settings state.1.disk file.path),
          .published file (.ofFailure file failure) (.ok ())] ∧
      last.2.readings = state.2.readings := by
  let services := Workspace.services settings enricher publisher
  have takes := (goAlong_services settings enricher publisher accepts).takes
  obtain ⟨record, isProcessed⟩ := process_of_failure? continues
    (services.recorded_read file state) fails log
  have areCalled := services.recorded_failed file failure state
  rw [services.recorded_read file state] at areCalled
  refine ⟨record, _, processAll_cons pipeline takes isProcessed rest, ?_⟩
  rw [areCalled]
  refine ⟨rfl, ?_, ?_⟩
  · rw [Transcript.deeds_append, Transcript.deeds, Transcript.deeds,
      Services.events_failedCalls fun file report state => takes file report (state, [])]
    rfl
  · rw [Transcript.readings_append]
    exact List.append_nil _

/-- What is not done with a file is no report on one. -/
theorem report?_of_deed?
    {event : Event}
    (noDeed : event.deed? = none) :
    event.report? = none := by
  cases event with
  | looked _ | saved _ _ _ | finished _ _ =>
      rfl
  | _ => exact absurd noDeed (by simp [Event.deed?])

theorem asked?_of_deed?
    {event : Event}
    (noDeed : event.deed? = none) :
    event.asked? = none := by
  cases event with
  | looked _ | saved _ _ _ | finished _ _ =>
      rfl
  | _ => exact absurd noDeed (by simp [Event.deed?])

/-- Deeds show what all events do, as long as nothing else is to be seen. -/
theorem filterMap_deeds
    {show? : Event → Option α}
    (unseen : ∀ event : Event, event.deed? = none → show? event = none)
    (transcript : Transcript σ) :
    transcript.deeds.filterMap show? = transcript.events.filterMap show? := by
  rw [Transcript.deeds, List.filterMap_filterMap]
  congr 1
  funext event
  cases event with
  | looked _ | saved _ _ _ | finished _ _ =>
      exact (unseen _ rfl).symm
  | _ => rfl

/-- The files that are treated are reported. -/
theorem reports_processAll
    (accepts : publisher.Accepts)
    (continues : pipeline.analyzer.settings.continueOnError = true)
    (files : List Descriptor)
    (log : Log)
    (state : Recorded ε π) :
    ∃ calls, (pipeline.processAll (Workspace.services settings enricher publisher).recorded files
        log state).2.2.2 = state.2 ++ calls ∧
      (calls.deeds.filterMap (·.report?)).map (·.1) = files := by
  obtain ⟨after, last, calls, treatments, areTaken, rfl, treats⟩ :=
    processAll_treats settings enricher accepts continues files log state
  have deliveries : calls.events.filterMap (·.delivery?) = reported treatments ++ [] := by
    rw [treats.deliveries, List.append_nil]
  refine ⟨calls, by rw [areTaken], ?_⟩
  rw [filterMap_deeds fun _ => report?_of_deed?, filterMap_report? deliveries rfl, reports,
    List.map_map]
  rfl

/-- What is done with files, and what is done with the same and one more that cannot be
analysed. -/
def Inserted (front back : List Descriptor) (file : Descriptor) (failure : Analysis.Failure)
    (plain inserted : List Event) : Prop :=
  ∃ before after source,
    plain = before ++ after ∧
    inserted = before ++
      .read file source :: .published file (.ofFailure file failure) (.ok ()) :: after ∧
    (before.filterMap (·.report?)).map (·.1) = front ∧
    (after.filterMap (·.report?)).map (·.1) = back

section Inserted

variable {front back : List Descriptor} {file : Descriptor} {failure : Analysis.Failure}
  {plain inserted : Transcript σ}

theorem Inserted.reports
    (isInserted : Inserted front back file failure plain.deeds inserted.deeds) :
    ∃ before after : List (Descriptor × Report),
      before.map (·.1) = front ∧ after.map (·.1) = back ∧
      plain.events.filterMap (·.report?) = before ++ after ∧
      inserted.events.filterMap (·.report?) =
        before ++ (file, .ofFailure file failure) :: after := by
  obtain ⟨before, after, source, isPlain, isMore, areFront, areBack⟩ := isInserted
  refine ⟨_, _, areFront, areBack, ?_, ?_⟩
  · rw [← filterMap_deeds fun _ => report?_of_deed?, isPlain, List.filterMap_append]
  · rw [← filterMap_deeds fun _ => report?_of_deed?, isMore, List.filterMap_append]
    rfl

theorem Inserted.requests
    (isInserted : Inserted front back file failure plain.deeds inserted.deeds) :
    plain.events.filterMap (·.asked?) = inserted.events.filterMap (·.asked?) := by
  obtain ⟨before, after, source, isPlain, isMore, _, _⟩ := isInserted
  rw [← filterMap_deeds fun _ => asked?_of_deed?, ← filterMap_deeds fun _ => asked?_of_deed?,
    isPlain, isMore, List.filterMap_append, List.filterMap_append]
  rfl

end Inserted

/-- If one of the files of a run cannot be analysed, the run does with the others what it does
without that file. -/
theorem processAll_inserted
    {file : Descriptor}
    {failure : Analysis.Failure}
    {first second : Recorded ε π}
    (accepts : publisher.Accepts)
    (continues : pipeline.analyzer.settings.continueOnError = true)
    (front back : List Descriptor)
    (log other : Log)
    (abreast : Abreast first second)
    (noDeed : first.2.deeds = [])
    (fails : pipeline.analyzer.failure? (readSource settings
      (pipeline.processAll (Workspace.services settings enricher publisher).recorded front other
        second).2.2.1.disk file.path) = some failure)
    (inTime : InTime
      (pipeline.processAll (Workspace.services settings enricher publisher).recorded
        (front ++ back) log first).2.2
      (pipeline.processAll (Workspace.services settings enricher publisher).recorded
        (front ++ file :: back) other second).2.2) :
    Alike
        (pipeline.processAll (Workspace.services settings enricher publisher).recorded
          (front ++ back) log first).2.2.1
        (pipeline.processAll (Workspace.services settings enricher publisher).recorded
          (front ++ file :: back) other second).2.2.1 ∧
      Inserted front back file failure
        (pipeline.processAll (Workspace.services settings enricher publisher).recorded
          (front ++ back) log first).2.2.2.deeds
        (pipeline.processAll (Workspace.services settings enricher publisher).recorded
          (front ++ file :: back) other second).2.2.2.deeds := by
  let services := Workspace.services settings enricher publisher
  have goAlong : services.recorded.GoAlong := goAlong_services settings enricher publisher accepts
  rw [processAll_append goAlong continues front back log first,
    processAll_append goAlong continues front (file :: back) other second] at inTime ⊢
  -- Up to the file that fails, nothing is different.
  obtain ⟨_, between⟩ := processAll_goesAlong pipeline goAlong front log other abreast
    (inTime.of_begun (pipeline.processAll_keeps (goAlong.grow _) back _ List.prefix_rfl)
      (pipeline.processAll_keeps (goAlong.grow _) (file :: back) _ List.prefix_rfl))
  obtain ⟨begun, isBegun, areFront⟩ :=
    reports_processAll settings enricher accepts continues front log first
  generalize pipeline.processAll services.recorded front log first = middle
    at between isBegun inTime ⊢
  generalize pipeline.processAll services.recorded front other second = otherMiddle
    at between fails inTime ⊢
  obtain ⟨_, log, reached, before⟩ := middle
  obtain ⟨_, other, otherReached⟩ := otherMiddle
  -- The file that fails leaves nothing behind but what is written down.
  obtain ⟨record, last, areTaken, isLast, deeds, readings⟩ :=
    processAll_failed settings enricher accepts continues otherReached fails back other
  dsimp only at between isBegun inTime ⊢
  rw [areTaken] at inTime ⊢
  obtain ⟨last, otherBefore⟩ := last
  -- What comes after it is compared on its own, as if nothing had been written down before.
  rw [processAll_frame pipeline services back log reached before,
    processAll_frame pipeline services back _ last otherBefore] at inTime ⊢
  have alike : Alike otherReached.1 last := by
    obtain rfl := isLast
    exact ⟨rfl, rfl, rfl, rfl⟩
  have apart : Abreast ((reached, []) : Recorded ε π) ((last, []) : Recorded ε π) := {
    alike := between.alike.trans alike
    deeds := rfl
    readings := rfl }
  rw [InTime, Transcript.readings_append, Transcript.readings_append, between.readings,
    readings] at inTime
  obtain ⟨_, abreast⟩ := processAll_goesAlong pipeline goAlong back log (other.addRecord record)
    apart inTime.of_append_left
  obtain ⟨calls, areCalls, areBack⟩ :=
    reports_processAll settings enricher accepts continues back log ((reached, []) : Recorded ε π)
  rw [List.nil_append] at areCalls
  have isBefore : Transcript.deeds before = begun.deeds := by
    rw [isBegun, Transcript.deeds_append, noDeed, List.nil_append]
  refine ⟨abreast.alike, begun.deeds, calls.deeds,
    readSource settings otherReached.1.disk file.path, ?_, ?_, areFront, areBack⟩
  · rw [Transcript.deeds_append, isBefore, areCalls]
  · dsimp only at deeds
    rw [Transcript.deeds_append, deeds, ← between.deeds, isBefore, ← abreast.deeds, areCalls,
      List.append_assoc]
    rfl

/-! ## Whole runs -/

/-- How two runs end of which one is over one more file, with a failure of a category. -/
inductive EndAlike (category : Category) :
    Except Failure Statistics → Except Failure Statistics → Prop where
  | unsaved (error : OsError) : EndAlike category (.error (.report error)) (.error (.report error))
  | finished {fewer more : Statistics}
      (oneMore : fewer.OneMore category more) :
      EndAlike category (.ok fewer) (.ok more)

/-- If one run reports what another does and one more failure, and they succeed or not alike,
they end alike. -/
theorem Finishes.endAlike
    {pipeline : Pipeline}
    {files others : List Descriptor}
    {events calls : List Event}
    {result otherResult : Except Failure Statistics}
    {treatments more : List Treatment}
    {before after : List (Descriptor × Report)}
    {file : Descriptor}
    {failure : Analysis.Failure}
    (finishes : Finishes pipeline files events result treatments)
    (finishesToo : Finishes pipeline others calls otherResult more)
    (areReports : Run.reports treatments = before ++ after)
    (areMore : Run.reports more = before ++ (file, .ofFailure file failure) :: after)
    (sameEnd : result.map (fun _ => ()) = otherResult.map fun _ => ()) :
    EndAlike (Category.classify failure.message) result otherResult := by
  have reported : ∀ treatments,
      outcomes treatments = (Run.reports treatments).map (·.2.outcome) := by
    intro treatments
    rw [outcomes, Run.reports, List.map_map]
    rfl
  cases finishes with
  | @unsaved error _ _ _ _ =>
      cases finishesToo with
      | @unsaved other _ _ _ _ =>
          obtain rfl := Failure.report.inj (Except.error.inj sameEnd)
          exact .unsaved error
      | finished _ _ _ =>
          exact absurd sameEnd (by simp [Except.map])
  | finished _ _ _ =>
      cases finishesToo with
      | unsaved _ _ _ =>
          exact absurd sameEnd (by simp [Except.map])
      | finished _ _ _ =>
          rw [reported, areReports, reported, areMore, List.map_append, List.map_append]
          exact .finished (Statistics.oneMore_ofOutcomes _ _ failure _ _)

/-- A file that cannot be analysed is contained: a run over it and others comes to what a run
over the others comes to. -/
structure Contained (pipeline : Pipeline) (services : Services (Workspace ε π))
    (front back : List Descriptor) (file : Descriptor) (failure : Analysis.Failure)
    (first second : Workspace ε π) : Prop where
  /-- The other files are reported alike and in the same order. -/
  reports : ∃ before after : List (Descriptor × Report),
    before.map (·.1) = front ∧ after.map (·.1) = back ∧
    (pipeline.transcript services (front ++ back) first).events.filterMap (·.report?) =
      before ++ after ∧
    (pipeline.transcript services (front ++ file :: back) second).events.filterMap (·.report?) =
      before ++ (file, .ofFailure file failure) :: after
  /-- The same enrichments are asked for, with the same results. -/
  requests :
    (pipeline.transcript services (front ++ back) first).events.filterMap (·.asked?) =
      (pipeline.transcript services (front ++ file :: back) second).events.filterMap (·.asked?)
  /-- The store has counted the same. -/
  store : (pipeline.run services (front ++ back) first).state.store =
    (pipeline.run services (front ++ file :: back) second).state.store
  enricher : (pipeline.run services (front ++ back) first).state.enricher =
    (pipeline.run services (front ++ file :: back) second).state.enricher
  /-- The trees come from one tree, in which the reports on failures are written. -/
  trees : ∃ log otherLog tree tag saved,
    Writes pipeline log tree tag saved (pipeline.run services (front ++ back) first).state.disk ∧
    Writes pipeline otherLog tree tag saved
      (pipeline.run services (front ++ file :: back) second).state.disk
  /-- They differ in one file at most; a directory that this is not in holds the same. -/
  directories : ∃ place,
    DifferAt place (pipeline.run services (front ++ back) first).state.disk
      (pipeline.run services (front ++ file :: back) second).state.disk ∧
    ∀ outer, relative? outer place = none →
      (pipeline.run services (front ++ back) first).state.disk.sub outer =
        (pipeline.run services (front ++ file :: back) second).state.disk.sub outer
  /-- Without a report on failures they do not differ at all. -/
  unreported : pipeline.settings.report.path? = none →
    (pipeline.run services (front ++ back) first).state.disk =
      (pipeline.run services (front ++ file :: back) second).state.disk
  ending : EndAlike (Category.classify failure.message)
    (pipeline.run services (front ++ back) first).result
    (pipeline.run services (front ++ file :: back) second).result

/-- A file that cannot be analysed is contained if failures do not end a run, its publisher takes
everything and the clock shows the same whenever the store is called. -/
theorem run_contained
    {file : Descriptor}
    {failure : Analysis.Failure}
    {first second : Workspace ε π}
    (accepts : publisher.Accepts)
    (continues : pipeline.analyzer.settings.continueOnError = true)
    (front back : List Descriptor)
    (alike : Alike first second)
    (fails : pipeline.analyzer.failure? (readSource settings
      (reached pipeline (Workspace.services settings enricher publisher) front second).2.1.disk
      file.path) = some failure)
    (inTime : Coincide
      (pipeline.transcript (Workspace.services settings enricher publisher) (front ++ back)
        first).readings
      (pipeline.transcript (Workspace.services settings enricher publisher)
        (front ++ file :: back) second).readings) :
    Contained pipeline (Workspace.services settings enricher publisher) front back file failure
      first second := by
  let services := Workspace.services settings enricher publisher
  have closes := run_reached pipeline settings enricher accepts continues (front ++ back) first
  have closesToo :=
    run_reached pipeline settings enricher accepts continues (front ++ file :: back) second
  have sameReadings : Coincide
      (reached pipeline services (front ++ back) first).2.2.readings
      (reached pipeline services (front ++ file :: back) second).2.2.readings := by
    rw [← closes.readings, ← closesToo.readings]
    exact inTime
  have begun : Abreast (services.recorded.now (first, [])).2
      (services.recorded.now (second, [])).2 :=
    (goAlong_services settings enricher publisher accepts).now ⟨alike, rfl, rfl⟩
  have failsThere := fails
  rw [reached, processAll_log pipeline services.recorded front _
    (Log.declareTotal {} (front ++ file :: back).length)] at failsThere
  obtain ⟨sameEnd, isInserted⟩ :=
    processAll_inserted settings enricher accepts continues front back
      (Log.declareTotal {} (front ++ back).length)
      (Log.declareTotal {} (front ++ file :: back).length) begun rfl failsThere sameReadings
  have inRuns : Inserted front back file failure
      (pipeline.transcript services (front ++ back) first).deeds
      (pipeline.transcript services (front ++ file :: back) second).deeds := by
    rw [closes.deeds, closesToo.deeds]
    exact isInserted
  obtain ⟨before, after, areFront, areBack, reports, reportsToo⟩ := inRuns.reports
  -- Both reports on failures are written in the same tree, since nothing else is different.
  obtain ⟨saved, writes, isEnd⟩ := closes.saved
  obtain ⟨savedToo, writesToo, isEndToo⟩ := closesToo.saved
  have sameDisk : (reached pipeline services (front ++ back) first).2.1.disk =
      (reached pipeline services (front ++ file :: back) second).2.1.disk :=
    sameEnd.disk
  have sameTag : tagText (reached pipeline services (front ++ back) first).2.1.tagsUsed =
      tagText (reached pipeline services (front ++ file :: back) second).2.1.tagsUsed :=
    congrArg tagText sameEnd.tagsUsed
  rw [sameDisk, sameTag] at writes
  obtain ⟨rfl, place, differ⟩ := writes.differ writesToo
  obtain ⟨treatments, finishes⟩ :=
    run_finishes (accepts.services settings enricher) continues (front ++ back) first
  obtain ⟨others, finishesToo⟩ :=
    run_finishes (accepts.services settings enricher) continues (front ++ file :: back) second
  exact {
    reports := ⟨before, after, areFront, areBack, reports, reportsToo⟩
    requests := inRuns.requests
    store := closes.store.trans (sameEnd.store.trans closesToo.store.symm)
    enricher := closes.enricher.trans (sameEnd.enricher.trans closesToo.enricher.symm)
    trees := ⟨_, _, _, _, saved, writes, writesToo⟩
    directories := ⟨place, differ, fun _ elsewhere => differ.sub_eq elsewhere⟩
    unreported := fun noPath => (writes.eq_of_none noPath).trans (writesToo.eq_of_none noPath).symm
    ending := finishes.endAlike finishesToo (finishes.reports.symm.trans reports)
      (finishesToo.reports.symm.trans reportsToo) (isEnd.trans isEndToo.symm) }

end Stages

/-! ## A file that is not there -/

/-- A file that is not among the twins. -/
def missing : Descriptor where
  path := "c.py"
  sizeBytes := 0

/-- The twins with a clock that is one look behind. -/
def lateTwins : Workspace Unit Unit := { twins with clock := { upcoming := [{}] } }

/-- A run with the twins. -/
def twinServices : Services (Workspace Unit Unit) :=
  Workspace.services {} constantEnricher patientPublisher

theorem accepts_patientPublisher : patientPublisher.Accepts :=
  ⟨fun _ _ _ => rfl, fun _ _ => rfl⟩

theorem readSource_missing :
    readSource {} twins.disk missing.path = .error (.fileAccess .noSuchFile) := by
  have isName : IsName "c.py" := by decide
  have isVacant : twins.disk.node? (([] : Place) ++ ["c.py"]) = none := rfl
  have notFound : twins.disk.find true missing.path = .error .noSuchFile := by
    show twins.disk.find true "c.py" = _
    rw [find, destination_of_isFollowed isName.isFollowed, Path.steps_of_isName isName,
      follow_vacant isName isVacant]
  rw [readSource, notFound]

/-- A file that is not there cannot be analysed. -/
theorem failure?_missing
    (pipeline : Pipeline) :
    pipeline.analyzer.failure? (readSource {} twins.disk missing.path) =
      some (.fileAccess .noSuchFile) := by
  rw [readSource_missing]
  rfl

/-- When the store is called for files depends neither on the log nor on what was called
before. -/
theorem readings_processAll
    {calls others : Transcript (Workspace ε π)}
    (sameReadings : calls.readings = others.readings)
    (pipeline : Pipeline)
    (services : Services (Workspace ε π))
    (files : List Descriptor)
    (log other : Log)
    (workspace : Workspace ε π) :
    (pipeline.processAll services.recorded files log (workspace, calls)).2.2.2.readings =
      (pipeline.processAll services.recorded files other (workspace, others)).2.2.2.readings := by
  rw [processAll_frame pipeline services files log workspace calls,
    processAll_frame pipeline services files other workspace others,
    processAll_log pipeline services.recorded files log other, Transcript.readings_append,
    Transcript.readings_append, sameReadings]

/-- A file that is not there is contained in a run over another one. -/
theorem run_contained_twins :
    Contained (Pipeline.ofSettings { cache := topCache } "constant") twinServices []
      [{ path := "a.py", sizeBytes := 0 }] missing (.fileAccess .noSuchFile) twins lateTwins := by
  let pipeline := Pipeline.ofSettings { cache := topCache } "constant"
  let rest : List Descriptor := [{ path := "a.py", sizeBytes := 0 }]
  have closes := run_reached pipeline {} constantEnricher accepts_patientPublisher rfl rest twins
  have closesToo := run_reached pipeline {} constantEnricher accepts_patientPublisher rfl
    (missing :: rest) lateTwins
  obtain ⟨record, last, areTaken, isLast, _, readings⟩ :=
    processAll_failed {} constantEnricher accepts_patientPublisher rfl
      (twinServices.recorded.now (lateTwins, [])).2 (failure?_missing pipeline) rest
      (Log.declareTotal {} (missing :: rest).length)
  obtain ⟨_, calls⟩ := last
  obtain rfl := isLast
  have sameReadings :
      (pipeline.transcript twinServices rest twins).readings =
        (pipeline.transcript twinServices (missing :: rest) lateTwins).readings := by
    have later : (pipeline.transcript twinServices (missing :: rest) lateTwins).readings = _ :=
      closesToo.readings.trans (congrArg (fun ending => ending.2.2.2.readings) areTaken)
    have begun : (twinServices.recorded.now (twins, [])).2.2.readings = Transcript.readings calls :=
      readings.symm
    rw [later]
    exact closes.readings.trans (readings_processAll begun pipeline twinServices rest _ _ _)
  refine run_contained {} constantEnricher accepts_patientPublisher rfl [] _ ⟨rfl, rfl, rfl, rfl⟩
    (failure?_missing pipeline) ?_
  exact sameReadings ▸ Coincide.refl _

/-! ## A report on failures in the directory of the store -/

/-- Settings with a report on failures in the directory of the store. -/
def reportingPipeline : Pipeline :=
  .ofSettings { cache := topCache, report := { path? := some "cache/errors.json" } } "constant"

/-- The report on failures is written to a file in the directory of the store. -/
theorem saveReport_twins
    (report : Json)
    (now : Instant) :
    (saveReport twins.disk "cache/errors.json" report (tagText 0) now).1 = .ok () ∧
      (saveReport twins.disk "cache/errors.json" report (tagText 0) now).2.node?
        ["cache", "errors.json"] = some (.file (Text.encode report.pretty) now) := by
  have isName : IsName "cache" := by decide
  have isDirectory : twins.disk.node? (([] : Place) ++ ["cache"]) = some .directory := rfl
  have found : twins.disk.find true "cache" = .ok (["cache"], .directory) :=
    find_top isName isDirectory
  have leads : twins.disk.destination false "cache" = .ok (.found ["cache"] .directory) := by
    rw [destination_of_isFollowed isName.isFollowed, Path.steps_of_isName isName,
      follow_directory isName.notHere isName.notAbove isName.short isDirectory, follow]
    rfl
  have isWhole : withoutSlashes "cache" = "cache" := by decide
  have isMade : twins.disk.createDirectories "cache" = (.ok (), twins.disk) := by
    refine Reaches.createDirectories_of_ensureDirectory (by decide) ?_
    simp [ensureDirectory, createDirectory, Disk.isDirectory, isWhole, leads, found]
  have reaches : twins.disk.Reaches "cache" ["cache"] := reaches_of_below_eq_nil found rfl
  have isParent : (Path.parent? "cache/errors.json").getD "" = "cache" := by decide
  have replaces : twins.disk.replace (Path.child "cache" "errors.json") (Text.encode report.pretty)
      (tagText 0) now = (.ok (), _) :=
    reaches.replace_eq (by decide) (by decide) (by decide) (by decide) (by decide) (.inl rfl) rfl
      now
  have isChild : Path.child "cache" "errors.json" = "cache/errors.json" := by decide
  rw [isChild] at replaces
  rw [saveReport, isParent, isMade]
  dsimp only
  rw [replaces, replaced]
  exact ⟨rfl, node?_set_self _ (List.cons_ne_nil _ _) _⟩

/-- The file with the report on failures tells whether a run has met with any. -/
theorem hasFailures_of_writes
    {log other : Log}
    {result otherResult : Except OsError Unit}
    {first second : Disk}
    (writes : Writes reportingPipeline log twins.disk (tagText 0) result first)
    (writesToo : Writes reportingPipeline other twins.disk (tagText 0) otherResult second)
    (sameDirectory : first.sub ["cache"] = second.sub ["cache"]) :
    log.hasFailures = other.hasFailures := by
  have isFile : ∀ {log result changed},
      Writes reportingPipeline log twins.disk (tagText 0) result changed →
      ∃ now later elapsed, (changed.sub ["cache"]).node? ["errors.json"] =
        some (.file (Text.encode (log.report "." now elapsed).pretty) later) := by
    intro log result changed writes
    cases writes with
    | unwanted noPath =>
        exact absurd noPath (by simp [reportingPipeline, Pipeline.ofSettings])
    | @attempted path now later elapsed isPath =>
        obtain rfl := Option.some.inj isPath
        refine ⟨now, later, elapsed, ?_⟩
        rw [node?_sub _ _ (by simp)]
        exact (saveReport_twins _ later).2
  obtain ⟨now, later, elapsed, isFirst⟩ := isFile writes
  obtain ⟨otherNow, otherLater, otherElapsed, isSecond⟩ := isFile writesToo
  rw [sameDirectory, isSecond] at isFirst
  have sameFile := Option.some.inj isFirst
  exact Log.hasFailures_of_pretty_report (Text.encode_inj.mp (Node.file.inj sameFile).1.symm)

/-- A file that is not there changes the directory of the store if the report on failures is
written there, though failures do not end a run, its publisher takes everything and the store
is never called. -/
theorem exists_directory_changed :
    patientPublisher.Accepts ∧
    reportingPipeline.analyzer.settings.continueOnError = true ∧
    (∃ failure, reportingPipeline.analyzer.failure? (readSource {}
      (reached reportingPipeline twinServices [] twins).2.1.disk missing.path) = some failure) ∧
    Coincide (reportingPipeline.transcript twinServices [] twins).readings
      (reportingPipeline.transcript twinServices [missing] twins).readings ∧
    (reportingPipeline.run twinServices [] twins).state.disk.sub ["cache"] ≠
      (reportingPipeline.run twinServices [missing] twins).state.disk.sub ["cache"] := by
  have closes := run_reached reportingPipeline {} constantEnricher accepts_patientPublisher rfl []
    twins
  have closesToo := run_reached reportingPipeline {} constantEnricher accepts_patientPublisher rfl
    [missing] twins
  obtain ⟨record, last, areTaken, isLast, _, readings⟩ :=
    processAll_failed {} constantEnricher accepts_patientPublisher rfl
      (twinServices.recorded.now (twins, [])).2 (failure?_missing reportingPipeline) []
      (Log.declareTotal {} 1)
  obtain ⟨_, calls⟩ := last
  obtain rfl := isLast
  have isReached : reached reportingPipeline twinServices [missing] twins = (_, _, calls) :=
    congrArg (·.2) areTaken
  have noReadings : (reportingPipeline.transcript twinServices [] twins).readings = [] :=
    closes.readings
  have noReadingsToo : (reportingPipeline.transcript twinServices [missing] twins).readings = [] :=
    closesToo.readings.trans ((congrArg (·.2.2.readings) isReached).trans readings)
  obtain ⟨saved, writes, _⟩ := closes.saved
  obtain ⟨savedToo, writesToo, _⟩ := closesToo.saved
  have writesHere : Writes reportingPipeline (Log.declareTotal {} 0) twins.disk (tagText 0) saved
      (reportingPipeline.run twinServices [] twins).state.disk :=
    writes
  have writesThere : Writes reportingPipeline ((Log.declareTotal {} 1).addRecord record) twins.disk
      (tagText 0) savedToo (reportingPipeline.run twinServices [missing] twins).state.disk := by
    have isTold : Writes reportingPipeline
        (reached reportingPipeline twinServices [missing] twins).1
        (reached reportingPipeline twinServices [missing] twins).2.1.disk
        (tagText (reached reportingPipeline twinServices [missing] twins).2.1.tagsUsed) savedToo
        (reportingPipeline.run twinServices [missing] twins).state.disk :=
      writesToo
    rw [isReached] at isTold
    exact isTold
  refine ⟨accepts_patientPublisher, rfl, ⟨_, failure?_missing reportingPipeline⟩, ?_, ?_⟩
  · rw [noReadings, noReadingsToo]
    exact Coincide.refl []
  · intro sameDirectory
    exact absurd (hasFailures_of_writes writesHere writesThere sameDirectory) (by
      simp [Log.hasFailures, Log.declareTotal, Log.addRecord])

end SourceFacts.Run
