import SourceFacts.Proofs.Analysis.Verdicts
import SourceFacts.Proofs.Run.Observation

namespace SourceFacts.Run

/-!
# Transcripts of runs

Every call of a service is written down with what came of it. Which calls there can be for
a file, for files one after another and for a whole run is said once, by a relation with a
case for everything that can happen. It does not mention the services or their state, so
what follows from it holds for whatever the services do.
-/

open Analysis Facts Failures Time

/-- A call of a service with what came of it, and the state that it was made in. -/
structure Call (σ : Type) where
  event : Event
  before : σ

/-- Calls in the order in which they were made. -/
abbrev Transcript (σ : Type) := List (Call σ)

/-- What was called, without the states. -/
def Transcript.events (transcript : Transcript σ) : List Event := transcript.map (·.event)

@[simp] theorem Transcript.events_append (first second : Transcript σ) :
    Transcript.events (first ++ second) = first.events ++ second.events :=
  List.map_append

/-- Services that write down their calls. -/
def Services.recorded (services : Services σ) : Services (σ × Transcript σ) :=
  services.observed fun event before transcript => transcript ++ [⟨event, before⟩]

namespace Services

variable (services : Services σ) (state : σ × Transcript σ)

/-- Services that write down their calls do the same. -/
theorem mirror_recorded : services.recorded.Mirror Prod.fst services :=
  services.mirror_observed _

theorem recorded_get (key : Cache.Key) :
    services.recorded.get key state =
      ((services.get key state.1).1, (services.get key state.1).2,
        state.2 ++ [⟨.sought key (services.get key state.1).1, state.1⟩]) :=
  rfl

theorem recorded_put
    (key : Cache.Key)
    (payload : Json)
    (ttl : UInt64)
    (source : Cache.SourceMetadata) :
    services.recorded.put key payload ttl source state =
      ((services.put key payload ttl source state.1).1,
        (services.put key payload ttl source state.1).2,
        state.2 ++ [⟨.kept key payload ttl source
          (services.put key payload ttl source state.1).1, state.1⟩]) :=
  rfl

theorem recorded_enrich (request : Request) :
    services.recorded.enrich request state =
      ((services.enrich request state.1).1, (services.enrich request state.1).2,
        state.2 ++ [⟨.enriched request (services.enrich request state.1).1, state.1⟩]) :=
  rfl

theorem recorded_publish
    (file : Descriptor)
    (report : Report) :
    services.recorded.publish file report state =
      ((services.publish file report state.1).1, (services.publish file report state.1).2,
        state.2 ++ [⟨.published file report (services.publish file report state.1).1,
          state.1⟩]) :=
  rfl

end Services

/-! ## What is read off events -/

/-- What a publisher is given. -/
inductive Delivery where
  | report (file : Descriptor) (report : Report)
  | statistics (statistics : Statistics)

/-- A file and the report on it, if they were given. -/
def Delivery.report? : Delivery → Option (Descriptor × Report)
  | .report file content => some (file, content)
  | .statistics _ => none

namespace Event

/-- What a publisher was given. -/
def delivery? : Event → Option Delivery
  | .published file report _ => some (.report file report)
  | .finished statistics _ => some (.statistics statistics)
  | _ => none

/-- The file that was read, and what was read. -/
def source? : Event → Option (Descriptor × Except Analysis.Failure SourceText)
  | .read file source => some (file, source)
  | _ => none

/-- The file that was reported, and the report. -/
def report? (event : Event) : Option (Descriptor × Report) :=
  event.delivery?.bind Delivery.report?

/-- The enrichment that was asked for, and what came of it. -/
def asked? : Event → Option (Request × Except EnrichmentFailure Json)
  | .enriched request result => some (request, result)
  | _ => none

/-- What came of writing the report on failures. -/
def saved? : Event → Option (Except Disk.OsError Unit)
  | .saved _ _ result => some result
  | _ => none

theorem source?_eq_some
    {event : Event}
    {file : Descriptor}
    {source : Except Analysis.Failure SourceText} :
    event.source? = some (file, source) ↔ event = .read file source := by
  cases event <;> simp [source?]

theorem saved?_eq_some
    {event : Event}
    {result : Except Disk.OsError Unit} :
    event.saved? = some result ↔ ∃ path report, event = .saved path report result := by
  cases event <;> simp [saved?]

end Event

/-! ## Calls for one file -/

/-- What a run calls to enrich a file under a key, and what comes of it. -/
inductive Enriching (pipeline : Pipeline) (file : Descriptor) (model : Model) (source : String)
    (key : Cache.Key) : Enrichment → List Event → Prop where
  | found {payload : Json} :
      Enriching pipeline file model source key (.cached payload) [.sought key (.ok (some payload))]
  | failed {found : Except Cache.Failure (Option Json)} {failure : EnrichmentFailure}
      (isMiss : ∀ payload, found ≠ .ok (some payload)) :
      Enriching pipeline file model source key (.failed failure.message)
        [.sought key found, .enriched (pipeline.request file model source) (.error failure)]
  | made {found : Except Cache.Failure (Option Json)} {payload : Json}
      {kept : Except Cache.Failure Unit}
      (isMiss : ∀ payload, found ≠ .ok (some payload)) :
      Enriching pipeline file model source key (.fresh payload)
        [.sought key found, .enriched (pipeline.request file model source) (.ok payload),
          .kept key payload pipeline.settings.cache.ttlSeconds
            (Pipeline.metadata file model source) kept]

/-- What a run calls for a file before it is reported, the report or the failure that ends
the run, and the log after that. -/
inductive Handling (pipeline : Pipeline) (file : Descriptor) (log : Log) :
    Except Analysis.Failure Report → Log → List Event → Prop where
  /-- The analysis fails, and that is the outcome. -/
  | failed {now : Instant} {source : Except Analysis.Failure SourceText}
      {failure : Analysis.Failure} {record : Record}
      (fails : pipeline.analyzer.failure? source = some failure)
      (continues : pipeline.analyzer.settings.continueOnError = true)
      (isCategory : record.category = Category.classify failure.message) :
      Handling pipeline file log
        (.ok { path := file.path, outcome := .ofFailure failure, enrichment := .skipped })
        (log.addRecord record) [.looked now, .read file source]
  /-- The analysis fails, and ends the run. -/
  | stopped {now : Instant} {source : Except Analysis.Failure SourceText}
      {failure : Analysis.Failure} {record : Record}
      (fails : pipeline.analyzer.failure? source = some failure)
      (stops : pipeline.analyzer.settings.continueOnError = false)
      (isCategory : record.category = Category.classify failure.message) :
      Handling pipeline file log (.error failure) (log.addRecord record)
        [.looked now, .read file source]
  /-- There is a model, but enrichment is turned off. -/
  | plain {now : Instant} {source : SourceText}
      (succeeds : pipeline.analyzer.failure? (.ok source) = none)
      (isDisabled : pipeline.settings.cache.enabled = false) :
      Handling pipeline file log
        (.ok {
          path := file.path
          outcome := pipeline.analyzer.outcome file.path (.ok source)
          enrichment := .disabled })
        log.addSuccess [.looked now, .read file (.ok source)]
  /-- There is a model, which is enriched. -/
  | enriched {now : Instant} {source : SourceText} {model : Model} {enrichment : Enrichment}
      {events : List Event}
      (succeeds : pipeline.analyzer.failure? (.ok source) = none)
      (isModel : pipeline.analyzer.model? file.path source = some model)
      (isEnabled : pipeline.settings.cache.enabled = true)
      (enriching : Enriching pipeline file model source.text
        (pipeline.keyInputs file.path model source.text).key enrichment events) :
      Handling pipeline file log
        (.ok {
          path := file.path
          outcome := pipeline.analyzer.outcome file.path (.ok source)
          key? := some (pipeline.keyInputs file.path model source.text).key
          enrichment })
        log.addSuccess (.looked now :: .read file (.ok source) :: events)

/-! ## Calls of a run -/

/-- What a run calls for files one after another, why it ends early if it does, and the log
after that. -/
inductive Taking (pipeline : Pipeline) :
    List Descriptor → Log → Option Failure → Log → List Event → Prop where
  | done {log : Log} : Taking pipeline [] log none log []
  | stopped {file : Descriptor} {rest : List Descriptor} {log after : Log}
      {failure : Analysis.Failure} {events : List Event}
      (handling : Handling pipeline file log (.error failure) after events) :
      Taking pipeline (file :: rest) log (some (.analysis failure)) after events
  | refused {file : Descriptor} {rest : List Descriptor} {log after : Log} {report : Report}
      {failure : DeliveryFailure} {events : List Event}
      (handling : Handling pipeline file log (.ok report) after events) :
      Taking pipeline (file :: rest) log (some (.delivery failure)) after
        (events ++ [.published file report (.error failure)])
  | taken {file : Descriptor} {rest : List Descriptor} {log after last : Log} {report : Report}
      {stopped? : Option Failure} {events others : List Event}
      (handling : Handling pipeline file log (.ok report) after events)
      (taking : Taking pipeline rest after stopped? last others) :
      Taking pipeline (file :: rest) log stopped? last
        (events ++ .published file report (.ok ()) :: others)

/-- What a run calls to write its report on failures, and what comes of it. -/
inductive Saving (pipeline : Pipeline) (log : Log) :
    Except Disk.OsError Unit → List Event → Prop where
  | unwanted
      (noPath : pipeline.settings.report.path? = none) :
      Saving pipeline log (.ok ()) []
  | attempted {path : String} {now : Instant} {elapsed : Nat} {result : Except Disk.OsError Unit}
      (isPath : pipeline.settings.report.path? = some path) :
      Saving pipeline log result
        [.looked now, .saved path (log.report pipeline.project now elapsed) result]

/-- What a run calls, what comes of it, and its log. -/
inductive Running (pipeline : Pipeline) (files : List Descriptor) :
    Except Failure Statistics → Log → List Event → Prop where
  /-- Not all files are taken; the report on failures is written all the same. -/
  | stopped {started : Instant} {failure : Failure} {log : Log}
      {saved : Except Disk.OsError Unit} {events saving : List Event}
      (taking : Taking pipeline files (Log.declareTotal {} files.length) (some failure) log events)
      (saves : Saving pipeline log saved saving) :
      Running pipeline files (.error failure) log (.looked started :: events ++ saving)
  /-- The report on failures cannot be written. -/
  | unsaved {started now : Instant} {log : Log} {error : Disk.OsError}
      {events saving : List Event}
      (taking : Taking pipeline files (Log.declareTotal {} files.length) none log events)
      (saves : Saving pipeline log (.error error) saving) :
      Running pipeline files (.error (.report error)) log
        (.looked started :: events ++ .looked now :: saving)
  /-- The statistics are given to the publisher. -/
  | finished {started now : Instant} {log : Log} {elapsed : Nat}
      {result : Except DeliveryFailure Unit} {events saving : List Event}
      (taking : Taking pipeline files (Log.declareTotal {} files.length) none log events)
      (saves : Saving pipeline log (.ok ()) saving) :
      Running pipeline files
        ((result.mapError .delivery).map fun _ => log.statistics elapsed) log
        (.looked started :: events ++
          .looked now :: saving ++ [.finished (log.statistics elapsed) result])

/-- What a run calls after its last file, and what comes of it. -/
inductive Concluding (pipeline : Pipeline) (log : Log) :
    Option Failure → Except Failure Statistics → List Event → Prop where
  | stopped {failure : Failure} {saved : Except Disk.OsError Unit} {saving : List Event}
      (saves : Saving pipeline log saved saving) :
      Concluding pipeline log (some failure) (.error failure) saving
  | unsaved {now : Instant} {error : Disk.OsError} {saving : List Event}
      (saves : Saving pipeline log (.error error) saving) :
      Concluding pipeline log none (.error (.report error)) (.looked now :: saving)
  | finished {now : Instant} {elapsed : Nat} {answer : Except DeliveryFailure Unit}
      {saving : List Event}
      (saves : Saving pipeline log (.ok ()) saving) :
      Concluding pipeline log none
        ((answer.mapError .delivery).map fun _ => log.statistics elapsed)
        (.looked now :: saving ++ [.finished (log.statistics elapsed) answer])

/-- A run takes its files, and then concludes. -/
theorem Running.split
    {pipeline : Pipeline}
    {files : List Descriptor}
    {log : Log}
    {events : List Event}
    {result : Except Failure Statistics}
    (running : Running pipeline files result log events) :
    ∃ started stopped? taken rest,
      events = .looked started :: (taken ++ rest) ∧
      Taking pipeline files (Log.declareTotal {} files.length) stopped? log taken ∧
      Concluding pipeline log stopped? result rest := by
  cases running with
  | stopped taking saves =>
      exact ⟨_, _, _, _, rfl, taking, .stopped saves⟩
  | unsaved taking saves =>
      exact ⟨_, _, _, _, rfl, taking, .unsaved saves⟩
  | finished taking saves =>
      exact ⟨_, _, _, _, List.append_assoc .., taking, .finished saves⟩

/-! ## What services that write down their calls do -/

namespace Pipeline

variable (pipeline : Pipeline)

/-- Making an enrichment is a request, and something to keep if there is a payload. -/
theorem enrichAnew_recorded
    {found : Except Cache.Failure (Option Json)}
    (isMiss : ∀ payload, found ≠ .ok (some payload))
    (services : Services σ)
    (key : Cache.Key)
    (file : Descriptor)
    (model : Model)
    (source : String)
    (state : σ)
    (transcript : Transcript σ) :
    ∃ enrichment after calls,
      pipeline.enrichAnew services.recorded key file model source (state, transcript) =
        (enrichment, after, transcript ++ calls) ∧
      Enriching pipeline file model source key enrichment
        (.sought key found :: calls.events) := by
  unfold enrichAnew
  rw [Services.recorded_enrich]
  dsimp only
  cases (services.enrich (pipeline.request file model source) state).1 with
  | error failure =>
      exact ⟨_, _, _, rfl, .failed isMiss⟩
  | ok payload =>
      exact ⟨_, _, [_, _], Prod.ext rfl (Prod.ext rfl (List.append_assoc ..)), .made isMiss⟩

/-- What is not found under a key is made. -/
theorem enrichWithKey_of_miss
    {services : Services σ}
    {key : Cache.Key}
    {state : σ}
    (isMiss : ∀ payload, (services.get key state).1 ≠ .ok (some payload))
    (file : Descriptor)
    (model : Model)
    (source : String) :
    pipeline.enrichWithKey services key file model source state =
      pipeline.enrichAnew services key file model source (services.get key state).2 := by
  unfold enrichWithKey
  generalize services.get key state = answer at isMiss ⊢
  rcases answer with ⟨_ | _ | payload, after⟩
  · rfl
  · rfl
  · exact absurd rfl (isMiss payload)

/-- Enriching under a key begins with looking it up. -/
theorem enrichWithKey_recorded
    (services : Services σ)
    (key : Cache.Key)
    (file : Descriptor)
    (model : Model)
    (source : String)
    (state : σ)
    (transcript : Transcript σ) :
    ∃ enrichment after calls,
      pipeline.enrichWithKey services.recorded key file model source (state, transcript) =
        (enrichment, after, transcript ++ calls) ∧
      Enriching pipeline file model source key enrichment calls.events := by
  let sought := (services.get key state).2
  by_cases isHit : ∃ payload, (services.get key state).1 = .ok (some payload)
  · obtain ⟨payload, isFound⟩ := isHit
    refine ⟨.cached payload, sought, [⟨.sought key (.ok (some payload)), state⟩], ?_, .found⟩
    rw [enrichWithKey, Services.recorded_get, isFound]
  · have isMiss : ∀ payload, (services.recorded.get key (state, transcript)).1 ≠
        .ok (some payload) :=
      not_exists.mp isHit
    let call : Call σ := ⟨.sought key (services.get key state).1, state⟩
    obtain ⟨enrichment, after, calls, isMade, enriching⟩ :=
      enrichAnew_recorded pipeline isMiss services key file model source sought
        (transcript ++ [call])
    rw [List.append_assoc] at isMade
    refine ⟨enrichment, after, call :: calls, ?_, enriching⟩
    rw [enrichWithKey_of_miss pipeline isMiss]
    exact isMade

/-- For every file one of the things that can happen happens. -/
theorem process_recorded
    (services : Services σ)
    (file : Descriptor)
    (log : Log)
    (state : σ)
    (transcript : Transcript σ) :
    ∃ result log' after calls,
      pipeline.process services.recorded file log (state, transcript) =
        (result, log', after, transcript ++ calls) ∧
      Handling pipeline file log result log' calls.events := by
  let now := (services.now state).1
  let ready := (services.now state).2
  let source := (services.read file ready).1
  let sought := (services.read file ready).2
  let begun : Transcript σ := [⟨.looked now, state⟩, ⟨.read file source, ready⟩]
  have isRead : services.recorded.read file (services.recorded.now (state, transcript)).2 =
      (source, sought, transcript ++ begun) :=
    Prod.ext rfl (Prod.ext rfl (List.append_assoc ..))
  have isNow : (services.recorded.now (state, transcript)).1 = now := rfl
  unfold process
  simp only [isNow, isRead]
  cases isFailure : pipeline.analyzer.failure? source with
  | some failure =>
      obtain ⟨record, isCategory, isAnalyzed⟩ :=
        Analyzer.analyzeRead_of_failure? isFailure file.path file.sizeBytes now log
      rw [isAnalyzed]
      cases continues : pipeline.analyzer.settings.continueOnError with
      | true =>
          exact ⟨_, _, _, begun, rfl, .failed isFailure continues isCategory⟩
      | false =>
          exact ⟨_, _, _, begun, rfl, .stopped isFailure continues isCategory⟩
  | none =>
      obtain ⟨text, model, isSource, isModel, hasModel⟩ :=
        Analyzer.exists_model_of_failure? isFailure file.path
      have isBegun : begun.events = [.looked now, .read file (.ok text)] := by
        rw [← isSource]
        rfl
      rw [isSource] at isFailure hasModel ⊢
      rw [Analyzer.analyzeRead_ok isFailure]
      dsimp only [enrich]
      rw [hasModel]
      dsimp only
      cases isEnabled : pipeline.settings.cache.enabled with
      | false =>
          exact ⟨_, _, _, begun, rfl, isBegun ▸ .plain isFailure isEnabled⟩
      | true =>
          obtain ⟨enrichment, after, calls, isEnriched, enriching⟩ :=
            enrichWithKey_recorded pipeline services
              (pipeline.keyInputs file.path model text.text).key file model text.text sought
              (transcript ++ begun)
          simp only [if_true, isEnriched]
          refine ⟨_, _, after, begun ++ calls, by rw [List.append_assoc], ?_⟩
          rw [Transcript.events_append, isBegun]
          exact .enriched isFailure isModel isEnabled enriching

/-- Files are taken one after another until the run has to end early. -/
theorem processAll_recorded
    (services : Services σ)
    (files : List Descriptor)
    (log : Log)
    (state : σ)
    (transcript : Transcript σ) :
    ∃ stopped? log' after calls,
      pipeline.processAll services.recorded files log (state, transcript) =
        (stopped?, log', after, transcript ++ calls) ∧
      Taking pipeline files log stopped? log' calls.events := by
  induction files generalizing log state transcript with
  | nil =>
      exact ⟨none, log, state, [], by rw [List.append_nil]; rfl, .done⟩
  | cons file rest inductionHypothesis =>
      obtain ⟨result, log', processed, calls, isProcessed, handling⟩ :=
        process_recorded pipeline services file log state transcript
      unfold processAll
      rw [isProcessed]
      cases result with
      | error failure =>
          exact ⟨_, _, processed, calls, rfl, .stopped handling⟩
      | ok report =>
          let delivered := (services.publish file report processed).1
          let published := (services.publish file report processed).2
          let call : Call σ := ⟨.published file report delivered, processed⟩
          have publishes :
              services.recorded.publish file report (processed, transcript ++ calls) =
                (delivered, published, transcript ++ calls ++ [call]) :=
            services.recorded_publish _ file report
          dsimp only
          rw [publishes]
          cases isDelivered : delivered with
          | error failure =>
              refine ⟨_, _, published, calls ++ [call], by rw [List.append_assoc], ?_⟩
              rw [Transcript.events_append]
              have isCall : Transcript.events [call] = [.published file report (.error failure)] :=
                isDelivered ▸ rfl
              rw [isCall]
              exact .refused handling
          | ok _ =>
              obtain ⟨stopped?, last, after, others, areTaken, taking⟩ :=
                inductionHypothesis log' published (transcript ++ calls ++ [call])
              refine ⟨stopped?, last, after, calls ++ call :: others, ?_, ?_⟩
              · dsimp only
                rw [areTaken, List.append_assoc, List.append_assoc]
                rfl
              · have isCall : call.event = .published file report (.ok ()) := isDelivered ▸ rfl
                rw [Transcript.events_append, Transcript.events, Transcript.events, List.map_cons,
                  isCall]
                exact .taken handling taking

theorem saveReport_recorded
    (services : Services σ)
    (started : Instant)
    (log : Log)
    (state : σ)
    (transcript : Transcript σ) :
    ∃ result after calls,
      pipeline.saveReport services.recorded started log (state, transcript) =
        (result, after, transcript ++ calls) ∧
      Saving pipeline log result calls.events := by
  unfold saveReport
  cases isPath : pipeline.settings.report.path? with
  | none =>
      exact ⟨_, state, [], by rw [List.append_nil], .unwanted isPath⟩
  | some path =>
      exact ⟨_, _, [_, _], Prod.ext rfl (Prod.ext rfl (List.append_assoc ..)), .attempted isPath⟩

/-- After the last file the report on failures is written, and the statistics are given to
the publisher unless that fails. -/
theorem finish_recorded
    (services : Services σ)
    (started : Instant)
    (log : Log)
    (state : σ)
    (transcript : Transcript σ) :
    ∃ now result after saving calls,
      pipeline.finish services.recorded started log (state, transcript) =
        (result, after, transcript ++ calls) ∧
      ((∃ error, Saving pipeline log (.error error) saving ∧ result = .error (.report error) ∧
          calls.events = .looked now :: saving) ∨
        ∃ elapsed delivered, Saving pipeline log (.ok ()) saving ∧
          result = (delivered.mapError .delivery).map (fun _ => log.statistics elapsed) ∧
          calls.events = .looked now :: saving ++
            [.finished (log.statistics elapsed) delivered]) := by
  let now := (services.now state).1
  let elapsed := millisecondsBetween started now
  have isNow : services.recorded.now (state, transcript) =
      (now, (services.now state).2, transcript ++ [⟨.looked now, state⟩]) :=
    rfl
  obtain ⟨saved, after, calls, isSaved, saves⟩ :=
    saveReport_recorded pipeline services started log (services.now state).2
      (transcript ++ [⟨.looked now, state⟩])
  rw [List.append_assoc] at isSaved
  refine ⟨now, ?_⟩
  simp only [finish, isNow, isSaved]
  cases saved with
  | error error =>
      exact ⟨_, after, calls.events, ⟨.looked now, state⟩ :: calls, rfl,
        .inl ⟨error, saves, rfl, rfl⟩⟩
  | ok _ =>
      let delivered := (services.finish (log.statistics elapsed) after).1
      let last := (services.finish (log.statistics elapsed) after).2
      let call : Call σ := ⟨.finished (log.statistics elapsed) delivered, after⟩
      have finishes :
          services.recorded.finish (log.statistics elapsed)
              (after, transcript ++ ([⟨.looked now, state⟩] ++ calls)) =
            (delivered, last, transcript ++ (⟨.looked now, state⟩ :: calls ++ [call])) :=
        Prod.ext rfl (Prod.ext rfl (List.append_assoc ..))
      dsimp only
      rw [finishes]
      have isCall : Transcript.events (⟨.looked now, state⟩ :: calls ++ [call]) =
          .looked now :: calls.events ++ [.finished (log.statistics elapsed) delivered] :=
        Transcript.events_append _ _
      cases isDelivered : delivered with
      | error failure =>
          exact ⟨_, last, calls.events, _, rfl,
            .inr ⟨elapsed, .error failure, saves, rfl, isDelivered ▸ isCall⟩⟩
      | ok _ =>
          exact ⟨_, last, calls.events, _, rfl,
            .inr ⟨elapsed, .ok (), saves, rfl, isDelivered ▸ isCall⟩⟩

/-- A run that is written down does one of the things that can happen. -/
theorem run_recorded
    (services : Services σ)
    (files : List Descriptor)
    (state : σ) :
    Running pipeline files (pipeline.run services.recorded files (state, [])).result
      (pipeline.run services.recorded files (state, [])).log
      (pipeline.run services.recorded files (state, [])).state.2.events := by
  let started := (services.now state).1
  have isStarted : services.recorded.now (state, []) =
      (started, (services.now state).2, [⟨.looked started, state⟩]) :=
    rfl
  obtain ⟨stopped?, log, after, calls, areTaken, taking⟩ :=
    processAll_recorded pipeline services files (Log.declareTotal {} files.length)
      (services.now state).2 [⟨.looked started, state⟩]
  simp only [run, isStarted, areTaken]
  cases stopped? with
  | some failure =>
      obtain ⟨saved, last, saving, isSaved, saves⟩ :=
        saveReport_recorded pipeline services started log after
          ([⟨.looked started, state⟩] ++ calls)
      dsimp only
      rw [isSaved, Transcript.events_append, Transcript.events_append]
      exact .stopped taking saves
  | none =>
      obtain ⟨now, result, last, saving, ending, isFinished, ends⟩ :=
        finish_recorded pipeline services started log after
          ([⟨.looked started, state⟩] ++ calls)
      dsimp only
      rw [isFinished, Transcript.events_append, Transcript.events_append]
      rcases ends with ⟨error, saves, rfl, isEnding⟩ | ⟨elapsed, delivered, saves, rfl, isEnding⟩
      · rw [isEnding]
        exact .unsaved taking saves
      · rw [isEnding, ← List.append_assoc]
        exact .finished taking saves

end Pipeline

/-! ## Genuine calls -/

/-- What came of a call is what the services do in the state before it. -/
def Call.IsGenuine (services : Services σ) (call : Call σ) : Prop :=
  match call.event with
  | .looked now => (services.now call.before).1 = now
  | .read file source => (services.read file call.before).1 = source
  | .sought key found => (services.get key call.before).1 = found
  | .kept key payload ttl source result =>
      (services.put key payload ttl source call.before).1 = result
  | .enriched request result => (services.enrich request call.before).1 = result
  | .published file report result => (services.publish file report call.before).1 = result
  | .finished statistics result => (services.finish statistics call.before).1 = result
  | .saved path report result => (services.save path report call.before).1 = result

/-- Writing a call down after genuine ones keeps them so if it is genuine. -/
theorem keeps_isGenuine
    {services : Services σ}
    {effect : Effect σ α}
    {event : α → Event}
    (isGenuine : ∀ state, Call.IsGenuine services ⟨event (effect state).1, state⟩) :
    Keeps (fun state : σ × Transcript σ => ∀ call ∈ state.2, call.IsGenuine services)
      (observe (fun event before transcript => transcript ++ [⟨event, before⟩]) effect event) :=
  fun state holds =>
    List.forall_mem_append.mpr ⟨holds, List.forall_mem_singleton.mpr (isGenuine state.1)⟩

/-- Services that write down their calls only write down genuine ones. -/
theorem Services.recorded_keep (services : Services σ) :
    services.recorded.Keep fun state => ∀ call ∈ state.2, call.IsGenuine services where
  now := keeps_isGenuine fun _ => rfl
  read _ := keeps_isGenuine fun _ => rfl
  get _ := keeps_isGenuine fun _ => rfl
  put _ _ _ _ := keeps_isGenuine fun _ => rfl
  enrich _ := keeps_isGenuine fun _ => rfl
  publish _ _ := keeps_isGenuine fun _ => rfl
  finish _ := keeps_isGenuine fun _ => rfl
  save _ _ := keeps_isGenuine fun _ => rfl

namespace Pipeline

/-- What a run calls, written down. -/
def transcript (pipeline : Pipeline) (services : Services σ) (files : List Descriptor)
    (state : σ) : Transcript σ :=
  (pipeline.run services.recorded files (state, [])).state.2

/-- The calls of a run are genuine. -/
theorem isGenuine_of_mem_transcript
    {pipeline : Pipeline}
    {services : Services σ}
    {files : List Descriptor}
    {state : σ}
    {call : Call σ}
    (isCall : call ∈ pipeline.transcript services files state) :
    call.IsGenuine services :=
  run_keeps pipeline services.recorded_keep files
    (fun _ isEarlier => absurd isEarlier List.not_mem_nil) call isCall

/-- A run whose calls are written down comes to the same. -/
theorem run_eq_recorded
    (pipeline : Pipeline)
    (services : Services σ)
    (files : List Descriptor)
    (state : σ) :
    pipeline.run services files state =
      (pipeline.run services.recorded files (state, [])).seen Prod.fst :=
  (pipeline.run_observed services _ files state []).symm

/-- A run does one of the things that can happen. -/
theorem running
    (pipeline : Pipeline)
    (services : Services σ)
    (files : List Descriptor)
    (state : σ) :
    Running pipeline files (pipeline.run services files state).result
      (pipeline.run services files state).log
      (pipeline.transcript services files state).events := by
  rw [run_eq_recorded]
  exact run_recorded pipeline services files state

end Pipeline

end SourceFacts.Run
