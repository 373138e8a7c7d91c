import SourceFacts.Proofs.Disk.Operations
import SourceFacts.Proofs.Run.Lockstep
import SourceFacts.Proofs.Run.Reuse
import SourceFacts.Proofs.Run.Treatments

namespace SourceFacts.Run

/-!
# What is told about a run

A run accounts for its files, and it delivers what it finds unless its report on failures cannot be
written.
-/

/-!
## What a run accounts for

A pipeline that goes on after failures reports every file, one after another, and then tells
the publisher the statistics that it returns. They account for the outcomes that were reported,
and for nothing that an earlier run has left behind.
-/

open Analysis Facts Failures

/-- What is left of a pipeline between its runs. -/
structure Session (σ : Type) where
  /-- The log of the last run. -/
  log : Log := {}
  state : σ

namespace Session

/-- A run of a pipeline in a session, which replaces the log that it finds. -/
def run (pipeline : Pipeline) (services : Services σ) (files : List Descriptor)
    (session : Session σ) : Except Failure Statistics × Session σ :=
  let ending := pipeline.run services files session.state
  (ending.result, { log := ending.log, state := ending.state })

/-- What a run in a session calls. -/
def transcript (pipeline : Pipeline) (services : Services σ) (files : List Descriptor)
    (session : Session σ) : Transcript σ :=
  pipeline.transcript services files session.state

/-- A run accounts for its files with the statistics that it returns. -/
structure Accounts (pipeline : Pipeline) (services : Services σ) (files : List Descriptor)
    (session : Session σ) (treatments : List Treatment) (statistics : Statistics) : Prop where
  /-- What was called came to what the services do. -/
  genuine : ∀ call ∈ session.transcript pipeline services files, call.IsGenuine services
  completes : Completes pipeline files (session.transcript pipeline services files).events
    treatments
  /-- The publisher is given the report on each file, and then the statistics. -/
  deliveries : (session.transcript pipeline services files).events.filterMap (·.delivery?) =
    reported treatments ++ [.statistics statistics]
  result : (session.run pipeline services files).1 = .ok statistics
  statistics : statistics.Accounts files.length (outcomes treatments)
  /-- It does not matter what earlier runs have met with. -/
  independent : ∀ log, { session with log }.run pipeline services files =
    session.run pipeline services files

/-- If failures do not end a run, its publisher takes everything and its report on failures,
if there is to be one, can be written, then the run accounts for its files. -/
theorem run_accounts
    {pipeline : Pipeline}
    {services : Services σ}
    (accepts : services.Accepts)
    (continues : pipeline.analyzer.settings.continueOnError = true)
    (files : List Descriptor)
    (session : Session σ)
    (written : ∀ saved ∈ (session.transcript pipeline services files).events.filterMap (·.saved?),
      saved = .ok ()) :
    ∃ treatments statistics,
      session.Accounts pipeline services files treatments statistics := by
  obtain ⟨treatments, finishes⟩ := run_finishes accepts continues files session.state
  refine ⟨treatments, ?_⟩
  generalize isResult : (pipeline.run services files session.state).result = result at finishes
  cases finishes with
  | @unsaved error _ completes isSaved deliveries =>
      have isOk := written (.error error) (isSaved ▸ List.mem_singleton_self _)
      exact absurd isOk (by simp)
  | @finished _ elapsed completes isSaved deliveries =>
      have isTotal : (outcomes treatments).length = files.length := by
        rw [outcomes, List.length_map, ← completes.files, List.length_map]
      exact ⟨_, {
        genuine := fun call isCall => Pipeline.isGenuine_of_mem_transcript isCall
        completes
        deliveries
        result := isResult
        statistics := isTotal ▸ Statistics.accounts_ofOutcomes _ elapsed
        independent := fun _ => rfl }⟩

/-- A run over a file that is there and one that is not accounts for both. -/
theorem run_accounts_twins :
    ∃ treatments statistics,
      Session.Accounts (Pipeline.ofSettings { cache := topCache } "constant")
        (Workspace.services {} constantEnricher patientPublisher)
        [{ path := "a.py", sizeBytes := 0 }, { path := "c.py", sizeBytes := 0 }]
        { state := twins } treatments statistics := by
  have accepts : patientPublisher.Accepts := ⟨fun _ _ _ => rfl, fun _ _ => rfl⟩
  refine run_accounts (accepts.services {} constantEnricher) rfl _ _ ?_
  intro saved isSaved
  obtain ⟨event, isEvent, isShown⟩ := List.mem_filterMap.mp isSaved
  obtain ⟨path, report, rfl⟩ := Event.saved?_eq_some.mp isShown
  exact absurd ((Pipeline.running _ _ _ _).path?_of_saved isEvent) (by simp [Pipeline.ofSettings])

end Session

end SourceFacts.Run

namespace SourceFacts.Run

/-!
## What can keep a run from delivering its statistics

Whatever fails while files are read, looked up, enriched and stored, a pipeline that goes on
after failures reports all of them. But the report on failures is written before the
statistics are delivered: if that fails, the run fails, and the publisher never gets them.
-/

open Analysis Disk Facts Failures Time

/-- A run reports every file. What becomes of its statistics is decided by the report on
failures. -/
structure Delivers (pipeline : Pipeline) (services : Services σ) (files : List Descriptor)
    (state : σ) (treatments : List Treatment) : Prop where
  completes : Completes pipeline files (pipeline.transcript services files state).events treatments
  /-- If the report on failures is written, or there is to be none, the publisher is given the
  statistics once, after the last file, and they are returned. -/
  written :
    (∀ saved ∈ (pipeline.transcript services files state).events.filterMap (·.saved?),
      saved = .ok ()) →
    ∃ statistics : Statistics, statistics.Accounts files.length (outcomes treatments) ∧
      (pipeline.run services files state).result = .ok statistics ∧
      (pipeline.transcript services files state).events.filterMap (·.delivery?) =
        reported treatments ++ [.statistics statistics]
  /-- If it cannot be written, the run fails for that reason, and the publisher is given
  nothing after the last file. -/
  unwritten : ∀ error,
    .error error ∈ (pipeline.transcript services files state).events.filterMap (·.saved?) →
    (pipeline.run services files state).result = .error (.report error) ∧
      (pipeline.transcript services files state).events.filterMap (·.delivery?) =
        reported treatments

/-- If failures do not end a run and its publisher takes everything, then nothing else that
fails keeps it from reporting every file, and only the report on failures keeps it from
delivering its statistics. -/
theorem run_delivers
    {pipeline : Pipeline}
    {services : Services σ}
    (accepts : services.Accepts)
    (continues : pipeline.analyzer.settings.continueOnError = true)
    (files : List Descriptor)
    (state : σ) :
    ∃ treatments, Delivers pipeline services files state treatments := by
  obtain ⟨treatments, finishes⟩ := run_finishes accepts continues files state
  refine ⟨treatments, ?_⟩
  generalize isResult : (pipeline.run services files state).result = result at finishes
  cases finishes with
  | @unsaved error _ completes isSaved deliveries =>
      refine ⟨completes, ?_, ?_⟩
      · intro written
        have isOk := written (.error error) (isSaved ▸ List.mem_singleton_self _)
        exact absurd isOk (by simp)
      · intro other isOther
        rw [isSaved, List.mem_singleton] at isOther
        obtain rfl := Except.error.inj isOther
        exact ⟨isResult, deliveries⟩
  | @finished _ elapsed completes isSaved deliveries =>
      have isTotal : (outcomes treatments).length = files.length := by
        rw [outcomes, List.length_map, ← completes.files, List.length_map]
      refine ⟨completes, ?_, ?_⟩
      · intro _
        exact ⟨_, isTotal ▸ Statistics.accounts_ofOutcomes _ elapsed, isResult, deliveries⟩
      · intro error isError
        exact absurd (isSaved _ isError) (by simp)

/-! ### A report on failures that cannot be written -/

/-- Settings with a report on failures in a directory, and no store. -/
def loggingPipeline : Pipeline :=
  .ofSettings { cache := { enabled := false }, report := { path? := some "log/errors.json" } }
    "constant"

/-- A workspace with a file in place of the directory of the report on failures. -/
def obstructed : Workspace Unit Unit where
  disk := { entries := [(["a.py"], .file [] {}), (["log"], .file [] {})] }
  store := .ofSettings topCache
  enricher := ()
  publisher := ()

/-- There is no directory for the report on failures. -/
theorem saveReport_obstructed
    (report : Json)
    (tag : String)
    (now : Instant) :
    saveReport obstructed.disk "log/errors.json" report tag now =
      (.error .alreadyExists, obstructed.disk) := by
  have isName : IsName "log" := by decide
  have isFile : obstructed.disk.node? (([] : Place) ++ ["log"]) = some (.file [] {}) := rfl
  have isParent : (Path.parent? "log/errors.json").getD "" = "log" := by decide
  have leads : ∀ followsLast, obstructed.disk.destination followsLast "log" =
      .ok (.found ["log"] (.file [] {})) := by
    intro followsLast
    rw [destination_of_isFollowed isName.isFollowed, Path.steps_of_isName isName]
    exact follow_file isName isFile
  have isTaken : obstructed.disk.ensureDirectory "log" =
      (.error .alreadyExists, obstructed.disk) := by
    have isWhole : withoutSlashes "log" = "log" := by decide
    simp [ensureDirectory, createDirectory, isDirectory, find, isWhole, leads]
  have cannot : obstructed.disk.createDirectories "log" =
      (.error .alreadyExists, obstructed.disk) := by
    rw [createDirectories, if_neg (by decide)]
    show obstructed.disk.ensureWithin 3 "log" = _
    rw [ensureWithin, isTaken]
  rw [saveReport, isParent, cannot]

section WithoutStore

variable {pipeline : Pipeline} (settings : Config.AnalysisSettings) (enricher : Enricher ε)
  (publisher : Publisher π)

/-- Without a store, a file is processed without changing anything but the clock. -/
theorem process_alike
    (isDisabled : pipeline.settings.cache.enabled = false)
    (file : Descriptor)
    (log : Log)
    (workspace : Workspace ε π) :
    Alike workspace
      (pipeline.process (Workspace.services settings enricher publisher) file log
        workspace).2.2 := by
  have unchanged : ∀ analyzed state,
      (pipeline.enrich (Workspace.services settings enricher publisher) file analyzed state).2 =
        state := by
    intro analyzed state
    unfold Pipeline.enrich
    split
    · rw [isDisabled]
      rfl
    · rfl
  simp only [Pipeline.process]
  split
  · exact ⟨rfl, rfl, rfl, rfl⟩
  · dsimp only
    rw [unchanged]
    exact ⟨rfl, rfl, rfl, rfl⟩

/-- Without a store, files are taken without changing anything but the clock and the publisher. -/
theorem processAll_alike
    (isDisabled : pipeline.settings.cache.enabled = false)
    (files : List Descriptor)
    (log : Log)
    (workspace : Workspace ε π) :
    Alike workspace
      (pipeline.processAll (Workspace.services settings enricher publisher) files log
        workspace).2.2 := by
  induction files generalizing log workspace with
  | nil =>
      exact .refl workspace
  | cons file rest inductionHypothesis =>
      have processed := process_alike settings enricher publisher isDisabled file log workspace
      unfold Pipeline.processAll
      generalize pipeline.process (Workspace.services settings enricher publisher) file log
        workspace = ending at processed ⊢
      obtain ⟨result, log', after⟩ := ending
      cases result with
      | error failure =>
          exact processed
      | ok report =>
          let delivery := publisher.publish file report after.publisher
          have publishes :
              (Workspace.services settings enricher publisher).publish file report after =
                (delivery.1, { after with publisher := delivery.2 }) :=
            rfl
          have published : Alike after { after with publisher := delivery.2 } :=
            ⟨rfl, rfl, rfl, rfl⟩
          dsimp only
          rw [publishes]
          cases delivery.1 with
          | error failure =>
              exact processed.trans published
          | ok _ =>
              exact (processed.trans published).trans (inductionHypothesis log' _)

end WithoutStore

/-- What a run with a report on failures does in the workspace. -/
def loggingServices : Services (Workspace Unit Unit) :=
  Workspace.services {} constantEnricher patientPublisher

/-- What remains after the last file fails because the report on failures cannot be
written. -/
theorem finish_obstructed
    {workspace : Workspace Unit Unit}
    (sameDisk : workspace.disk = obstructed.disk)
    (started : Instant)
    (log : Log) :
    (loggingPipeline.finish loggingServices started log workspace).1 =
      .error (.report .alreadyExists) := by
  let ready := (Workspace.now workspace).2
  have cannotSave : (loggingPipeline.saveReport loggingServices started log ready).1 =
      .error .alreadyExists := by
    have isDisk : (Workspace.now ready).2.disk = obstructed.disk := sameDisk
    show (saveReport (Workspace.now ready).2.disk "log/errors.json" _ _ _).1 = _
    rw [isDisk, saveReport_obstructed]
  have isNow : (loggingServices.now workspace).2 = ready := rfl
  simp only [Pipeline.finish, isNow]
  generalize loggingPipeline.saveReport loggingServices started log ready = saved at cannotSave ⊢
  obtain ⟨result, after⟩ := saved
  obtain rfl : result = .error .alreadyExists := cannotSave
  rfl

/-- A run whose report on failures cannot be written does not succeed. -/
theorem run_obstructed
    (files : List Descriptor)
    (statistics : Statistics) :
    (loggingPipeline.run loggingServices files obstructed).result ≠ .ok statistics := by
  have sameDisk : (loggingPipeline.processAll loggingServices files
      (Log.declareTotal {} files.length) (loggingServices.now obstructed).2).2.2.disk =
        obstructed.disk :=
    (processAll_alike {} constantEnricher patientPublisher rfl files _ _).disk.symm
  simp only [Pipeline.run]
  generalize loggingPipeline.processAll loggingServices files (Log.declareTotal {} files.length)
    (loggingServices.now obstructed).2 = ending at sameDisk ⊢
  obtain ⟨stopped?, log, after⟩ := ending
  cases stopped? with
  | some failure =>
      simp
  | none =>
      dsimp only
      rw [finish_obstructed sameDisk]
      simp

theorem accepts_loggingServices : loggingServices.Accepts :=
  Publisher.Accepts.services ⟨fun _ _ _ => rfl, fun _ _ => rfl⟩ {} constantEnricher

/-- A run whose report on failures cannot be written reports its file. -/
theorem run_delivers_obstructed :
    ∃ treatments, Delivers loggingPipeline loggingServices [{ path := "a.py", sizeBytes := 0 }]
      obstructed treatments :=
  run_delivers accepts_loggingServices rfl _ _

/-- A run over a file fails if its report on failures cannot be written, though failures do not
end it and its publisher takes everything: the file is reported, but nobody gets the
statistics. -/
theorem exists_statistics_undelivered :
    ∃ treatments error,
      loggingServices.Accepts ∧
      loggingPipeline.analyzer.settings.continueOnError = true ∧
      (loggingPipeline.run loggingServices [{ path := "a.py", sizeBytes := 0 }]
        obstructed).result = .error (.report error) ∧
      treatments.map (·.file) = [{ path := "a.py", sizeBytes := 0 }] ∧
      (loggingPipeline.transcript loggingServices [{ path := "a.py", sizeBytes := 0 }]
        obstructed).events.filterMap (·.delivery?) = reported treatments := by
  have continues : loggingPipeline.analyzer.settings.continueOnError = true := rfl
  obtain ⟨treatments, finishes⟩ := run_finishes accepts_loggingServices continues
    [{ path := "a.py", sizeBytes := 0 }] obstructed
  generalize isResult : (loggingPipeline.run loggingServices [{ path := "a.py", sizeBytes := 0 }]
    obstructed).result = result at finishes
  cases finishes with
  | unsaved completes _ deliveries =>
      exact ⟨treatments, _, accepts_loggingServices, continues, rfl, completes.files, deliveries⟩
  | finished =>
      exact absurd isResult (run_obstructed _ _)

end SourceFacts.Run
