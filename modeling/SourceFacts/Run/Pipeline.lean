import SourceFacts.Cache.Key
import SourceFacts.Run.Services
import SourceFacts.Text.Pieces

namespace SourceFacts.Run

/-!
# Runs

A run takes files one by one, in order: each is analysed, enriched and reported. An
enrichment that is kept under the key of a file is used again; that one cannot be
found, made or kept only shows in the report. A run ends early when a file cannot be
analysed and failures are to end it, or when a report cannot be delivered. In any
case the failures that it met with are written to a report of their own, if there is
a path for it.
-/

open Analysis Config Facts Failures Time

/-- What is fixed about a run. -/
structure Pipeline where
  settings : Settings
  analyzer : Analyzer
  /-- The name of the configuration of what makes enrichments. -/
  configId : String
  /-- The project as it is called in the report on failures. -/
  project : String := "."
deriving Inhabited

/-- The pipeline that settings choose. -/
def Pipeline.ofSettings (settings : Settings) (configId : String) : Pipeline where
  settings
  analyzer := { settings := settings.analysis }
  configId

/-- How a run ended. -/
structure Ending (σ : Type) where
  result : Except Failure Statistics
  log : Log
  state : σ

/-- The milliseconds between two moments. -/
def millisecondsBetween (start finish : Instant) : Nat :=
  ((finish.toNanoseconds - start.toNanoseconds) / 1000000).toNat

namespace Pipeline

/-! ## Enrichment -/

/-- What the key of a file stands for. -/
def keyInputs (pipeline : Pipeline) (path : String) (model : Model) (source : String) :
    Cache.KeyInputs where
  content := Text.encode source
  configId := pipeline.configId
  signature := Cache.signature model
  schemaVersion := pipeline.settings.cache.schemaVersion
  path? := if pipeline.settings.cache.includePathInKey then some path else none

/-- What the enrichment of a file is made from. -/
def request (pipeline : Pipeline) (file : Descriptor) (model : Model) (source : String) :
    Request where
  file
  model
  excerpt := Text.cut pipeline.settings.analysis.excerptMaxBytes.toNat source

/-- What is kept about the source of an enrichment. -/
def metadata (file : Descriptor) (model : Model) (source : String) : Cache.SourceMetadata where
  path := file.path
  sizeBytes := UInt64.ofNat source.utf8ByteSize
  lineCount := model.lineCount
  language := file.language.name

/-- Makes an enrichment and keeps it under a key. -/
def enrichAnew (pipeline : Pipeline) (services : Services σ) (key : Cache.Key)
    (file : Descriptor) (model : Model) (source : String) : Effect σ Enrichment := fun state =>
  match services.enrich (pipeline.request file model source) state with
  | (.error failure, state) => (.failed failure.message, state)
  | (.ok payload, state) =>
      let ttl := pipeline.settings.cache.ttlSeconds
      (.fresh payload, (services.put key payload ttl (metadata file model source) state).2)

/-- The enrichment under a key, or else a new one. -/
def enrichWithKey (pipeline : Pipeline) (services : Services σ) (key : Cache.Key)
    (file : Descriptor) (model : Model) (source : String) : Effect σ Enrichment := fun state =>
  match services.get key state with
  | (.ok (some payload), state) => (.cached payload, state)
  | (.ok none, state) | (.error _, state) =>
      pipeline.enrichAnew services key file model source state

/-- The key and the enrichment of an analysed file. -/
def enrich (pipeline : Pipeline) (services : Services σ) (file : Descriptor)
    (analyzed : Analyzed) : Effect σ (Option Cache.Key × Enrichment) := fun state =>
  match analyzed.outcome.model?, analyzed.source? with
  | some model, some source =>
      if pipeline.settings.cache.enabled then
        let key := (pipeline.keyInputs file.path model source).key
        let (enrichment, state) := pipeline.enrichWithKey services key file model source state
        ((some key, enrichment), state)
      else ((none, .disabled), state)
  | _, _ => ((none, .skipped), state)

/-! ## Files -/

/-- Analyses and enriches a file. -/
def process (pipeline : Pipeline) (services : Services σ) (file : Descriptor) (log : Log)
    (state : σ) : Except Analysis.Failure Report × Log × σ :=
  let (now, state) := services.now state
  let (source, state) := services.read file state
  match pipeline.analyzer.analyzeRead file.path file.sizeBytes source now log with
  | (.error failure, log) => (.error failure, log, state)
  | (.ok analyzed, log) =>
      let ((key?, enrichment), state) := pipeline.enrich services file analyzed state
      (.ok { path := file.path, outcome := analyzed.outcome, key?, enrichment }, log, state)

/-- Takes files until the run has to end early. -/
def processAll (pipeline : Pipeline) (services : Services σ) :
    List Descriptor → Log → σ → Option Failure × Log × σ
  | [], log, state => (none, log, state)
  | file :: rest, log, state =>
      match pipeline.process services file log state with
      | (.error failure, log, state) => (some (.analysis failure), log, state)
      | (.ok report, log, state) =>
          match services.publish file report state with
          | (.error failure, state) => (some (.delivery failure), log, state)
          | (.ok (), state) => pipeline.processAll services rest log state

/-! ## Runs -/

/-- Writes the report on failures, if there is a path for it. -/
def saveReport (pipeline : Pipeline) (services : Services σ) (started : Instant) (log : Log) :
    Effect σ (Except Disk.OsError Unit) := fun state =>
  match pipeline.settings.report.path? with
  | none => (.ok (), state)
  | some path =>
      let (now, state) := services.now state
      services.save path (log.report pipeline.project now (millisecondsBetween started now)) state

/-- What remains to be done after the last file. -/
def finish (pipeline : Pipeline) (services : Services σ) (started : Instant) (log : Log)
    (state : σ) : Except Failure Statistics × σ :=
  let (now, state) := services.now state
  let statistics := log.statistics (millisecondsBetween started now)
  match pipeline.saveReport services started log state with
  | (.error error, state) => (.error (.report error), state)
  | (.ok (), state) =>
      match services.finish statistics state with
      | (.error failure, state) => (.error (.delivery failure), state)
      | (.ok (), state) => (.ok statistics, state)

/-- Takes all files. -/
def run (pipeline : Pipeline) (services : Services σ) (files : List Descriptor) (state : σ) :
    Ending σ :=
  let (started, state) := services.now state
  match pipeline.processAll services files (Log.declareTotal {} files.length) state with
  | (some failure, log, state) =>
      { result := .error failure
        log
        state := (pipeline.saveReport services started log state).2 }
  | (none, log, state) =>
      let (result, state) := pipeline.finish services started log state
      { result, log, state }

end Pipeline

end SourceFacts.Run
