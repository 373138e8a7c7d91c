import SourceFacts.Proofs.Disk.Directories
import SourceFacts.Proofs.Run.Containment
import SourceFacts.Proofs.Run.Faults

namespace SourceFacts.Run

/-!
# Runs that withstand faults of their store

A run whose store fails every now and then is compared with one whose store works. As long as
calls of the store do not change what is read of the files, both tell the same about them: what
cannot be found is made again, and what cannot be kept is used all the same.
-/

open Analysis Cache Config Disk Facts Failures Time

/-! ## Two runs -/

/-- An enricher that has something to say about every file. -/
def Enricher.Succeeds (enricher : Enricher ε) : Prop :=
  ∀ request state, ∃ payload, (enricher.enrich request state).1 = .ok payload

/-- Right before a report was published, its payload was found in the store under its key, in
an entry that was fresh. -/
def IsHit (transcript : Transcript (Troubled ε π)) (file : Descriptor) (report : Report)
    (answer : Except DeliveryFailure Unit) (payload : Json) : Prop :=
  ∃ key before after entry,
    [⟨.sought key (.ok (some payload)), before⟩, ⟨.published file report answer, after⟩] <:+:
      transcript ∧
    report.key? = some key ∧ (before.1.get key).1 = .ok (some entry) ∧
    entry.payload = payload ∧ entry.key = key ∧
    entry.isExpiredAt before.1.clock.read.1 = false

/-- A run whose store fails every now and then is compared with one whose store works. -/
structure Withstands (pipeline : Pipeline) (settings : AnalysisSettings) (enricher : Enricher ε)
    (publisher : Publisher π) (files : List Descriptor) (workspace : Workspace ε π)
    (troubled : Troubled ε π) : Prop where
  /-- The same is reported about the files, but for the enrichments. -/
  findings :
    (pipeline.transcript (Workspace.services settings enricher publisher).troubled files
      troubled).events.filterMap (·.finding?) =
    (pipeline.transcript (Workspace.services settings enricher publisher) files
      workspace).events.filterMap (·.finding?)
  /-- The runs come to the same, but for the time. -/
  result :
    (pipeline.run (Workspace.services settings enricher publisher).troubled files
      troubled).result.map Statistics.untimed =
    (pipeline.run (Workspace.services settings enricher publisher) files
      workspace).result.map Statistics.untimed
  /-- Every file that can be analysed is enriched, if the enricher always succeeds. -/
  enriched : enricher.Succeeds → ∀ file report answer,
    .published file report answer ∈
      (pipeline.transcript (Workspace.services settings enricher publisher).troubled files
        troubled).events →
    report.outcome.isFailed = false →
    report.enrichment.isCached = true ∨ report.enrichment.isFresh = true
  /-- An enrichment is said to be stored by an earlier run only if it was found. -/
  found : ∀ file report answer payload,
    .published file report answer ∈
      (pipeline.transcript (Workspace.services settings enricher publisher).troubled files
        troubled).events →
    report.enrichment = .cached payload →
    IsHit (pipeline.transcript (Workspace.services settings enricher publisher).troubled files
      troubled) file report answer payload

section Withstanding

variable {pipeline : Pipeline} (settings : AnalysisSettings) (enricher : Enricher ε)
  (publisher : Publisher π) {files : List Descriptor}

/-- What is found in the store of a workspace is the payload of an entry. -/
theorem exists_entry_of_get
    {key : Key}
    {payload : Json}
    {workspace : Workspace ε π}
    (isFound : ((Workspace.services settings enricher publisher).get key workspace).1 =
      .ok (some payload)) :
    ∃ entry, (workspace.get key).1 = .ok (some entry) ∧ entry.payload = payload ∧
      entry.key = key ∧ entry.isExpiredAt workspace.clock.read.1 = false := by
  have isGet : (workspace.get key).1 =
      (workspace.store.get workspace.disk key workspace.clock.read.1).1 := by
    simp only [Workspace.get, Workspace.now]
  simp only [Workspace.services] at isFound
  generalize workspace.get key = found at isFound isGet ⊢
  obtain ⟨result, after⟩ := found
  cases result with
  | error failure =>
      exact absurd isFound (by simp [Except.map])
  | ok entry? =>
      obtain ⟨entry, rfl, isPayload⟩ := Option.map_eq_some_iff.mp (Except.ok.inj isFound)
      obtain ⟨isKey, _, isFresh⟩ := Store.of_get_eq_some isGet.symm
      exact ⟨entry, rfl, isPayload, isKey, isFresh⟩

/-- An enrichment that is said to be stored by an earlier run was found right before. -/
theorem isHit_of_cached
    {file : Descriptor}
    {report : Report}
    {answer : Except DeliveryFailure Unit}
    {payload : Json}
    {troubled : Troubled ε π}
    (isPublished : .published file report answer ∈
      (pipeline.transcript (Workspace.services settings enricher publisher).troubled files
        troubled).events)
    (isCached : report.enrichment = .cached payload) :
    IsHit (pipeline.transcript (Workspace.services settings enricher publisher).troubled files
      troubled) file report answer payload := by
  let services := (Workspace.services settings enricher publisher).troubled
  obtain ⟨_, _, calls, handling, isInfix⟩ :=
    (pipeline.running services files troubled).exists_handling isPublished
  obtain ⟨key, isKey, begun, rfl⟩ := handling.found isCached
  have ends : [.sought key (.ok (some payload)), .published file report answer] <:+:
      (pipeline.transcript services files troubled).events :=
    (List.IsSuffix.isInfix ⟨begun, (List.append_assoc ..).symm⟩).trans isInfix
  obtain ⟨pair, isPair, isMap⟩ := List.infix_map_iff.mp ends
  obtain ⟨⟨_, before⟩, _, rfl, rfl, isRest⟩ := List.map_eq_cons_iff.mp isMap.symm
  obtain ⟨⟨_, after⟩, _, rfl, rfl, isEnd⟩ := List.map_eq_cons_iff.mp isRest
  obtain rfl := List.map_eq_nil_iff.mp isEnd
  have isGenuine : (unreliably ((Workspace.services settings enricher publisher).get key)
      before).1 = .ok (some payload) :=
    Pipeline.isGenuine_of_mem_transcript (isPair.subset List.mem_cons_self)
  obtain ⟨entry, isEntry⟩ :=
    exists_entry_of_get settings enricher publisher (eq_of_unreliably isGenuine)
  exact ⟨key, before, after, entry, isPair, isKey, isEntry⟩

/-- A file that can be analysed is enriched if the enricher always succeeds. -/
theorem isEnriched
    {file : Descriptor}
    {report : Report}
    {answer : Except DeliveryFailure Unit}
    {troubled : Troubled ε π}
    (isEnabled : pipeline.settings.cache.enabled = true)
    (succeeds : enricher.Succeeds)
    (isPublished : .published file report answer ∈
      (pipeline.transcript (Workspace.services settings enricher publisher).troubled files
        troubled).events)
    (isAnalyzed : report.outcome.isFailed = false) :
    report.enrichment.isCached = true ∨ report.enrichment.isFresh = true := by
  let services := (Workspace.services settings enricher publisher).troubled
  obtain ⟨_, _, calls, handling, isInfix⟩ :=
    (pipeline.running services files troubled).exists_handling isPublished
  rcases handling.enriched_or_failed isEnabled isAnalyzed with
    isCached | isFresh | ⟨request, failure, isFailed⟩
  · exact .inl isCached
  · exact .inr isFresh
  · have isEvent := isInfix.subset (List.mem_append_left _ isFailed)
    obtain ⟨⟨_, before⟩, isCall, rfl⟩ := List.mem_map.mp isEvent
    have isGenuine : (enricher.enrich request before.1.enricher).1 = .error failure :=
      Pipeline.isGenuine_of_mem_transcript isCall
    obtain ⟨payload, isMade⟩ := succeeds request before.1.enricher
    exact absurd (isGenuine.symm.trans isMade) (by simp)

theorem save_fst
    (path : String)
    (report : Json)
    (workspace : Workspace ε π) :
    ((Workspace.services settings enricher publisher).save path report workspace).1 =
      (saveReport workspace.disk path report (tagText workspace.tagsUsed)
        workspace.clock.read.1).1 := by
  simp only [Workspace.services, Workspace.save, Workspace.freshTag, Workspace.now]

/-- Whether calls of the store fail or not, two runs meet with the same if these calls do not
change what the runs read and if their publishers answer alike. -/
theorem meetAlike_troubled
    {faults : List (Option Fault)}
    {workspace : Workspace ε π}
    {clock : Clock}
    (serves : ∀ later, AfterCalls workspace.store faults workspace.disk later →
      Serves pipeline settings files workspace.disk later)
    (answers : Coincide
      ((pipeline.transcript (Workspace.services settings enricher publisher).troubled files
        ({ workspace with clock }, faults)).events.filterMap (·.answer?))
      ((pipeline.transcript (Workspace.services settings enricher publisher) files
        workspace).events.filterMap (·.answer?))) :
    MeetAlike
      (pipeline.transcript (Workspace.services settings enricher publisher).troubled files
        ({ workspace with clock }, faults)).events
      (pipeline.transcript (Workspace.services settings enricher publisher) files
        workspace).events := by
  -- Whether a report can be written depends neither on what is in it nor on its tag or time.
  let saved : Except OsError Unit := (pipeline.settings.report.path?.map fun path =>
    (saveReport workspace.disk path .null (tagText 0) {}).1).getD (.ok ())
  have follows : Follows workspace.store faults workspace.disk workspace :=
    ⟨.none, workspace.store.metrics, rfl⟩
  have followsToo : Follows workspace.store faults workspace.disk { workspace with clock } :=
    ⟨.none, workspace.store.metrics, rfl⟩
  have maintain : (Workspace.services settings enricher publisher).Maintain
      (Follows workspace.store faults workspace.disk) :=
    maintain_services settings enricher publisher
  have maintainToo : (Workspace.services settings enricher publisher).troubled.Maintain
      (fun state => Follows workspace.store faults workspace.disk state.1 ∧ state.2 ⊆ faults) :=
    maintain_troubled settings enricher publisher
  have isRead : ∀ other : Workspace ε π, Follows workspace.store faults workspace.disk other →
      ∀ file ∈ files,
      readSource settings other.disk file.path = readSource settings workspace.disk file.path :=
    fun other follows => (serves other.disk follows.after).read
  have isSaved : ∀ path, pipeline.settings.report.path? = some path → ∀ report other,
      Follows workspace.store faults workspace.disk other →
      ((Workspace.services settings enricher publisher).save path report other).1 = saved := by
    intro path isPath report other follows
    simp only [saved, isPath, Option.map_some, Option.getD_some, save_fst]
    exact (serves other.disk follows.after).save path isPath report _ _ _ _ _
  exact {
    sources := (Coincide.refl _).of_begun
      (pipeline.sources_maintained maintainToo files (fun state holds => isRead state.1 holds.1)
        ⟨followsToo, List.Subset.refl _⟩)
      (pipeline.sources_maintained maintain files isRead follows)
    saved := .of_forall
      (pipeline.saved_maintained maintainToo files
        (fun path isPath report state holds => isSaved path isPath report state.1 holds.1)
        ⟨followsToo, List.Subset.refl _⟩)
      (pipeline.saved_maintained maintain files isSaved follows)
    answers }

/-- Whatever calls of the store fail, and at whatever times, a run reports the same about its
files but for the enrichments and comes to the same as one whose store works, if calls of the
store do not change what is read of the files and whether the report on failures can be written,
and if the publisher answers alike. If the enricher always succeeds, every file that can be
analysed is enriched, and said to be stored by an earlier run only if it was found. -/
theorem run_withstands
    (isEnabled : pipeline.settings.cache.enabled = true)
    (files : List Descriptor)
    (faults : List (Option Fault))
    (workspace : Workspace ε π)
    (clock : Clock)
    (serves : ∀ later, AfterCalls workspace.store faults workspace.disk later →
      Serves pipeline settings files workspace.disk later)
    (answers : Coincide
      ((pipeline.transcript (Workspace.services settings enricher publisher).troubled files
        ({ workspace with clock }, faults)).events.filterMap (·.answer?))
      ((pipeline.transcript (Workspace.services settings enricher publisher) files
        workspace).events.filterMap (·.answer?))) :
    Withstands pipeline settings enricher publisher files workspace
      ({ workspace with clock }, faults) := by
  have alike := meetAlike_troubled settings enricher publisher serves answers
  obtain ⟨findings, result⟩ := (pipeline.running _ files _).agree (pipeline.running _ files _) alike
  exact {
    findings
    result
    enriched := fun succeeds _ _ _ isPublished isAnalyzed =>
      isEnriched settings enricher publisher isEnabled succeeds isPublished isAnalyzed
    found := fun _ _ _ _ isPublished isCached =>
      isHit_of_cached settings enricher publisher isPublished isCached }

end Withstanding

/-! ## Files beside a store -/

/-- A pipeline that keeps enrichments in a directory at the top. -/
def keepingPipeline : Pipeline := .ofSettings { cache := topCache } "constant"

def firstTwin : Descriptor where
  path := "a.py"
  sizeBytes := 0

def secondTwin : Descriptor where
  path := "b.py"
  sizeBytes := 0

/-- The store of the twins holds nothing. -/
theorem holds_twins :
    Holds topCache ["cache"] (twins.disk.prune ["cache"]) twins .empty :=
  .of_empty rfl (find_top (by decide) (by decide)) (by decide) (by decide) (by decide)

/-- What is read of a file depends on where its path leads. -/
theorem readSource_congr
    {disk other : Disk}
    {path : String}
    (same : other.find true path = disk.find true path)
    (settings : AnalysisSettings) :
    readSource settings other path = readSource settings disk path := by
  rw [readSource, readSource, Disk.read, Disk.read, same]

/-- The twins are found whatever is in the directory of their store. -/
theorem find_twin
    {disk : Disk}
    {file : Descriptor}
    (same : disk.prune ["cache"] = twins.disk.prune ["cache"])
    (isTwin : file ∈ [firstTwin, secondTwin]) :
    disk.find true file.path = .ok ([file.path], .file [] {}) := by
  have isEither : file = firstTwin ∨ file = secondTwin := by
    simpa using isTwin
  have kept : (disk.prune ["cache"]).node? [file.path] = some (.file [] {}) := by
    rw [same]
    rcases isEither with rfl | rfl <;> rfl
  refine find_top_file ?_ (node?_of_prune kept)
  rcases isEither with rfl | rfl <;> decide

/-- A run over the twins withstands faults. -/
theorem run_withstands_twins :
    constantEnricher.Succeeds ∧
      Withstands keepingPipeline {} constantEnricher patientPublisher [firstTwin, secondTwin] twins
        ({ twins with clock := { upcoming := [{}] } },
          [some { failure := .io .noSpace }, none, none,
            some { failure := .io .notPermitted }]) := by
  have accepts : AcceptsAll twins.store twins.disk ["cache"] :=
    fun key number => holds_twins.isShown.accepts holds_twins.ready key number
  have publishes := accepts_patientPublisher.services {} constantEnricher
  refine ⟨fun _ _ => ⟨.null, rfl⟩, ?_⟩
  refine run_withstands {} constantEnricher patientPublisher rfl _ _ twins _ ?_ ?_
  · refine serves_of_acceptsAll accepts ?_ ?_
    · intro fault isFault disk acceptsNow
      have noSpoil : fault.spoil = id := by
        simp only [List.mem_cons, List.not_mem_nil, Option.some.injEq, reduceCtorEq, or_false,
          false_or] at isFault
        rcases isFault with rfl | rfl <;> rfl
      rw [noSpoil]
      exact ⟨acceptsNow, rfl⟩
    · intro later same
      refine ⟨fun file isFile => readSource_congr ?_ {}, fun path isPath => ?_⟩
      · rw [find_twin same isFile, find_twin rfl isFile]
      · exact absurd isPath (by simp [keepingPipeline, Pipeline.ofSettings])
  · exact .of_forall (publishes.troubled.answers _ _ _) (publishes.answers _ _ _)

/-! ## A file that is read by way of a store -/

/-- What is read of an empty file. -/
def emptySource : SourceText where
  text := ""
  sizeBytes := 0

/-- What is found in an empty text. -/
def emptyTree : Parsed where
  root := .mk { kind := "module" } []
  errors := []

/-- A pipeline that keeps enrichments, with what its parser finds in an empty text written
out. -/
def preparedPipeline : Pipeline where
  settings := { cache := topCache }
  analyzer := {
    parse := fun timeout text => if text = "" then .ok emptyTree else Python.parse timeout text }
  configId := "constant"

/-- The path of the shard of the first of the twins. -/
def twinShard : String :=
  ((preparedPipeline.key? firstTwin.path (.ok emptySource)).map twins.store.shardPath).getD ""

/-- The first of the twins, by way of its shard. -/
def detouredTwin : Descriptor where
  path := detour twinShard "a.py"
  sizeBytes := 0

theorem failure?_emptySource : preparedPipeline.analyzer.failure? (.ok emptySource) = none := rfl

theorem readSource_empty
    {disk : Disk}
    {path : String}
    (found : disk.find true path = .ok (["a.py"], .file [] {})) :
    readSource {} disk path = .ok emptySource := by
  rw [readSource, Disk.read, found]
  rfl

section Steps

variable {pipeline : Pipeline} {services : Services σ} {file : Descriptor} {source : SourceText}
  {model : Model} {state : σ}

/-- A file that can be analysed is one more success, and is enriched if there is a store. -/
theorem process_of_succeeds
    {after : σ}
    (isRead : services.read file (services.now state).2 = (.ok source, after))
    (succeeds : pipeline.analyzer.failure? (.ok source) = none)
    (isModel : pipeline.analyzer.model? file.path source = some model)
    (isEnabled : pipeline.settings.cache.enabled = true)
    (log : Log) :
    ∃ report, pipeline.process services file log state =
      (.ok report, log.addSuccess,
        (pipeline.enrichWithKey services (pipeline.keyInputs file.path model source.text).key file
          model source.text after).2) := by
  obtain ⟨_, _, isSource, isOther, hasModel⟩ :=
    Analyzer.exists_model_of_failure? succeeds file.path
  obtain rfl := Except.ok.inj isSource
  obtain rfl := Option.some.inj (isModel.symm.trans isOther)
  simp only [Pipeline.process, isRead, Analyzer.analyzeRead_ok succeeds, Pipeline.enrich, hasModel,
    isEnabled, if_true]
  exact ⟨_, rfl⟩

/-- What is not found is made, and stored if it can be. -/
theorem enrichWithKey_of_made
    {key : Key}
    {payload : Json}
    {sought made : σ}
    (isMiss : services.get key state = (.ok none, sought))
    (isMade : services.enrich (pipeline.request file model source.text) sought =
      (.ok payload, made)) :
    (pipeline.enrichWithKey services key file model source.text state).2 =
      (services.put key payload pipeline.settings.cache.ttlSeconds
        (Pipeline.metadata file model source.text) made).2 := by
  simp only [Pipeline.enrichWithKey, isMiss, Pipeline.enrichAnew, isMade]

end Steps

theorem exists_model_emptySource (path : String) :
    ∃ model, preparedPipeline.analyzer.model? path emptySource = some model := by
  obtain ⟨_, model, isSource, isModel, _⟩ :=
    Analyzer.exists_model_of_failure? failure?_emptySource path
  obtain rfl := Except.ok.inj isSource
  exact ⟨model, isModel⟩

/-- The shard of the first of the twins is that of its key. -/
theorem exists_key_firstTwin :
    ∃ model, preparedPipeline.analyzer.model? firstTwin.path emptySource = some model ∧
      twinShard = twins.store.shardPath
        (preparedPipeline.keyInputs firstTwin.path model emptySource.text).key := by
  obtain ⟨model, isModel⟩ := exists_model_emptySource firstTwin.path
  refine ⟨model, isModel, ?_⟩
  have isEnabled : preparedPipeline.settings.cache.enabled = true := rfl
  simp only [twinShard, Pipeline.key?, isEnabled, if_true, Except.toOption, Option.bind_some,
    isModel, Option.map_some, Option.getD_some]

/-- A detour by way of a shard of the store of the twins is not too long. -/
theorem fits_detour (key : Key) :
    (detour (twins.store.shardPath key) "a.py").utf8ByteSize ≤ maxPathLength := by
  have ready := holds_twins.ready
  have fits := ready.temporaryFits key 0
  have isShort : "a.py".utf8ByteSize = 4 ∧ "/".utf8ByteSize = 1 ∧ "../..".utf8ByteSize = 5 := by
    decide
  rw [Path.utf8ByteSize_child (ready.shardPath_ne_empty key) (isName_temporaryName key 0),
    utf8ByteSize_temporaryName, temporaryNameSize] at fits
  rw [detour, Path.utf8ByteSize_child (detour_base_ne_empty _) (by decide),
    String.utf8ByteSize_append, String.utf8ByteSize_append, isShort.1, isShort.2.1, isShort.2.2]
  split <;> omega

/-- The detour leads nowhere as long as nothing is stored. -/
theorem find_detour_twins (key : Key) :
    twins.disk.find true (detour (twins.store.shardPath key) "a.py") = .error .noSuchFile := by
  have ready := holds_twins.ready
  exact ready.reaches.find_detour_missing (ready.isName_shard key) (by decide) (fits_detour key)
    (ready.shardFits key) rfl

/-- The detour leads to the first of the twins once something is stored under its key. -/
theorem find_detour_written
    (entry : Entry)
    (number : Nat)
    (now : Instant) :
    (twins.store.written twins.disk ["cache"] entry number now).find true
        (detour (twins.store.shardPath entry.key) "a.py") =
      .ok (["a.py"], .file [] {}) := by
  have accepts := holds_twins.isShown.accepts holds_twins.ready entry.key number
  have isFile : (Disk.prune (twins.store.written twins.disk ["cache"] entry number now)
      ["cache"]).node? ["a.py"] = some (.file [] {}) := by
    rw [Store.prune_written]
    rfl
  exact (Store.reaches_written entry accepts now).find_detour (by decide) (fits_detour entry.key)
    (node?_of_prune isFile)

/-- Looking up a key in the empty store of the twins finds nothing, and leaves the store ready
for something to be stored. -/
theorem get_twins
    {workspace : Workspace Unit Unit}
    (sameDisk : workspace.disk = twins.disk)
    (sameStore : workspace.store = twins.store)
    (key : Key) :
    ∃ sought metrics, twinServices.get key workspace = (.ok none, sought) ∧
      sought.disk = twins.disk ∧ sought.store = { twins.store with metrics } := by
  obtain ⟨_, isGet, _⟩ :=
    Workspace.get_spec (holds_twins.of_eq sameStore sameDisk) key
  obtain ⟨metrics, isLeft⟩ := exists_get_snd {} constantEnricher patientPublisher key workspace
  rw [← twinServices] at isLeft
  have isNone : (twinServices.get key workspace).1 = .ok none := by
    simp only [twinServices, Workspace.services, isGet]
    rfl
  refine ⟨_, metrics, Prod.ext isNone isLeft, sameDisk, ?_⟩
  rw [sameStore]

/-- Storing something in the empty store of the twins writes its file. -/
theorem put_twins
    {workspace : Workspace Unit Unit}
    {metrics : Metrics}
    (sameDisk : workspace.disk = twins.disk)
    (isStore : workspace.store = { twins.store with metrics })
    (key : Key)
    (payload : Json)
    (ttl : UInt64)
    (source : SourceMetadata) :
    ∃ entry number now, entry.key = key ∧
      (twinServices.put key payload ttl source workspace).2.disk =
        twins.store.written twins.disk ["cache"] entry number now := by
  have isLeft := put_snd {} constantEnricher patientPublisher key payload ttl source workspace
  have isKey : (workspace.entryNow key payload ttl source).key = key := rfl
  generalize workspace.entryNow key payload ttl source = entry at isLeft isKey
  have accepts := holds_twins.isShown.accepts holds_twins.ready entry.key workspace.tagsUsed
  refine ⟨entry, workspace.tagsUsed, workspace.clock.read.1, isKey, ?_⟩
  rw [twinServices, isLeft]
  dsimp only
  rw [isStore, sameDisk, (exists_metrics_put twins.store metrics twins.disk entry
    (tagText workspace.tagsUsed) workspace.clock.read.1).2]
  exact Store.disk_put entry accepts _

/-- What fails when there is no space left. -/
def noSpace : Fault where
  failure := .io .noSpace

/-- After the first of the twins is processed the detour leads to it. -/
theorem process_firstTwin
    {workspace : Workspace Unit Unit}
    (sameDisk : workspace.disk = twins.disk)
    (sameStore : workspace.store = twins.store)
    (log : Log) :
    ∃ report after, preparedPipeline.process twinServices firstTwin log workspace =
        (.ok report, log.addSuccess, after) ∧
      after.disk.find true detouredTwin.path = .ok (["a.py"], .file [] {}) := by
  let ready := (Workspace.now workspace).2
  have isFound : ready.disk.find true firstTwin.path = .ok (["a.py"], .file [] {}) :=
    find_twin (congrArg (·.prune ["cache"]) sameDisk) List.mem_cons_self
  have isRead : twinServices.read firstTwin (twinServices.now workspace).2 =
      (.ok emptySource, ready) :=
    Prod.ext (readSource_empty isFound) rfl
  obtain ⟨model, isModel, isShard⟩ := exists_key_firstTwin
  obtain ⟨report, isProcessed⟩ :=
    process_of_succeeds isRead failure?_emptySource isModel rfl log
  obtain ⟨sought, metrics, isMiss, stillSame, isStore⟩ :=
    get_twins (show ready.disk = twins.disk from sameDisk) sameStore
      (preparedPipeline.keyInputs firstTwin.path model emptySource.text).key
  have isMade : twinServices.enrich (preparedPipeline.request firstTwin model emptySource.text)
      sought = (.ok .null, sought) :=
    rfl
  rw [enrichWithKey_of_made isMiss isMade] at isProcessed
  refine ⟨report, _, isProcessed, ?_⟩
  obtain ⟨entry, number, now, isKey, isWritten⟩ := put_twins stillSame isStore
    (preparedPipeline.keyInputs firstTwin.path model emptySource.text).key .null
    preparedPipeline.settings.cache.ttlSeconds
    (Pipeline.metadata firstTwin model emptySource.text)
  have isPath : detouredTwin.path = detour (twins.store.shardPath entry.key) "a.py" := by
    rw [isKey, ← isShard]
    rfl
  rw [isWritten, isPath]
  exact find_detour_written entry number now

theorem process_firstTwin_troubled
    {workspace : Workspace Unit Unit}
    (sameDisk : workspace.disk = twins.disk)
    (sameStore : workspace.store = twins.store)
    (log : Log) :
    ∃ report after,
      preparedPipeline.process twinServices.troubled firstTwin log
          (workspace, [none, some noSpace]) =
        (.ok report, log.addSuccess, after) ∧
      after.1.disk = twins.disk := by
  let ready := (Workspace.now workspace).2
  have isFound : ready.disk.find true firstTwin.path = .ok (["a.py"], .file [] {}) :=
    find_twin (congrArg (·.prune ["cache"]) sameDisk) List.mem_cons_self
  have isRead : twinServices.troubled.read firstTwin
      (twinServices.troubled.now (workspace, [none, some noSpace])).2 =
        (.ok emptySource, ready, [none, some noSpace]) :=
    Prod.ext (readSource_empty isFound) rfl
  obtain ⟨model, isModel, isShard⟩ := exists_key_firstTwin
  obtain ⟨report, isProcessed⟩ :=
    process_of_succeeds isRead failure?_emptySource isModel rfl log
  obtain ⟨sought, metrics, isMiss, stillSame, _⟩ :=
    get_twins (show ready.disk = twins.disk from sameDisk) sameStore
      (preparedPipeline.keyInputs firstTwin.path model emptySource.text).key
  have isMissToo : twinServices.troubled.get
      (preparedPipeline.keyInputs firstTwin.path model emptySource.text).key
      (ready, [none, some noSpace]) = (.ok none, sought, [some noSpace]) := by
    simp only [Services.troubled, unreliably, isMiss]
  have isMade : twinServices.troubled.enrich
      (preparedPipeline.request firstTwin model emptySource.text) (sought, [some noSpace]) =
        (.ok .null, sought, [some noSpace]) :=
    rfl
  rw [enrichWithKey_of_made isMissToo isMade] at isProcessed
  refine ⟨report, _, isProcessed, ?_⟩
  simp only [Services.troubled, unreliably, Fault.strike, noSpace, id]
  exact stillSame

/-- A run that takes all its files and writes no report on failures succeeds. -/
theorem run_of_taken
    {pipeline : Pipeline}
    {services : Services σ}
    {files : List Descriptor}
    {log : Log}
    {state after : σ}
    (accepts : services.Accepts)
    (noPath : pipeline.settings.report.path? = none)
    (areTaken : pipeline.processAll services files (Log.declareTotal {} files.length)
      (services.now state).2 = (none, log, after)) :
    ∃ elapsed, (pipeline.run services files state).result = .ok (log.statistics elapsed) := by
  let elapsed := millisecondsBetween (services.now state).1 (services.now after).1
  have isFinished := accepts.finish (log.statistics elapsed) (services.now after).2
  refine ⟨elapsed, ?_⟩
  simp only [Pipeline.run, areTaken, Pipeline.finish, Pipeline.saveReport, noPath]
  generalize services.finish (log.statistics elapsed) (services.now after).2 = delivery
    at isFinished ⊢
  obtain ⟨answer, last⟩ := delivery
  obtain rfl : answer = .ok () := isFinished
  rfl

/-- A file to which the detour leads is one more success. -/
theorem process_detouredTwin
    {workspace : Workspace Unit Unit}
    (isFound : workspace.disk.find true detouredTwin.path = .ok (["a.py"], .file [] {}))
    (log : Log) :
    ∃ report after, preparedPipeline.process twinServices detouredTwin log workspace =
      (.ok report, log.addSuccess, after) := by
  obtain ⟨model, isModel⟩ := exists_model_emptySource detouredTwin.path
  have isRead : twinServices.read detouredTwin (twinServices.now workspace).2 =
      (.ok emptySource, (Workspace.now workspace).2) :=
    Prod.ext (readSource_empty isFound) rfl
  obtain ⟨report, isProcessed⟩ :=
    process_of_succeeds isRead failure?_emptySource isModel rfl log
  exact ⟨report, _, isProcessed⟩

theorem process_detouredTwin_troubled
    {state : Troubled Unit Unit}
    (sameDisk : state.1.disk = twins.disk)
    (log : Log) :
    ∃ report record after,
      preparedPipeline.process twinServices.troubled detouredTwin log state =
        (.ok report, log.addRecord record, after) := by
  obtain ⟨model, _, isShard⟩ := exists_key_firstTwin
  have notFound : state.1.disk.find true detouredTwin.path = .error .noSuchFile := by
    have isPath : detouredTwin.path = detour twinShard "a.py" := rfl
    rw [sameDisk, isPath, isShard]
    exact find_detour_twins _
  have isMissing : readSource {} state.1.disk detouredTwin.path =
      .error (.fileAccess .noSuchFile) := by
    rw [readSource, notFound]
  have isRead : twinServices.troubled.read detouredTwin (twinServices.troubled.now state).2 =
      (.error (.fileAccess .noSuchFile), (twinServices.troubled.now state).2) :=
    Prod.ext isMissing rfl
  have continues : preparedPipeline.analyzer.settings.continueOnError = true := rfl
  obtain ⟨record, isProcessed⟩ := process_of_failure? continues isRead rfl log
  exact ⟨_, record, _, isProcessed⟩

/-- A file that is read by way of a shard is analysed if the store works, and not if nothing
can be stored because there is no space left. -/
theorem exists_fault_noticed :
    preparedPipeline.settings.cache.enabled = true ∧ twinServices.Accepts ∧
    ∃ healthy troubled : Statistics,
      (preparedPipeline.run twinServices [firstTwin, detouredTwin] twins).result = .ok healthy ∧
      (preparedPipeline.run twinServices.troubled [firstTwin, detouredTwin]
        (twins, [none, some noSpace])).result = .ok troubled ∧
      healthy.failed = 0 ∧ troubled.failed = 1 := by
  have accepts : twinServices.Accepts := accepts_patientPublisher.services {} constantEnricher
  have ready : (Workspace.now twins).2.disk = twins.disk := rfl
  obtain ⟨report, reached, isFirst, isFound⟩ :=
    process_firstTwin ready rfl (Log.declareTotal {} 2)
  have isFoundThen : (twinServices.publish firstTwin report reached).2.disk.find true
      detouredTwin.path = .ok (["a.py"], .file [] {}) :=
    isFound
  obtain ⟨_, _, isSecond⟩ := process_detouredTwin isFoundThen (Log.declareTotal {} 2).addSuccess
  obtain ⟨other, reachedToo, isFirstToo, sameDisk⟩ :=
    process_firstTwin_troubled ready rfl (Log.declareTotal {} 2)
  have sameDiskThen : (twinServices.troubled.publish firstTwin other reachedToo).2.1.disk =
      twins.disk :=
    sameDisk
  obtain ⟨_, record, _, isSecondToo⟩ :=
    process_detouredTwin_troubled sameDiskThen (Log.declareTotal {} 2).addSuccess
  have areTaken : preparedPipeline.processAll twinServices [firstTwin, detouredTwin]
      (Log.declareTotal {} 2) (twinServices.now twins).2 = (none, _, _) :=
    (processAll_cons preparedPipeline accepts.publish isFirst _).trans
      (processAll_cons preparedPipeline accepts.publish isSecond [])
  have areTakenToo : preparedPipeline.processAll twinServices.troubled [firstTwin, detouredTwin]
      (Log.declareTotal {} 2) (twinServices.troubled.now (twins, [none, some noSpace])).2 =
        (none, _, _) :=
    (processAll_cons preparedPipeline accepts.troubled.publish isFirstToo _).trans
      (processAll_cons preparedPipeline accepts.troubled.publish isSecondToo [])
  obtain ⟨elapsed, isHealthy⟩ := run_of_taken accepts rfl areTaken
  obtain ⟨later, isTroubled⟩ := run_of_taken accepts.troubled rfl areTakenToo
  refine ⟨rfl, accepts, _, _, isHealthy, isTroubled, ?_, ?_⟩
  · rw [Statistics.statistics_eq]
    rfl
  · rw [Statistics.statistics_eq]
    rfl

end SourceFacts.Run
