import SourceFacts.Proofs.Analysis.Verdicts
import SourceFacts.Proofs.Run.Observation
import SourceFacts.Proofs.Run.Workspaces

namespace SourceFacts.Run

/-!
# Visits to files

What a run does with a file, in what order, and at what moments.
-/

open Analysis Cache Config Disk Facts Failures Time

/-!
## What a run does with a file

A run in a workspace is observed: of every file that it visits it is written down what
was read, looked up, asked for, stored and reported. What happens is determined by what
the store holds. An entry under the key of the file is reported. Otherwise an
enrichment is asked for, once, and is stored if there is one.
-/

/-- What a run did with a file. -/
structure Visit where
  file : Descriptor
  source : Except Analysis.Failure SourceText
  /-- The keys that were looked up, and when. -/
  sought : List (Key × Instant) := []
  /-- The enrichments that were asked for, and what came of it. -/
  asked : List (Request × Except EnrichmentFailure Json) := []
  /-- The entries that were stored. -/
  kept : List Entry := []
  report? : Option Report := none

namespace Visit

/-- The key that was reported. -/
def key? (visit : Visit) : Option Key := visit.report?.bind (·.key?)

/-- The enrichment that was reported. -/
def enrichment? (visit : Visit) : Option Enrichment := visit.report?.map (·.enrichment)

/-- The visits after an event, the latest first. -/
def note (event : Event) (workspace : Workspace ε π) (visits : List Visit) : List Visit :=
  match event, visits with
  | .read file source, visits => { file, source } :: visits
  | .sought key _, visit :: earlier =>
      { visit with sought := (key, workspace.clock.read.1) :: visit.sought } :: earlier
  | .enriched request result, visit :: earlier =>
      { visit with asked := (request, result) :: visit.asked } :: earlier
  | .kept key payload ttlSeconds source _, visit :: earlier =>
      let entry := workspace.entryNow key payload ttlSeconds source
      { visit with kept := entry :: visit.kept } :: earlier
  | .published _ report _, visit :: earlier =>
      { visit with report? := some report } :: earlier
  | _, visits => visits

end Visit

/-- The services of a run in a workspace, with notes on the files that it visits. -/
def watched (settings : AnalysisSettings) (enricher : Enricher ε) (publisher : Publisher π) :
    Services (Workspace ε π × List Visit) :=
  (Workspace.services settings enricher publisher).observed Visit.note

/-! ### Where an enrichment comes from -/

/-- What a store holds after entries were stored, the latest first. -/
def keep (contents : Contents) (entries : List Entry) : Contents :=
  entries.foldr (fun entry kept => kept.update entry.key (some entry)) contents

/-- What can be reported under a key, what was asked for then, and what was stored. -/
inductive Enriched (enricher : Enricher ε) (contents : Contents) (request : Request) (key : Key)
    (now : Instant) :
    Enrichment → List (Request × Except EnrichmentFailure Json) → List Entry → Prop where
  | found {entry : Entry}
      (isHit : contents.fresh key now = some entry) :
      Enriched enricher contents request key now (.cached entry.payload) [] []
  | failed {failure : EnrichmentFailure} {state : ε}
      (isMiss : contents.fresh key now = none)
      (answer : (enricher.enrich request state).1 = .error failure) :
      Enriched enricher contents request key now (.failed failure.message)
        [(request, .error failure)] []
  | made {entry : Entry} {state : ε}
      (isMiss : contents.fresh key now = none)
      (answer : (enricher.enrich request state).1 = .ok entry.payload)
      (isKey : entry.key = key) :
      Enriched enricher contents request key now (.fresh entry.payload)
        [(request, .ok entry.payload)] [entry]

/-- What becomes of a file that is visited while the store holds certain contents. -/
inductive Visit.Course (pipeline : Pipeline) (enricher : Enricher ε) (contents : Contents)
    (visit : Visit) : Prop where
  /-- There is nothing to enrich, or enrichment is turned off. -/
  | passedBy
      (soughtNothing : visit.sought = [])
      (askedNothing : visit.asked = [])
      (keptNothing : visit.kept = [])
      (isReport : ∀ report, visit.report? = some report →
        report.key? = none ∧ report.enrichment.payload? = none)
      (noModel : pipeline.settings.cache.enabled = true → ∀ source, visit.source = .ok source →
        pipeline.analyzer.model? visit.file.path source = none)
  | enriched {report : Report} {source : SourceText} {model : Model} {key : Key} {now : Instant}
      (isReport : visit.report? = some report)
      (isSource : visit.source = .ok source)
      (isFound : pipeline.analyzer.model? visit.file.path source = some model)
      (isModel : report.outcome.model? = some model)
      (isKey : key = (pipeline.keyInputs visit.file.path model source.text).key)
      (hasKey : report.key? = some key)
      (isSought : visit.sought = [(key, now)])
      (became : Enriched enricher contents (pipeline.request visit.file model source.text) key
        now report.enrichment visit.asked visit.kept)

/-- An enricher whose payloads can all be stored. -/
def Enricher.IsStorable (enricher : Enricher ε) : Prop :=
  ∀ request state payload, (enricher.enrich request state).1 = .ok payload →
    Cache.IsStorable payload

/-! ### One file -/

section File

variable {cache : CacheSettings} {place : Place} {outside : Disk} {workspace : Workspace ε π}
  {contents : Contents} {settings : AnalysisSettings} {enricher : Enricher ε}
  {publisher : Publisher π} {pipeline : Pipeline} {file : Descriptor}
  {read : Except Analysis.Failure SourceText} {earlier : List Visit} {key : Key}
  {keeps : Workspace ε π → σ → Prop} {add : Entry → σ → σ} {stored : σ}

/-- Looking at the clock is not noted. -/
theorem now_watched (visits : List Visit) :
    (watched settings enricher publisher).now (workspace, visits) =
      (workspace.clock.read.1, { workspace with clock := workspace.clock.read.2 }, visits) :=
  rfl

/-- A visit begins when a file is read. -/
theorem read_watched (visits : List Visit) :
    (watched settings enricher publisher).read file (workspace, visits) =
      (readSource settings workspace.disk file.path, workspace,
        { file, source := readSource settings workspace.disk file.path } :: visits) :=
  rfl

/-- What is looked up is noted. -/
theorem get_watched
    (key : Key)
    (visit : Visit) :
    (watched settings enricher publisher).get key (workspace, visit :: earlier) =
      ((workspace.get key).1.map fun held? => held?.map (·.payload), (workspace.get key).2,
        { visit with sought := (key, workspace.clock.read.1) :: visit.sought } :: earlier) := by
  simp only [watched, Services.observed, observe, Workspace.services, Visit.note]

/-- What is asked for is noted. -/
theorem enrich_watched_eq
    (request : Request)
    (visit : Visit) :
    (watched settings enricher publisher).enrich request (workspace, visit :: earlier) =
      ((enricher.enrich request workspace.enricher).1,
        { workspace with enricher := (enricher.enrich request workspace.enricher).2 },
        { visit with
          asked := (request, (enricher.enrich request workspace.enricher).1) :: visit.asked } ::
          earlier) :=
  rfl

/-- What is stored is noted. -/
theorem put_watched
    (key : Key)
    (payload : Json)
    (ttl : UInt64)
    (source : SourceMetadata)
    (visit : Visit) :
    (watched settings enricher publisher).put key payload ttl source
        (workspace, visit :: earlier) =
      ((workspace.put key payload ttl source).1, (workspace.put key payload ttl source).2,
        { visit with kept := workspace.entryNow key payload ttl source :: visit.kept } ::
          earlier) :=
  rfl

/-- What is reported is noted. -/
theorem publish_watched
    (report : Report)
    (visit : Visit) :
    (watched settings enricher publisher).publish file report (workspace, visit :: earlier) =
      ((publisher.publish file report workspace.publisher).1,
        { workspace with publisher := (publisher.publish file report workspace.publisher).2 },
        { visit with report? := some report } :: earlier) :=
  rfl

/-- The end of a run is not noted. -/
theorem finish_watched
    (statistics : Statistics)
    (visits : List Visit) :
    (watched settings enricher publisher).finish statistics (workspace, visits) =
      ((publisher.finish statistics workspace.publisher).1,
        { workspace with publisher := (publisher.finish statistics workspace.publisher).2 },
        visits) :=
  rfl

/-- What is asked for is noted, and what is made of it is stored and noted. -/
theorem enrichAnew_watched
    {now : Instant}
    (carries : Carries keeps add)
    (isKept : keeps workspace stored)
    (storable : enricher.IsStorable)
    (isMiss : contents.fresh key now = none)
    (model : Model)
    (source : String) :
    ∃ enrichment after asked kept,
      pipeline.enrichAnew (watched settings enricher publisher) key file model source
          (workspace, { file, source := read, sought := [(key, now)] } :: earlier) =
        (enrichment, after,
          { file, source := read, sought := [(key, now)], asked, kept } :: earlier) ∧
      Enriched enricher contents (pipeline.request file model source) key now enrichment asked
        kept ∧
      ((∀ entry ∈ kept, entry.createdAt.IsValid) → keeps after (kept.foldr add stored)) := by
  let request := pipeline.request file model source
  let answered : Workspace ε π :=
    { workspace with enricher := (enricher.enrich request workspace.enricher).2 }
  have answeredKept : keeps answered stored := carries.of_eq isKept rfl rfl
  cases answer : (enricher.enrich request workspace.enricher).1 with
  | error failure =>
      refine ⟨_, answered, _, _, ?_, .failed isMiss answer, fun _ => answeredKept⟩
      unfold Pipeline.enrichAnew
      rw [enrich_watched_eq, answer]
  | ok payload =>
      let ttl := pipeline.settings.cache.ttlSeconds
      let metadata := Pipeline.metadata file model source
      let entry := answered.entryNow key payload ttl metadata
      refine ⟨_, (answered.put key payload ttl metadata).2, _, [entry], ?_,
        .made isMiss answer rfl, ?_⟩
      · unfold Pipeline.enrichAnew
        rw [enrich_watched_eq, answer]
        dsimp only
        rw [put_watched]
        rfl
      · intro valid
        have isStorable : entry.IsStorable :=
          ⟨storable _ _ _ answer, valid entry List.mem_cons_self⟩
        exact carries.of_put key payload ttl metadata answeredKept isStorable

/-- A look-up is noted, and decides where the enrichment comes from. -/
theorem enrichWithKey_watched
    (carries : Carries keeps add)
    (isKept : keeps workspace stored)
    (storable : enricher.IsStorable)
    (key : Key)
    (model : Model)
    (source : String) :
    ∃ now enrichment after asked kept,
      pipeline.enrichWithKey (watched settings enricher publisher) key file model source
          (workspace, { file, source := read } :: earlier) =
        (enrichment, after,
          { file, source := read, sought := [(key, now)], asked, kept } :: earlier) ∧
      Enriched enricher workspace.findable (pipeline.request file model source) key now enrichment
        asked kept ∧
      ((∀ entry ∈ kept, entry.createdAt.IsValid) → keeps after (kept.foldr add stored)) := by
  have soughtKept := carries.of_get key isKept
  have finds := workspace.fresh_findable key
  refine ⟨workspace.clock.read.1, ?_⟩
  unfold Pipeline.enrichWithKey
  rw [get_watched]
  generalize workspace.get key = found at soughtKept finds ⊢
  obtain ⟨error | held?, sought⟩ := found
  · exact enrichAnew_watched carries soughtKept storable finds model source
  · cases held? with
    | none =>
        exact enrichAnew_watched carries soughtKept storable finds model source
    | some entry =>
        exact ⟨.cached entry.payload, sought, [], [], rfl, .found finds, fun _ => soughtKept⟩

/-- What becomes of an analysed file. -/
theorem enrich_watched
    {analyzed : Analyzed}
    (settings : AnalysisSettings)
    (publisher : Publisher π)
    (earlier : List Visit)
    (carries : Carries keeps add)
    (isKept : keeps workspace stored)
    (storable : enricher.IsStorable)
    (isAnalyzed : ∀ model, analyzed.outcome.model? = some model →
      ∃ source, read = .ok source ∧ analyzed.source? = some source.text ∧
        pipeline.analyzer.model? file.path source = some model)
    (hasModel : ∀ source model, read = .ok source →
      pipeline.analyzer.model? file.path source = some model →
        analyzed.outcome.model? = some model) :
    ∃ key? enrichment after visit,
      pipeline.enrich (watched settings enricher publisher) file analyzed
          (workspace, { file, source := read } :: earlier) =
        ((key?, enrichment), after, visit :: earlier) ∧
      Visit.Course pipeline enricher workspace.findable
        { visit with
          report? := some { path := file.path, outcome := analyzed.outcome, key?, enrichment } } ∧
      visit.report? = none ∧ visit.file = file ∧ visit.source = read ∧
      ((∀ entry ∈ visit.kept, entry.createdAt.IsValid) →
        keeps after (visit.kept.foldr add stored)) := by
  rw [Pipeline.enrich]
  cases isModel : analyzed.outcome.model? with
  | none =>
      refine ⟨none, .skipped, workspace, { file, source := read }, rfl, ?_, rfl, rfl, rfl,
        fun _ => isKept⟩
      refine .passedBy rfl rfl rfl ?_ ?_
      · intro report isReport
        obtain rfl := Option.some.inj isReport
        exact ⟨rfl, rfl⟩
      · intro _ source isSource
        cases isFound : pipeline.analyzer.model? file.path source with
        | none =>
            rfl
        | some model =>
            have stillModel := hasModel source model isSource isFound
            rw [isModel] at stillModel
            exact absurd stillModel (by simp)
  | some model =>
      obtain ⟨source, isSource, isText, isFound⟩ := isAnalyzed model isModel
      rw [isText]
      dsimp only
      by_cases isEnabled : pipeline.settings.cache.enabled = true
      · rw [if_pos isEnabled]
        obtain ⟨now, enrichment, after, asked, kept, isEnriched, became, afterKept⟩ :=
          enrichWithKey_watched carries isKept storable
            (pipeline.keyInputs file.path model source.text).key model source.text
        rw [isEnriched]
        refine ⟨_, enrichment, after, _, rfl, ?_, rfl, rfl, rfl, afterKept⟩
        exact .enriched rfl isSource isFound isModel rfl rfl rfl became
      · rw [if_neg isEnabled]
        refine ⟨none, .disabled, workspace, { file, source := read }, rfl, ?_, rfl, rfl, rfl,
          fun _ => isKept⟩
        refine .passedBy rfl rfl rfl ?_ fun enabled => absurd enabled isEnabled
        intro report isReport
        obtain rfl := Option.some.inj isReport
        exact ⟨rfl, rfl⟩

/-- A file is visited, what becomes of it is written down, and what holds of the store and of what
is stored is carried on. -/
theorem process_carries
    (carries : Carries keeps add)
    (isKept : keeps workspace stored)
    (storable : enricher.IsStorable)
    (file : Descriptor)
    (log : Log)
    (earlier : List Visit) :
    ∃ result log' after visit,
      pipeline.process (watched settings enricher publisher) file log (workspace, earlier) =
        (result, log', after, visit :: earlier) ∧
      Visit.Course pipeline enricher workspace.findable { visit with report? := result.toOption } ∧
      visit.report? = none ∧ visit.file = file ∧
      visit.source = readSource settings workspace.disk file.path ∧
      ((∀ entry ∈ visit.kept, entry.createdAt.IsValid) →
        keeps after (visit.kept.foldr add stored)) := by
  let ready : Workspace ε π := { workspace with clock := workspace.clock.read.2 }
  have readyKept : keeps ready stored := carries.of_eq isKept rfl rfl
  simp only [Pipeline.process, now_watched, read_watched]
  generalize readSource settings workspace.disk file.path = read
  have hasModel : ∀ source model, read = .ok source →
      pipeline.analyzer.model? file.path source = some model →
        ∃ analyzed,
          (pipeline.analyzer.analyzeRead file.path file.sizeBytes read workspace.clock.read.1
            log).1 = .ok analyzed ∧ analyzed.outcome.model? = some model := by
    rintro source model rfl isModel
    exact Analyzer.exists_analyzed_of_model? isModel _ _ _
  cases isAnalyzed : pipeline.analyzer.analyzeRead file.path file.sizeBytes read
      workspace.clock.read.1 log with
  | mk result log' =>
      rw [isAnalyzed] at hasModel
      cases result with
      | error failure =>
          refine ⟨_, log', ready, { file, source := read }, rfl, ?_, rfl, rfl, rfl,
            fun _ => readyKept⟩
          refine .passedBy rfl rfl rfl ?_ ?_
          · exact fun report isReport => absurd isReport (by simp [Except.toOption])
          · intro _ source isSource
            refine Option.eq_none_iff_forall_ne_some.mpr ?_
            intro model isModel
            obtain ⟨analyzed, isOk, _⟩ := hasModel source model isSource isModel
            exact absurd isOk (by simp)
      | ok analyzed =>
          have isModelled : ∀ source model, read = .ok source →
              pipeline.analyzer.model? file.path source = some model →
                analyzed.outcome.model? = some model := by
            intro source model isSource isModel
            obtain ⟨_, same, outcome⟩ := hasModel source model isSource isModel
            obtain rfl := Except.ok.inj same
            exact outcome
          obtain ⟨key?, enrichment, after, visit, isEnriched, course, noReport, isFile,
              isSource, afterKept⟩ :=
            enrich_watched settings publisher earlier carries readyKept storable
              (fun model isModel =>
                Analyzer.exists_source_of_model? (by rw [isAnalyzed]) isModel) isModelled
          dsimp only
          rw [isEnriched]
          exact ⟨_, log', after, visit, rfl, course, noReport, isFile, isSource, afterKept⟩

/-- A file is visited, what becomes of it is written down, and the store holds what was
stored for it. -/
theorem process_watched
    (holds : Holds cache place outside workspace contents)
    (storable : enricher.IsStorable)
    (file : Descriptor)
    (log : Log)
    (earlier : List Visit) :
    ∃ result log' after visit,
      pipeline.process (watched settings enricher publisher) file log (workspace, earlier) =
        (result, log', after, visit :: earlier) ∧
      Visit.Course pipeline enricher contents { visit with report? := result.toOption } ∧
      visit.report? = none ∧ visit.file = file ∧
      visit.source = readSource settings workspace.disk file.path ∧
      ((∀ entry ∈ visit.kept, entry.createdAt.IsValid) →
        Holds cache place outside after (keep contents visit.kept)) := by
  obtain rfl := holds.findable_eq
  exact process_carries carries_holds holds storable file log earlier

end File

/-!
## When a run does what it does

Every file adds one visit, and nothing is noted about the visits before it. A run looks
at the clock at most three times for a file: when it takes it, when it looks up its key
and when it stores an entry, which it does for as long as the settings say. So whatever
holds of the next readings of the clock holds of the moments that are noted.
-/

/-! ### Clocks -/

/-- The clock after a number of looks at it. -/
def Clock.ahead : Nat → Clock → Clock
  | 0, clock => clock
  | looks + 1, clock => ahead looks clock.read.2

/-- What the clock shows has a property, for a number of looks at it. -/
def Clock.Shows (property : Instant → Prop) (looks : Nat) (clock : Clock) : Prop :=
  ∀ index < looks, property (clock.ahead index).read.1

variable {property : Instant → Prop} {clock : Clock} {looks : Nat}

/-- The clock shows something with the property now, and goes on to do so. -/
theorem Clock.Shows.read
    (isShown : clock.Shows property (looks + 1)) :
    property clock.read.1 ∧ clock.read.2.Shows property looks :=
  ⟨isShown 0 (Nat.zero_lt_succ looks),
    fun index below => isShown (index + 1) (Nat.succ_lt_succ below)⟩

/-- Fewer looks show nothing else. -/
theorem Clock.Shows.mono
    {fewer : Nat}
    (isShown : clock.Shows property looks)
    (isFewer : fewer ≤ looks) :
    clock.Shows property fewer :=
  fun index below => isShown index (Nat.lt_of_lt_of_le below isFewer)

/-! ### Moments of visits -/

/-- The moments that were noted at a visit have a property, and entries were stored for a
number of seconds. -/
def Visit.During (property : Instant → Prop) (ttl : UInt64) (visit : Visit) : Prop :=
  (∀ lookup ∈ visit.sought, property lookup.2) ∧
    ∀ entry ∈ visit.kept, property entry.createdAt ∧ entry.ttlSeconds = ttl

/-- An effect notes nothing but on the latest visit. It looks at the clock so many times at
most, and notes only moments with a property if the clock shows such. -/
def Notes (property : Instant → Prop) (ttl : UInt64) (used : Nat)
    (effect : Effect (Workspace ε π × List Visit) α) : Prop :=
  ∀ workspace visit earlier left, workspace.clock.Shows property (left + used) →
    visit.During property ttl →
      ∃ after other, (effect (workspace, visit :: earlier)).2 = (after, other :: earlier) ∧
        after.clock.Shows property left ∧ other.During property ttl

section File

variable {settings : AnalysisSettings} {enricher : Enricher ε} {publisher : Publisher π}
  {pipeline : Pipeline}

/-- Making an enrichment takes one look at the clock, to store it. -/
theorem notes_enrichAnew
    (key : Key)
    (file : Descriptor)
    (model : Model)
    (source : String) :
    Notes property pipeline.settings.cache.ttlSeconds 1
      (pipeline.enrichAnew (watched settings enricher publisher) key file model source) := by
  intro workspace visit earlier left isShown ⟨sought, kept⟩
  have isNow := isShown.read
  unfold Pipeline.enrichAnew
  rw [enrich_watched_eq]
  cases (enricher.enrich (pipeline.request file model source) workspace.enricher).1 with
  | error failure =>
      exact ⟨_, _, rfl, isShown.mono (Nat.le_succ left), sought, kept⟩
  | ok payload =>
      dsimp only
      rw [put_watched]
      refine ⟨_, _, rfl, ?_, sought, ?_⟩
      · simp only [Workspace.put, Workspace.putEntry, Workspace.now, Workspace.freshTag]
        exact isNow.2
      · rw [List.forall_mem_cons]
        exact ⟨⟨isNow.1, rfl⟩, kept⟩

/-- Enriching under a key takes one more look at the clock, to look it up. -/
theorem notes_enrichWithKey
    (key : Key)
    (file : Descriptor)
    (model : Model)
    (source : String) :
    Notes property pipeline.settings.cache.ttlSeconds 2
      (pipeline.enrichWithKey (watched settings enricher publisher) key file model source) := by
  intro workspace visit earlier left isShown ⟨sought, kept⟩
  have isNow := isShown.read
  have sameClock : (workspace.get key).2.clock = workspace.clock.read.2 := by
    simp only [Workspace.get, Workspace.now]
  unfold Pipeline.enrichWithKey
  rw [get_watched]
  generalize workspace.get key = found at sameClock ⊢
  obtain ⟨result, after⟩ := found
  have isLater : after.clock.Shows property (left + 1) := by
    rw [sameClock]
    exact isNow.2
  have during :
      Visit.During property pipeline.settings.cache.ttlSeconds
        { visit with sought := (key, workspace.clock.read.1) :: visit.sought } :=
    ⟨List.forall_mem_cons.mpr ⟨isNow.1, sought⟩, kept⟩
  rcases result with failure | held?
  · exact notes_enrichAnew key file model source after _ earlier left isLater during
  · cases held? with
    | none =>
        exact notes_enrichAnew key file model source after _ earlier left isLater during
    | some entry =>
        exact ⟨_, _, rfl, isLater.mono (Nat.le_succ left), during⟩

/-- Enriching a file takes no more than two looks at the clock. -/
theorem notes_enrich
    (file : Descriptor)
    (analyzed : Analyzed) :
    Notes property pipeline.settings.cache.ttlSeconds 2
      (pipeline.enrich (watched settings enricher publisher) file analyzed) := by
  intro workspace visit earlier left isShown during
  have isLater := isShown.mono (Nat.le_add_right left 2)
  unfold Pipeline.enrich
  cases analyzed.outcome.model? with
  | none =>
      exact ⟨_, _, rfl, isLater, during⟩
  | some model =>
      cases analyzed.source? with
      | none =>
          exact ⟨_, _, rfl, isLater, during⟩
      | some source =>
          by_cases isEnabled : pipeline.settings.cache.enabled = true
          · simp only [isEnabled, if_true]
            exact notes_enrichWithKey _ file model source workspace visit earlier left isShown
              during
          · simp only [isEnabled, if_false, Bool.false_eq_true]
            exact ⟨_, _, rfl, isLater, during⟩

variable (settings enricher publisher pipeline)

/-- A file adds one visit, and takes no more than three looks at the clock. -/
theorem exists_process_visit
    {left : Nat}
    {workspace : Workspace ε π}
    (isShown : workspace.clock.Shows property (left + 3))
    (file : Descriptor)
    (log : Log)
    (visits : List Visit) :
    ∃ result log' after visit,
      pipeline.process (watched settings enricher publisher) file log (workspace, visits) =
        (result, log', after, visit :: visits) ∧
      after.clock.Shows property left ∧
      visit.During property pipeline.settings.cache.ttlSeconds := by
  have isNow := isShown.read
  have nothing : Visit.During property pipeline.settings.cache.ttlSeconds
      { file, source := readSource settings workspace.disk file.path } :=
    ⟨fun _ member => absurd member List.not_mem_nil,
      fun _ member => absurd member List.not_mem_nil⟩
  simp only [Pipeline.process, now_watched, read_watched]
  split
  · exact ⟨_, _, _, _, rfl, isNow.2.mono (Nat.le_add_right left 2), nothing⟩
  · rename_i analyzed _ _
    have enriches : Notes property pipeline.settings.cache.ttlSeconds 2
        (pipeline.enrich (watched settings enricher publisher) file analyzed) :=
      notes_enrich file analyzed
    obtain ⟨after, other, isAfter, isLater, during⟩ :=
      enriches { workspace with clock := workspace.clock.read.2 }
        { file, source := readSource settings workspace.disk file.path } visits left isNow.2
        nothing
    rw [isAfter]
    exact ⟨_, _, after, other, rfl, isLater, during⟩

/-- Files only add visits, and take no more than three looks at the clock each. -/
theorem exists_processAll_visits
    {workspace : Workspace ε π}
    (files : List Descriptor)
    (isShown : workspace.clock.Shows property (3 * files.length))
    (log : Log)
    (visits : List Visit) :
    ∃ made,
      (pipeline.processAll (watched settings enricher publisher) files log
        (workspace, visits)).2.2.2 = made ++ visits ∧
      ∀ visit ∈ made, visit.During property pipeline.settings.cache.ttlSeconds := by
  induction files generalizing log workspace visits with
  | nil =>
      exact ⟨[], rfl, by simp⟩
  | cons file rest inductionHypothesis =>
      obtain ⟨result, log', after, visit, isProcessed, isLater, during⟩ :=
        exists_process_visit settings enricher publisher pipeline isShown file log visits
      unfold Pipeline.processAll
      rw [isProcessed]
      cases result with
      | error failure =>
          exact ⟨[visit], rfl, by simpa using during⟩
      | ok report =>
          dsimp only
          rw [publish_watched]
          let reported : Visit := { visit with report? := some report }
          let last : Workspace ε π :=
            { after with publisher := (publisher.publish file report after.publisher).2 }
          have reportedDuring : reported.During property pipeline.settings.cache.ttlSeconds :=
            during
          cases (publisher.publish file report after.publisher).1 with
          | error failure =>
              exact ⟨[reported], rfl, List.forall_mem_singleton.mpr reportedDuring⟩
          | ok _ =>
              have lastShown : last.clock.Shows property (3 * rest.length) := isLater
              obtain ⟨made, areMade, areDuring⟩ :=
                inductionHypothesis lastShown log' (reported :: visits)
              refine ⟨made ++ [reported], ?_, ?_⟩
              · rw [List.append_assoc]
                exact areMade
              · rw [List.forall_mem_append]
                exact ⟨areDuring, List.forall_mem_singleton.mpr reportedDuring⟩

/-- Files only add visits. -/
theorem visits_suffix_processAll
    (files : List Descriptor)
    (log : Log)
    (workspace : Workspace ε π)
    (visits : List Visit) :
    visits <:+ (pipeline.processAll (watched settings enricher publisher) files log
      (workspace, visits)).2.2.2 := by
  have always : workspace.clock.Shows (fun _ => True) (3 * files.length) :=
    fun _ _ => trivial
  obtain ⟨made, areMade, _⟩ :=
    exists_processAll_visits settings enricher publisher pipeline files always log visits
  rw [areMade]
  exact List.suffix_append made visits

end File

end SourceFacts.Run
