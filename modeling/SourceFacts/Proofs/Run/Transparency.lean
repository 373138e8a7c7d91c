import SourceFacts.Proofs.Analysis.Verdicts
import SourceFacts.Proofs.Cache.Keys
import SourceFacts.Proofs.Run.History
import SourceFacts.Proofs.Run.Reuse
import SourceFacts.Run.Services

namespace SourceFacts.Run

/-!
# Where summaries from the store come from

A summary can always be stored, and tells nothing about a file but what is found in its
text. One that is found in the store was made of an earlier file with the same key. The
key does not tell a text from one with other line endings, or with a mark before it. So
the summary is the one of the file itself if the two texts are the same, but it need not
be if they are the same only as far as the key tells.
-/

open Analysis Cache Config Disk Facts Failures Parsing Text Time

namespace Summary

open Json

/-! ## Storing summaries -/

/-- The first line of a docstring is plain. -/
theorem plain_firstLine
    {bound : Nat}
    (docstring : Option String) :
    Plain bound (firstLine docstring) :=
  plain_orNull plain_string _

/-- What is told about a function is plain. -/
theorem plain_ofFunction (function : Function) : Plain 2 (ofFunction function) := by
  have sorted : ["complexity", "is_async", "name", "parameters", "summary"].Pairwise (· < ·) := by
    decide
  refine plain_object sorted ?_
  simp only [List.forall_mem_cons]
  exact ⟨plain_integer _, plain_bool _, plain_string _, plain_strings _, plain_firstLine _,
    fun _ member => absurd member List.not_mem_nil⟩

/-- What is told about a class is plain. -/
theorem plain_ofClass (cls : Facts.Class) : Plain 2 (ofClass cls) := by
  have sorted : ["bases", "methods", "name", "patterns", "summary"].Pairwise (· < ·) := by
    decide
  refine plain_object sorted ?_
  simp only [List.forall_mem_cons]
  exact ⟨plain_strings _, plain_strings _, plain_string _, plain_strings _, plain_firstLine _,
    fun _ member => absurd member List.not_mem_nil⟩

/-- Summaries are plain. -/
theorem plain_ofRequest
    (generator : String)
    (request : Request) :
    Plain 4 (ofRequest generator request) := by
  have classes : Plain 3 (.array (request.model.classes.map ofClass)) := by
    refine plain_array ?_
    intro item member
    obtain ⟨cls, _, rfl⟩ := List.mem_map.mp member
    exact plain_ofClass cls
  have functions : Plain 3 (.array (request.model.functions.map ofFunction)) := by
    refine plain_array ?_
    intro item member
    obtain ⟨function, _, rfl⟩ := List.mem_map.mp member
    exact plain_ofFunction function
  have sorted : ["classes", "complexity", "excerpt_bytes", "frameworks", "functions",
      "generator", "imports", "line_count", "summary"].Pairwise (· < ·) := by
    decide
  refine plain_object sorted ?_
  simp only [List.forall_mem_cons]
  exact ⟨classes, plain_integer _, plain_integer _, plain_strings _, functions, plain_string _,
    plain_strings _, plain_integer _, plain_firstLine _,
    fun _ member => absurd member List.not_mem_nil⟩

/-- Summaries can be stored. -/
theorem isStorable_enricher (configId : String) : (enricher configId).IsStorable := by
  rintro request state payload isMade
  obtain rfl := Except.ok.inj isMade
  have plain := plain_ofRequest configId request
  exact ⟨plain.canonical, Nat.le_trans plain.shallow (by decide), plain.readsBack⟩

/-! ## What they are made from -/

/-- Two files with the same text have the same summary. -/
theorem ofRequest_congr
    {pipeline : Pipeline}
    {path otherPath : String}
    {source otherSource : SourceText}
    {model otherModel : Model}
    (isModel : pipeline.analyzer.model? path source = some model)
    (isOtherModel : pipeline.analyzer.model? otherPath otherSource = some otherModel)
    (sameText : source.text = otherSource.text)
    (generator : String)
    (file other : Descriptor) :
    ofRequest generator (pipeline.request file model source.text) =
      ofRequest generator (pipeline.request other otherModel otherSource.text) := by
  rw [Analyzer.model?] at isModel isOtherModel
  rw [← sameText] at isOtherModel
  cases isParsed : pipeline.analyzer.parse pipeline.analyzer.settings.parseTimeoutMs.toNat
      source.text with
  | error failure =>
      simp [isParsed] at isModel
  | ok parsed =>
      rw [isParsed] at isModel isOtherModel
      obtain rfl := Option.some.inj isModel
      obtain rfl := Option.some.inj isOtherModel
      rw [Analyzer.modelOf_congr pipeline.analyzer path otherPath parsed sameText, sameText]
      rfl

end Summary

namespace Visit

/-- The text that was read, if any was. -/
def text? (visit : Visit) : Option String := visit.source.toOption.map (·.text)

/-- The model that was reported, if there is one. -/
def model? (visit : Visit) : Option Model := visit.report?.bind (·.outcome.model?)

/-- The summary of the model and the text of the file itself. -/
def summary? (pipeline : Pipeline) (visit : Visit) : Option Json := do
  let request := pipeline.request visit.file (← visit.model?) (← visit.text?)
  return Summary.ofRequest pipeline.configId request

/-- What the key of the file stands for. -/
def keyInputs? (pipeline : Pipeline) (visit : Visit) : Option KeyInputs := do
  return pipeline.keyInputs visit.file.path (← visit.model?) (← visit.text?)

/-- There is nothing in the text that the key does not tell: no mark before it, and no line
ending of two bytes. -/
def IsNormal (visit : Visit) : Prop :=
  ∀ text, visit.text? = some text → normalize (encode text) = encode text

/-- Two files are the same as far as their keys tell. -/
def Resembles (pipeline : Pipeline) (visit other : Visit) : Prop :=
  ∃ inputs otherInputs, visit.keyInputs? pipeline = some inputs ∧
    other.keyInputs? pipeline = some otherInputs ∧ inputs.Agree otherInputs

end Visit

variable {pipeline : Pipeline} {contents : Contents} {visit other : Visit}
  {visits earlier : List Visit}

/-- What is read, found and reported at a visit that comes to an enrichment. -/
structure Visit.Subject (pipeline : Pipeline) (visit : Visit) (source : SourceText)
    (model : Model) : Prop where
  isText : visit.text? = some source.text
  isModel : visit.model? = some model
  isFound : pipeline.analyzer.model? visit.file.path source = some model

namespace Visit.Subject

variable {source : SourceText} {model : Model}

/-- The summary of a file is that of its subject. -/
theorem summary?_eq (subject : visit.Subject pipeline source model) :
    visit.summary? pipeline =
      some (Summary.ofRequest pipeline.configId
        (pipeline.request visit.file model source.text)) := by
  rw [summary?, subject.isText, subject.isModel]
  rfl

/-- The key of a file stands for its subject. -/
theorem keyInputs?_eq (subject : visit.Subject pipeline source model) :
    visit.keyInputs? pipeline =
      some (pipeline.keyInputs visit.file.path model source.text) := by
  rw [keyInputs?, subject.isText, subject.isModel]
  rfl

/-- Two files with the same text have the same summary. -/
theorem summary?_congr
    {otherSource : SourceText}
    {otherModel : Model}
    (subject : visit.Subject pipeline source model)
    (otherSubject : other.Subject pipeline otherSource otherModel)
    (sameText : visit.text? = other.text?) :
    visit.summary? pipeline = other.summary? pipeline := by
  rw [subject.isText, otherSubject.isText, Option.some.injEq] at sameText
  rw [subject.summary?_eq, otherSubject.summary?_eq,
    Summary.ofRequest_congr subject.isFound otherSubject.isFound sameText]

/-- The keys of normal texts tell them apart. -/
theorem text?_eq
    {otherSource : SourceText}
    {otherModel : Model}
    (subject : visit.Subject pipeline source model)
    (otherSubject : other.Subject pipeline otherSource otherModel)
    (agree : (pipeline.keyInputs visit.file.path model source.text).Agree
      (pipeline.keyInputs other.file.path otherModel otherSource.text))
    (isNormal : visit.IsNormal)
    (isOtherNormal : other.IsNormal) :
    visit.text? = other.text? := by
  have sameBytes : encode source.text = encode otherSource.text := by
    rw [← isNormal _ subject.isText, ← isOtherNormal _ otherSubject.isText]
    exact agree.content
  rw [subject.isText, otherSubject.isText, encode_inj.mp sameBytes]

end Visit.Subject

/-! ## Summaries in the store -/

variable {payload : Json} {entry : Entry}

/-- What is reported from the store is under the key of the file. -/
theorem Visit.Course.of_cached
    {enricher : Enricher ε}
    (course : visit.Course pipeline enricher contents)
    (isCached : visit.enrichment? = some (.cached payload)) :
    ∃ source model entry, visit.Subject pipeline source model ∧
      contents (pipeline.keyInputs visit.file.path model source.text).key = some entry ∧
      entry.payload = payload := by
  obtain ⟨reported, isReported, isEnrichment⟩ := Option.map_eq_some_iff.mp isCached
  cases course with
  | passedBy _ _ _ isReport _ =>
      have noPayload := (isReport reported isReported).2
      rw [isEnrichment] at noPayload
      exact absurd noPayload (by simp [Enrichment.payload?])
  | @enriched report source model key now isReport isSource isFound isModel isKey _ _ became =>
      obtain rfl := Option.some.inj (isReport.symm.trans isReported)
      have subject : visit.Subject pipeline source model :=
        ⟨by simp [Visit.text?, isSource, Except.toOption],
          by simp [Visit.model?, isReport, isModel], isFound⟩
      rw [isEnrichment] at became
      generalize visit.asked = asked at became
      generalize visit.kept = kept at became
      cases became with
      | @found entry isHit =>
          have held := (Contents.fresh_eq_some.mp isHit).1
          rw [isKey] at held
          exact ⟨source, model, entry, subject, held, rfl⟩

/-- A file that was read and has a model is looked up under its key. -/
theorem Visit.Course.of_model
    {enricher : Enricher ε}
    {source : SourceText}
    {model : Model}
    (course : visit.Course pipeline enricher contents)
    (enabled : pipeline.settings.cache.enabled = true)
    (isSource : visit.source = .ok source)
    (isModel : pipeline.analyzer.model? visit.file.path source = some model) :
    visit.Subject pipeline source model ∧
      visit.key? = some (pipeline.keyInputs visit.file.path model source.text).key := by
  cases course with
  | passedBy _ _ _ _ noModel =>
      rw [noModel enabled source isSource] at isModel
      exact absurd isModel (by simp)
  | enriched isReport isOther isFound isReported isKey hasKey _ _ =>
      obtain rfl := Except.ok.inj (isOther.symm.trans isSource)
      obtain rfl := Option.some.inj (isFound.symm.trans isModel)
      refine ⟨⟨by simp [Visit.text?, isSource, Except.toOption],
        by simp [Visit.model?, isReport, isReported], isFound⟩, ?_⟩
      simp [Visit.key?, isReport, hasKey, isKey]

/-- What is stored for a file is its summary, under its key. -/
theorem Visit.Course.of_summarized
    (course : visit.Course pipeline (Summary.enricher pipeline.configId) contents)
    (isKept : entry ∈ visit.kept) :
    ∃ source model, visit.Subject pipeline source model ∧
      entry.key = (pipeline.keyInputs visit.file.path model source.text).key ∧
      visit.summary? pipeline = some entry.payload := by
  cases course with
  | passedBy _ _ keptNothing _ _ =>
      rw [keptNothing] at isKept
      exact absurd isKept List.not_mem_nil
  | @enriched report source model key now isReport isSource isFound isModel isKey _ _ became =>
      have subject : visit.Subject pipeline source model :=
        ⟨by simp [Visit.text?, isSource, Except.toOption],
          by simp [Visit.model?, isReport, isModel], isFound⟩
      generalize report.enrichment = enrichment at became
      generalize visit.asked = asked at became
      generalize visit.kept = kept at became isKept
      cases became with
      | found isHit =>
          exact absurd isKept List.not_mem_nil
      | failed isMiss answer =>
          exact absurd isKept List.not_mem_nil
      | made isMiss answer hasKey =>
          obtain rfl := List.mem_singleton.mp isKept
          refine ⟨source, model, subject, hasKey.trans isKey, ?_⟩
          rw [subject.summary?_eq]
          exact congrArg some (Except.ok.inj answer)

/-- A summary is stored for a file without a fresh one under its key. -/
theorem Visit.Course.exists_kept
    {key : Key}
    (course : visit.Course pipeline (Summary.enricher pipeline.configId) contents)
    (isKey : visit.key? = some key)
    (isMiss : ∀ now, contents.fresh key now = none) :
    ∃ entry, entry ∈ visit.kept := by
  obtain ⟨request, now, enrichment, asked, kept, _, _, _, areKept, became⟩ := course.of_key isKey
  rw [areKept]
  cases became with
  | found isHit =>
      rw [isMiss now] at isHit
      exact absurd isHit (by simp)
  | failed _ answer =>
      exact absurd answer (by simp [Summary.enricher])
  | made _ _ _ =>
      exact ⟨_, List.mem_cons_self⟩

/-! ## Line endings -/

/-- The tree of a text of nothing but blanks. -/
def blankTree (text : String) : Parsed :=
  let finish := text.toList.foldl Extent.addChar .zero
  { root := .mk { kind := "module", start := finish, stop := finish } [], errors := [] }

/-- A pipeline that summarizes texts of nothing but blanks. -/
def blankPipeline : Pipeline where
  settings := { cache := topCache }
  analyzer := { parse := fun _ text => .ok (blankTree text) }
  configId := "offline-summary"

/-- The model of a text of nothing but blanks. -/
def blankModel (path : String) (source : SourceText) : Model :=
  blankPipeline.analyzer.modelOf path source (blankTree source.text)

/-- A line that ends in a line feed. -/
def shortLine : SourceText := { text := "\n", sizeBytes := 1 }

/-- The same line, with a line ending of two bytes. -/
def longLine : SourceText := { text := "\r\n", sizeBytes := 2 }

/-- A workspace with a file of each kind and an empty directory for a store. -/
def lineEndings : Workspace Nat Unit where
  disk := { entries := [
    (["cache"], .directory),
    (["a.py"], .file (encode shortLine.text) {}),
    (["b.py"], .file (encode longLine.text) {})] }
  store := Store.ofSettings topCache
  enricher := 0
  publisher := ()

/-- The two files. -/
def lineFiles : List Descriptor :=
  [{ path := "a.py", sizeBytes := 1 }, { path := "b.py", sizeBytes := 2 }]

/-- What is visited in a run over the two files. -/
def lineVisits : Workspace Nat Unit × List Visit :=
  (blankPipeline.run (watched {} (Summary.enricher blankPipeline.configId) patientPublisher)
    lineFiles (lineEndings, [])).state

/-- The key does not tell the line endings apart. -/
theorem agree_lines :
    (blankPipeline.keyInputs "a.py" (blankModel "a.py" shortLine) shortLine.text).Agree
      (blankPipeline.keyInputs "b.py" (blankModel "b.py" longLine) longLine.text) :=
  ⟨by decide, rfl, by decide +kernel, rfl, rfl⟩

/-- The fields of the keys are short. -/
theorem countable_lines :
    (blankPipeline.keyInputs "a.py" (blankModel "a.py" shortLine) shortLine.text).Countable ∧
      (blankPipeline.keyInputs "b.py" (blankModel "b.py" longLine) longLine.text).Countable :=
  ⟨⟨by decide, by decide, by decide +kernel, by decide, by decide⟩,
    ⟨by decide, by decide, by decide +kernel, by decide, by decide⟩⟩

/-- Outside of the store the tree is the same throughout. -/
theorem readSource_lineEndings
    {disk : Disk}
    (isOutside : disk.prune ["cache"] = lineEndings.disk.prune ["cache"]) :
    readSource {} disk "a.py" = .ok shortLine ∧ readSource {} disk "b.py" = .ok longLine := by
  have isShort : disk.node? ["a.py"] = some (.file (encode shortLine.text) {}) :=
    node?_of_prune (by rw [isOutside]; decide)
  have isLong : disk.node? ["b.py"] = some (.file (encode longLine.text) {}) :=
    node?_of_prune (by rw [isOutside]; decide)
  constructor
  · exact readSource_of_find (find_top_file (by decide) isShort) (by decide) rfl
  · exact readSource_of_find (find_top_file (by decide) isLong) (by decide) rfl

/-- Before the run there is an empty directory for the store. -/
theorem find_lineEndings :
    lineEndings.disk.find true topCache.directory = .ok (["cache"], .directory) :=
  find_top (by decide) (by decide)

/-- The run is a history of its own. -/
theorem history_lines :
    History topCache ["cache"]
      (fun taken enricher => taken = blankPipeline ∧
        enricher = Summary.enricher blankPipeline.configId)
      lineVisits.1 lineVisits.2 := by
  refine .run (.begin rfl find_lineEndings (by decide) (by decide) (by decide)) rfl ⟨rfl, rfl⟩
    (Summary.isStorable_enricher _) ?_ patientPublisher _
  exact fun path isPath => absurd isPath (by simp [blankPipeline])

/-- The run does not take long. -/
theorem during_lines :
    ∀ visit ∈ lineVisits.2, visit.During (Soon 0 topCache.ttlSeconds.toNat)
      topCache.ttlSeconds := by
  have isShown : lineEndings.clock.Shows (Soon 0 topCache.ttlSeconds.toNat) 7 := by
    unfold Clock.Shows Soon
    decide
  obtain ⟨made, areMade, during⟩ :=
    exists_run_visits {} (Summary.enricher blankPipeline.configId) patientPublisher blankPipeline
      lineFiles isShown []
  rw [List.append_nil] at areMade
  rw [lineVisits, areMade]
  exact during

/-- Both files are visited, each with its text and its model. -/
theorem exists_line_visits :
    ∃ first second, lineVisits.2 = [second, first] ∧
      first.file.path = "a.py" ∧ second.file.path = "b.py" ∧
      first.Subject blankPipeline shortLine (blankModel "a.py" shortLine) ∧
      second.Subject blankPipeline longLine (blankModel "b.py" longLine) ∧
      first.key?.isSome ∧ first.key? = second.key? := by
  let text (file : Descriptor) : SourceText := if file.path = "a.py" then shortLine else longLine
  have dated : Dated lineVisits.2 := dated_of_during during_lines
  have readable : ∀ file ∈ lineFiles, ∀ disk : Disk,
      disk.prune ["cache"] = lineEndings.disk.prune ["cache"] →
        readSource {} disk file.path = .ok (text file) := by
    intro file member disk isOutside
    rcases List.mem_cons.mp member with rfl | other
    · exact (readSource_lineEndings isOutside).1
    · obtain rfl := List.mem_singleton.mp other
      exact (readSource_lineEndings isOutside).2
  obtain ⟨made, areMade, areFiles⟩ :=
    exists_run_visits_of_readable
      (Holds.of_empty rfl find_lineEndings (by decide) (by decide) (by decide))
      (Summary.isStorable_enricher _) rfl readable (fun file _ => ⟨_, rfl⟩) (fun _ _ _ => rfl)
      dated
  obtain ⟨second, others, rfl, isSecond, areOthers⟩ := List.map_eq_cons_iff.mp areFiles
  obtain ⟨first, _, rfl, isFirst, isLast⟩ := List.map_eq_cons_iff.mp areOthers
  obtain rfl := List.map_eq_nil_iff.mp isLast
  have firstPath : first.file.path = "a.py" := congrArg (·.1.path) isFirst
  have firstSource : first.source = .ok shortLine := congrArg (·.2) isFirst
  have firstModel : blankPipeline.analyzer.model? first.file.path shortLine =
      some (blankModel "a.py" shortLine) := by
    rw [firstPath]
    rfl
  have secondPath : second.file.path = "b.py" := congrArg (·.1.path) isSecond
  have secondSource : second.source = .ok longLine := congrArg (·.2) isSecond
  have secondModel : blankPipeline.analyzer.model? second.file.path longLine =
      some (blankModel "b.py" longLine) := by
    rw [secondPath]
    rfl
  have chronicle := (history_lines.sound dated).chronicle
  rw [lineVisits, areMade] at chronicle
  obtain ⟨⟨_, _, ⟨rfl, rfl⟩, secondCourse⟩, ⟨_, _, ⟨rfl, rfl⟩, firstCourse⟩, _⟩ := chronicle
  obtain ⟨firstSubject, firstKey⟩ := firstCourse.of_model rfl firstSource firstModel
  obtain ⟨secondSubject, secondKey⟩ := secondCourse.of_model rfl secondSource secondModel
  refine ⟨first, second, areMade, firstPath, secondPath, firstSubject, secondSubject, ?_, ?_⟩
  · rw [firstKey]
    rfl
  · have samePreimage :=
      (KeyInputs.preimage_eq_iff countable_lines.1 countable_lines.2).mpr agree_lines
    rw [firstKey, secondKey, firstPath, secondPath, KeyInputs.key, KeyInputs.key, samePreimage]

/-- The summary of the first file is reported for the second one. -/
theorem exists_cached_line :
    ∃ first second payload, lineVisits.2 = [second, first] ∧
      first.file.path = "a.py" ∧ second.file.path = "b.py" ∧
      first.Subject blankPipeline shortLine (blankModel "a.py" shortLine) ∧
      second.Subject blankPipeline longLine (blankModel "b.py" longLine) ∧
      second.enrichment? = some (.cached payload) ∧
      first.summary? blankPipeline = some payload := by
  obtain ⟨first, second, areVisits, firstPath, secondPath, firstSubject, secondSubject, hasKey,
    sameKey⟩ := exists_line_visits
  obtain ⟨key, isKey⟩ := Option.isSome_iff_exists.mp hasKey
  have timely : Timely lineVisits.2 := timely_of_during during_lines (by decide) (by decide)
  have chronicle := (history_lines.sound (dated_of_during during_lines)).chronicle
  have reused := pairwise_reuses chronicle timely
  rw [areVisits] at chronicle reused
  obtain ⟨_, ⟨_, _, ⟨rfl, rfl⟩, firstCourse⟩, _⟩ := chronicle
  obtain ⟨entry, isKept⟩ := firstCourse.exists_kept isKey fun _ => rfl
  obtain ⟨_, _, isMade, _⟩ := firstCourse.of_kept isKept
  obtain ⟨_, _, _, _, isSummary⟩ := firstCourse.of_summarized isKept
  refine ⟨first, second, entry.payload, areVisits, firstPath, secondPath, firstSubject,
    secondSubject, ?_, isSummary⟩
  have isReused := List.rel_of_pairwise_cons reused List.mem_cons_self
  exact (isReused key entry.payload isKey (by rw [isMade]; exact List.mem_cons_self)
    (sameKey.symm.trans isKey)).1

/-! ## Histories with summaries -/

/-- In a history of a pipeline that summarizes, wherever its reports on failures are written, what
is reported from the store is the summary of an earlier file that is the same as far as the key
tells, if keys are told apart; so it is the summary of the file itself if the texts are the
same. -/
theorem OpenHistory.cached_summary
    {cache : CacheSettings}
    {place : Place}
    {workspace : Workspace Nat π}
    (history : OpenHistory cache place
      (fun taken enricher => taken = pipeline ∧ enricher = Summary.enricher pipeline.configId)
      workspace visits)
    (dated : Dated visits)
    (countable : ∀ visit ∈ visits, ∀ inputs, visit.keyInputs? pipeline = some inputs →
      inputs.Countable)
    (distinguished : ∀ visit ∈ visits, ∀ other ∈ visits, ∀ inputs otherInputs,
      visit.keyInputs? pipeline = some inputs → other.keyInputs? pipeline = some otherInputs →
        inputs.Distinguished otherInputs)
    (isSuffix : visit :: earlier <:+ visits)
    (isCached : visit.enrichment? = some (.cached payload)) :
    ∃ other ∈ earlier, visit.Resembles pipeline other ∧
      other.summary? pipeline = some payload ∧
      (visit.text? = other.text? ∨ (visit.IsNormal ∧ other.IsNormal) →
        visit.summary? pipeline = some payload) := by
  have tale := (history.rests dated).tale
  obtain ⟨taken, _, contents, ⟨isTaken, _⟩, stems, course⟩ := tale.course isSuffix
  rw [isTaken] at course
  obtain ⟨source, model, entry, subject, held, rfl⟩ := course.of_cached isCached
  obtain ⟨isStored, isKey⟩ := stems _ entry held
  obtain ⟨other, isEarlier, isKept⟩ := List.mem_flatMap.mp isStored
  have isVisit : visit ∈ visits := isSuffix.subset List.mem_cons_self
  have isOther : other ∈ visits := isSuffix.subset (List.mem_cons_of_mem visit isEarlier)
  obtain ⟨otherTaken, _, _, ⟨isOtherTaken, isSummarizer⟩, otherCourse⟩ :=
    tale.course_of_mem isOther
  rw [isOtherTaken, isSummarizer] at otherCourse
  obtain ⟨otherSource, otherModel, otherSubject, isOtherKey, isSummary⟩ :=
    otherCourse.of_summarized isKept
  have isInputs := subject.keyInputs?_eq
  have areOtherInputs := otherSubject.keyInputs?_eq
  have agree := (KeyInputs.key_eq_iff (countable visit isVisit _ isInputs)
    (countable other isOther _ areOtherInputs)
    (distinguished visit isVisit other isOther _ _ isInputs areOtherInputs)).mp
    (isKey.symm.trans isOtherKey)
  refine ⟨other, isEarlier, ⟨_, _, isInputs, areOtherInputs, agree⟩, isSummary, ?_⟩
  intro same
  rw [← isSummary]
  exact subject.summary?_congr otherSubject
    (same.elim id fun normal => subject.text?_eq otherSubject agree normal.1 normal.2)

/-- In the run over the two files the summary that is reported for the second one is that of
the first one. -/
theorem OpenHistory.cached_summary_lines :
    ∃ visit earlier payload, lineVisits.2 = visit :: earlier ∧
      visit.enrichment? = some (.cached payload) ∧
      ∃ other ∈ earlier, visit.Resembles blankPipeline other ∧
        other.summary? blankPipeline = some payload := by
  obtain ⟨first, second, payload, areVisits, firstPath, secondPath, firstSubject, secondSubject,
    isCached, _⟩ := exists_cached_line
  have firstInputs := firstSubject.keyInputs?_eq
  have secondInputs := secondSubject.keyInputs?_eq
  rw [firstPath] at firstInputs
  rw [secondPath] at secondInputs
  have samePreimage :=
    (KeyInputs.preimage_eq_iff countable_lines.1 countable_lines.2).mpr agree_lines
  have hashed : ∀ visit ∈ lineVisits.2, ∀ inputs,
      visit.keyInputs? blankPipeline = some inputs → inputs.Countable ∧
        inputs.preimage = (blankPipeline.keyInputs "a.py" (blankModel "a.py" shortLine)
          shortLine.text).preimage := by
    intro visit member inputs areInputs
    rw [areVisits] at member
    rcases List.mem_cons.mp member with rfl | other
    · obtain rfl := Option.some.inj (secondInputs.symm.trans areInputs)
      exact ⟨countable_lines.2, samePreimage.symm⟩
    · obtain rfl := List.mem_singleton.mp other
      obtain rfl := Option.some.inj (firstInputs.symm.trans areInputs)
      exact ⟨countable_lines.1, rfl⟩
  have dated := dated_of_during during_lines
  have isSuffix : second :: [first] <:+ lineVisits.2 := ⟨[], areVisits.symm⟩
  refine ⟨second, [first], payload, areVisits, isCached, ?_⟩
  obtain ⟨other, isEarlier, resembles, isSummary, _⟩ :=
    OpenHistory.cached_summary (history_lines.isOpen dated) dated
      (fun visit member inputs areInputs => (hashed visit member inputs areInputs).1)
      (fun visit member other isOther inputs others areInputs areOthers _ =>
        (hashed visit member inputs areInputs).2.trans
          (hashed other isOther others areOthers).2.symm)
      isSuffix isCached
  exact ⟨other, isEarlier, resembles, isSummary⟩

/-- What is reported from the store need not be the summary of the file itself. -/
theorem exists_cached_summary_ne :
    ¬ ∀ visit ∈ lineVisits.2, ∀ payload, visit.enrichment? = some (.cached payload) →
      visit.summary? blankPipeline = some payload := by
  obtain ⟨first, second, payload, areVisits, _, _, firstSubject, secondSubject, isCached,
    isSummary⟩ := exists_cached_line
  intro transparent
  have same := transparent second (by rw [areVisits]; exact List.mem_cons_self) payload isCached
  rw [← isSummary, firstSubject.summary?_eq, secondSubject.summary?_eq] at same
  simp only [Summary.ofRequest, Option.some.injEq, Json.object.injEq, List.cons.injEq,
    Prod.mk.injEq, true_and] at same
  have sameSize : Json.natural 2 = Json.natural 1 := same.2.2.1
  exact absurd (Json.integer.inj sameSize) (by decide)

end SourceFacts.Run
