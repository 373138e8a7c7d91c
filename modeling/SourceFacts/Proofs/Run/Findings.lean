import SourceFacts.Proofs.Analysis.Verdicts
import SourceFacts.Proofs.Run.Lockstep

namespace SourceFacts.Run

/-!
# What runs find out and report

What was read of the files of a run decides what is reported about them, and it is known
beforehand if whatever the services maintain decides what is read.
-/

open Analysis Facts Failures Time

/-!
## What a run finds out about its files

What was read of a file decides the report on it but for the enrichment, and whether the
analysis ends the run. So two runs that read the same of their files tell the same about them,
whatever becomes of the enrichments, as long as their publishers answer alike.
-/

/-! ### Findings -/

/-- What a report tells apart from the enrichment. -/
structure Finding where
  path : String
  outcome : Outcome
  key? : Option Cache.Key

/-- What a report tells about the file itself. -/
def Report.finding (report : Report) : Finding where
  path := report.path
  outcome := report.outcome
  key? := report.key?

/-- The file that was reported, and what was found out about it. -/
def Event.finding? (event : Event) : Option (Descriptor × Finding) :=
  event.report?.map fun (file, report) => (file, report.finding)

/-- What was found out is told by the reports. -/
theorem filterMap_finding? (events : List Event) :
    events.filterMap (·.finding?) =
      (events.filterMap (·.report?)).map fun (file, report) => (file, report.finding) :=
  List.map_filterMap.symm

/-- What a publisher answered. -/
def Event.answer? : Event → Option (Except DeliveryFailure Unit)
  | .published _ _ answer | .finished _ answer => some answer
  | _ => none

/-- What is read of a file that is taken next. -/
def Services.sourceOf (services : Services σ) (file : Descriptor) (state : σ) :
    Except Analysis.Failure SourceText :=
  (services.read file (services.now state).2).1

namespace Pipeline

/-- The key that is looked up for what was read at a path. -/
def key? (pipeline : Pipeline) (path : String) (source : Except Analysis.Failure SourceText) :
    Option Cache.Key :=
  if pipeline.settings.cache.enabled then
    source.toOption.bind fun source =>
      (pipeline.analyzer.model? path source).map fun model =>
        (pipeline.keyInputs path model source.text).key
  else none

/-- What is found out about what was read at a path. -/
def finding (pipeline : Pipeline) (path : String) (source : Except Analysis.Failure SourceText) :
    Finding where
  path
  outcome := pipeline.analyzer.outcome path source
  key? := pipeline.key? path source

/-- What is found out about what was read at a path, or the failure that ends the run. -/
def verdict (pipeline : Pipeline) (path : String) (source : Except Analysis.Failure SourceText) :
    Except Analysis.Failure Finding :=
  match pipeline.analyzer.failure? source with
  | some failure =>
      if pipeline.analyzer.settings.continueOnError then .ok (pipeline.finding path source)
      else .error failure
  | none => .ok (pipeline.finding path source)

theorem key?_of_failure?
    {pipeline : Pipeline}
    {source : Except Analysis.Failure SourceText}
    {failure : Analysis.Failure}
    (fails : pipeline.analyzer.failure? source = some failure)
    (path : String) :
    pipeline.key? path source = none := by
  rw [key?]
  cases source with
  | error other =>
      split <;> rfl
  | ok text =>
      simp [Except.toOption, Analyzer.model?_of_failure? fails]

/-- The key of a file with a model is that of the model. -/
theorem enrich_fst_fst
    {outcome : Outcome}
    {model : Model}
    (pipeline : Pipeline)
    (services : Services σ)
    (file : Descriptor)
    (hasModel : outcome.model? = some model)
    (source : String)
    (state : σ) :
    (pipeline.enrich services file { outcome, source? := some source } state).1.1 =
      if pipeline.settings.cache.enabled then some (pipeline.keyInputs file.path model source).key
      else none := by
  simp only [enrich, hasModel]
  split <;> rfl

/-- What is read of a file decides what is found out about it. -/
theorem map_finding_process
    (pipeline : Pipeline)
    (services : Services σ)
    (file : Descriptor)
    (log : Log)
    (state : σ) :
    (pipeline.process services file log state).1.map Report.finding =
      pipeline.verdict file.path (services.sourceOf file state) := by
  simp only [process, Analyzer.analyzeRead_eq, Analyzer.answer, verdict, Services.sourceOf]
  generalize (services.read file (services.now state).2).1 = read
  cases isFailure : pipeline.analyzer.failure? read with
  | some failure =>
      cases continues : pipeline.analyzer.settings.continueOnError with
      | true =>
          simp only [if_true, finding, key?_of_failure? isFailure,
            Analyzer.outcome_of_failure? isFailure]
          rfl
      | false =>
          rfl
  | none =>
      obtain ⟨source, model, rfl, isModel, hasModel⟩ :=
        Analyzer.exists_model_of_failure? isFailure file.path
      simp only [Except.map, finding, Report.finding, Except.toOption, Option.map_some,
        enrich_fst_fst pipeline services file hasModel, key?, Option.bind_some, isModel]

end Pipeline

/-! ### Files -/

section Files

variable {pipeline : Pipeline} {file : Descriptor} {files : List Descriptor}
  {log other after last : Log} {events others : List Event}

/-- What was read of a file decides what is found out about it, and what the log counts. -/
theorem Handling.verdict
    {result : Except Analysis.Failure Report}
    (handling : Handling pipeline file log result after events) :
    ∃ source, events.filterMap (·.source?) = [(file, source)] ∧
      result.map Report.finding = pipeline.verdict file.path source ∧
      Log.Counts log after [pipeline.analyzer.outcome file.path source] := by
  cases handling with
  | @failed now source failure record fails continues isCategory =>
      refine ⟨source, rfl, ?_, ?_⟩
      · rw [Pipeline.verdict, fails]
        simp only [continues, if_true, Pipeline.finding, Analyzer.outcome_of_failure? fails,
          Pipeline.key?_of_failure? fails]
        rfl
      · rw [Analyzer.outcome_of_failure? fails]
        exact .addRecord log isCategory
  | @stopped now source failure record fails stops isCategory =>
      refine ⟨source, rfl, ?_, ?_⟩
      · rw [Pipeline.verdict, fails]
        simp only [stops, Bool.false_eq_true, if_false]
        rfl
      · rw [Analyzer.outcome_of_failure? fails]
        exact .addRecord log isCategory
  | @plain now source succeeds isDisabled =>
      obtain ⟨_, _, _, _, hasModel⟩ := Analyzer.exists_model_of_failure? succeeds file.path
      refine ⟨.ok source, rfl, ?_, .addSuccess log hasModel⟩
      rw [Pipeline.verdict, succeeds]
      simp only [Pipeline.finding, Pipeline.key?, isDisabled, Bool.false_eq_true, if_false]
      rfl
  | @enriched now source model enrichment calls succeeds isModel isEnabled enriching =>
      obtain ⟨_, _, _, _, hasModel⟩ := Analyzer.exists_model_of_failure? succeeds file.path
      have sources : (Event.looked now :: .read file (.ok source) :: calls).filterMap
          (·.source?) = [(file, .ok source)] :=
        congrArg (List.cons _) enriching.quiet.1
      refine ⟨.ok source, sources, ?_, .addSuccess log hasModel⟩
      rw [Pipeline.verdict, succeeds]
      simp only [Pipeline.finding, Pipeline.key?, isEnabled, if_true, Except.toOption,
        Option.bind_some, isModel, Option.map_some]
      rfl

/-- Before a file is reported its publisher neither is given anything nor answers. -/
theorem Handling.undelivered
    {result : Except Analysis.Failure Report}
    (handling : Handling pipeline file log result after events) :
    events.filterMap (·.delivery?) = [] ∧ events.filterMap (·.answer?) = [] := by
  cases handling with
  | enriched _ _ _ enriching =>
      cases enriching <;> exact ⟨rfl, rfl⟩
  | failed _ _ _ | stopped _ _ _ | plain _ _ =>
      exact ⟨rfl, rfl⟩

theorem Handling.unreported
    {result : Except Analysis.Failure Report}
    (handling : Handling pipeline file log result after events) :
    events.filterMap (·.report?) = [] :=
  filterMap_report?_of_undelivered handling.undelivered.1

/-- A file that is reported comes first among what was found out and among the answers. -/
theorem Handling.published
    {result : Except Analysis.Failure Report}
    (handling : Handling pipeline file log result after events)
    (report : Report)
    (answer : Except DeliveryFailure Unit)
    (rest : List Event) :
    (events ++ .published file report answer :: rest).filterMap (·.finding?) =
        (file, report.finding) :: rest.filterMap (·.finding?) ∧
      (events ++ .published file report answer :: rest).filterMap (·.answer?) =
        answer :: rest.filterMap (·.answer?) := by
  rw [List.filterMap_append, List.filterMap_append, filterMap_finding? events,
    handling.unreported, handling.undelivered.2]
  exact ⟨rfl, rfl⟩

/-- An enrichment that is said to be stored by an earlier run was just found under the key. -/
theorem Handling.found
    {report : Report}
    {payload : Json}
    (handling : Handling pipeline file log (.ok report) after events)
    (isCached : report.enrichment = .cached payload) :
    ∃ key, report.key? = some key ∧ [.sought key (.ok (some payload))] <:+ events := by
  cases handling with
  | failed | plain =>
      exact absurd isCached (by simp)
  | @enriched now source model enrichment calls _ _ _ enriching =>
      obtain rfl : enrichment = .cached payload := isCached
      cases enriching with
      | found =>
          exact ⟨_, rfl, [Event.looked now, Event.read file (.ok source)], rfl⟩

/-- If there is a store, a file that can be analysed is enriched unless the enricher fails. -/
theorem Handling.enriched_or_failed
    {report : Report}
    (handling : Handling pipeline file log (.ok report) after events)
    (isEnabled : pipeline.settings.cache.enabled = true)
    (isAnalyzed : report.outcome.isFailed = false) :
    report.enrichment.isCached = true ∨ report.enrichment.isFresh = true ∨
      ∃ request failure, .enriched request (.error failure) ∈ events := by
  cases handling with
  | failed =>
      exact absurd isAnalyzed (by simp [Outcome.ofFailure, Outcome.isFailed])
  | plain _ isDisabled =>
      exact absurd isEnabled (by simp [isDisabled])
  | enriched _ _ _ enriching =>
      cases enriching with
      | found =>
          exact .inl rfl
      | failed _ =>
          exact .inr (.inr ⟨_, _, List.mem_cons_of_mem _ (List.mem_cons_of_mem _
            (List.mem_cons_of_mem _ List.mem_cons_self))⟩)
      | made _ =>
          exact .inr (.inl rfl)

/-- The files that are read are the first ones. -/
theorem Taking.sources_begin
    {stopped? : Option Failure}
    (taking : Taking pipeline files log stopped? after events) :
    (events.filterMap (·.source?)).map (·.1) <+: files := by
  induction taking with
  | done =>
      exact List.prefix_rfl
  | stopped handling =>
      obtain ⟨_, isSource, _, _⟩ := handling.verdict
      rw [isSource]
      exact List.prefix_append [_] _
  | refused handling =>
      obtain ⟨_, isSource, _, _⟩ := handling.verdict
      rw [List.filterMap_append, isSource]
      exact List.prefix_append [_] _
  | @taken file _ _ _ _ _ _ _ others handling _ inductionHypothesis =>
      obtain ⟨_, isSource, _, _⟩ := handling.verdict
      rw [List.filterMap_append, isSource]
      exact (List.prefix_append_right_inj [file]).mpr inductionHypothesis

/-- What was read of a file in two runs decides alike what they find out about it. -/
theorem Handling.agree
    {result otherResult : Except Analysis.Failure Report}
    {first second : List (Descriptor × Except Analysis.Failure SourceText)}
    (handling : Handling pipeline file log result after events)
    (handlingToo : Handling pipeline file other otherResult last others)
    (begins : events.filterMap (·.source?) <+: first)
    (beginsToo : others.filterMap (·.source?) <+: second)
    (sources : Coincide first second) :
    result.map Report.finding = otherResult.map Report.finding ∧
      events.filterMap (·.source?) = others.filterMap (·.source?) ∧
      ∃ outcome, Log.Counts log after [outcome] ∧ Log.Counts other last [outcome] := by
  obtain ⟨source, isSource, isVerdict, counts⟩ := handling.verdict
  obtain ⟨_, isOther, isOtherVerdict, countsToo⟩ := handlingToo.verdict
  rw [isSource] at begins
  rw [isOther] at beginsToo
  obtain ⟨_, rfl⟩ := begins
  obtain ⟨_, rfl⟩ := beginsToo
  obtain rfl := congrArg Prod.snd sources.head
  exact ⟨isVerdict.trans isOtherVerdict.symm, isSource.trans isOther.symm, _, counts, countsToo⟩

/-- Publishers that answer alike do so about the next report and about those after it. -/
theorem Handling.answers_agree
    {result otherResult : Except Analysis.Failure Report}
    {report otherReport : Report}
    {answer otherAnswer : Except DeliveryFailure Unit}
    {rest otherRest : List Event}
    (handling : Handling pipeline file log result after events)
    (handlingToo : Handling pipeline file other otherResult last others)
    (answers : Coincide
      ((events ++ .published file report answer :: rest).filterMap (·.answer?))
      ((others ++ .published file otherReport otherAnswer :: otherRest).filterMap (·.answer?))) :
    answer = otherAnswer ∧
      Coincide (rest.filterMap (·.answer?)) (otherRest.filterMap (·.answer?)) := by
  rw [(handling.published _ _ _).2, (handlingToo.published _ _ _).2] at answers
  exact ⟨answers.head, (List.forall_mem_cons.mp answers).2⟩

/-- Two runs that read the same of files, and whose publishers answer alike, find out the same
about them and stop alike. -/
theorem Taking.agree
    {stopped? stoppedToo? : Option Failure}
    (taking : Taking pipeline files log stopped? after events)
    (takingToo : Taking pipeline files other stoppedToo? last others)
    (sources : Coincide (events.filterMap (·.source?)) (others.filterMap (·.source?)))
    (answers : Coincide (events.filterMap (·.answer?)) (others.filterMap (·.answer?))) :
    stopped? = stoppedToo? ∧
      events.filterMap (·.finding?) = others.filterMap (·.finding?) ∧
      events.filterMap (·.answer?) = others.filterMap (·.answer?) ∧
      ∃ outcomes, Log.Counts log after outcomes ∧ Log.Counts other last outcomes := by
  have begins : ∀ {show? : Event → Option (Descriptor × Except Analysis.Failure SourceText)}
      (calls rest : List Event), calls.filterMap show? <+: (calls ++ rest).filterMap show? :=
    fun _ _ => (List.prefix_append _ _).filterMap _
  -- The same was read of the next file, so it is reported in both runs or in neither; then it
  -- was taken in both or in neither, since the answers agree.
  induction taking generalizing other stoppedToo? last others with
  | done =>
      cases takingToo with
      | done =>
          exact ⟨rfl, rfl, rfl, [], .refl _, .refl _⟩
  | stopped handling =>
      cases takingToo with
      | stopped handlingToo =>
          obtain ⟨same, _, outcome, counts⟩ :=
            handling.agree handlingToo List.prefix_rfl List.prefix_rfl sources
          obtain rfl := Except.error.inj same
          refine ⟨rfl, ?_, handling.undelivered.2.trans handlingToo.undelivered.2.symm,
            [outcome], counts⟩
          rw [filterMap_finding?, filterMap_finding?, handling.unreported, handlingToo.unreported]
      | refused handlingToo | taken handlingToo _ =>
          have same := (handling.agree handlingToo List.prefix_rfl (begins _ _) sources).1
          exact absurd same (by simp [Except.map])
  | refused handling =>
      cases takingToo with
      | stopped handlingToo =>
          have same := (handling.agree handlingToo (begins _ _) List.prefix_rfl sources).1
          exact absurd same (by simp [Except.map])
      | refused handlingToo =>
          obtain ⟨same, _, outcome, counts⟩ :=
            handling.agree handlingToo (begins _ _) (begins _ _) sources
          obtain rfl := Except.error.inj (handling.answers_agree handlingToo answers).1
          rw [(handling.published _ _ _).1, (handlingToo.published _ _ _).1,
            (handling.published _ _ _).2, (handlingToo.published _ _ _).2,
            Except.ok.inj same]
          exact ⟨rfl, rfl, rfl, [outcome], counts⟩
      | taken handlingToo _ =>
          exact absurd (handling.answers_agree handlingToo answers).1 (by simp)
  | taken handling _ inductionHypothesis =>
      cases takingToo with
      | stopped handlingToo =>
          have same := (handling.agree handlingToo (begins _ _) List.prefix_rfl sources).1
          exact absurd same (by simp [Except.map])
      | refused handlingToo =>
          exact absurd (handling.answers_agree handlingToo answers).1 (by simp)
      | taken handlingToo takingToo =>
          obtain ⟨same, sameSource, outcome, counts, countsToo⟩ :=
            handling.agree handlingToo (begins _ _) (begins _ _) sources
          rw [List.filterMap_append, List.filterMap_append, sameSource] at sources
          obtain ⟨sameStop, sameFindings, sameAnswers, outcomes, others, othersToo⟩ :=
            inductionHypothesis takingToo sources.of_append_left
              (handling.answers_agree handlingToo answers).2
          rw [(handling.published _ _ _).1, (handlingToo.published _ _ _).1,
            (handling.published _ _ _).2, (handlingToo.published _ _ _).2,
            Except.ok.inj same, sameFindings, sameAnswers]
          exact ⟨sameStop, rfl, rfl, outcome :: outcomes, counts.append others,
            countsToo.append othersToo⟩

/-- A report on a file is published right after what was called for the file. -/
theorem Taking.exists_handling
    {stopped? : Option Failure}
    {report : Report}
    {answer : Except DeliveryFailure Unit}
    (taking : Taking pipeline files log stopped? after events)
    (isPublished : .published file report answer ∈ events) :
    ∃ start reached calls, Handling pipeline file start (.ok report) reached calls ∧
      calls ++ [.published file report answer] <:+: events := by
  have notBefore : ∀ {other start result reached calls},
      Handling pipeline other start result reached calls →
      .published file report answer ∉ calls := by
    intro other start result reached calls handling isCall
    exact absurd (List.filterMap_eq_nil_iff.mp handling.undelivered.1 _ isCall) (by
      simp [Event.delivery?])
  induction taking with
  | done =>
      exact absurd isPublished List.not_mem_nil
  | stopped handling =>
      exact absurd isPublished (notBefore handling)
  | refused handling =>
      rcases List.mem_append.mp isPublished with isEarly | isLast
      · exact absurd isEarly (notBefore handling)
      · obtain ⟨rfl, rfl, rfl⟩ := Event.published.inj (List.mem_singleton.mp isLast)
        exact ⟨_, _, _, handling, List.infix_rfl⟩
  | @taken _ _ _ _ _ _ _ calls others handling _ inductionHypothesis =>
      rcases List.mem_append.mp isPublished with isEarly | isLate
      · exact absurd isEarly (notBefore handling)
      · rcases List.mem_cons.mp isLate with isHere | isLater
        · obtain ⟨rfl, rfl, rfl⟩ := Event.published.inj isHere
          refine ⟨_, _, _, handling, List.IsPrefix.isInfix ⟨others, ?_⟩⟩
          rw [List.append_assoc]
          rfl
        · obtain ⟨_, _, _, handling, isInfix⟩ := inductionHypothesis isLater
          refine ⟨_, _, _, handling, isInfix.trans ?_⟩
          exact ((List.suffix_cons _ others).trans (List.suffix_append calls _)).isInfix

end Files

/-! ### Runs -/

section Runs

variable {pipeline : Pipeline} {files : List Descriptor} {log other : Log}
  {events others : List Event}

theorem Running.sources_begin
    {result : Except Failure Statistics}
    (running : Running pipeline files result log events) :
    (events.filterMap (·.source?)).map (·.1) <+: files := by
  obtain ⟨started, stopped?, taken, rest, rfl, taking, concluding⟩ := running.split
  rw [List.filterMap_cons_none rfl, List.filterMap_append, concluding.quiet.1, List.append_nil]
  exact taking.sources_begin

/-- Two runs write their reports on failures with the same result if both write them so. -/
theorem Saving.agree
    {result otherResult : Except Disk.OsError Unit}
    (saves : Saving pipeline log result events)
    (savesToo : Saving pipeline other otherResult others)
    (saved : Coincide (events.filterMap (·.saved?)) (others.filterMap (·.saved?))) :
    result = otherResult := by
  cases saves with
  | unwanted noPath =>
      cases savesToo with
      | unwanted _ =>
          rfl
      | attempted isPath =>
          exact absurd (noPath.symm.trans isPath) (by simp)
  | attempted isPath =>
      cases savesToo with
      | unwanted noPath =>
          exact absurd (noPath.symm.trans isPath) (by simp)
      | attempted _ =>
          exact saved.head

/-- Two runs that have counted the same and stop alike conclude alike, if they write their
reports on failures with the same result and their publishers answer alike. -/
theorem Concluding.agree
    {stopped? : Option Failure}
    {result otherResult : Except Failure Statistics}
    {start : Log}
    {outcomes : List Outcome}
    (concluding : Concluding pipeline log stopped? result events)
    (concludingToo : Concluding pipeline other stopped? otherResult others)
    (counts : Log.Counts start log outcomes)
    (countsToo : Log.Counts start other outcomes)
    (saved : Coincide (events.filterMap (·.saved?)) (others.filterMap (·.saved?)))
    (answers : Coincide (events.filterMap (·.answer?)) (others.filterMap (·.answer?))) :
    result.map Statistics.untimed = otherResult.map Statistics.untimed := by
  have unanswered : ∀ {log result saving} now, Saving pipeline log result saving →
      (.looked now :: saving).filterMap (·.answer?) = [] := by
    intro log result saving now saves
    cases saves <;> rfl
  have begins : ∀ now (saving rest : List Event), saving.filterMap (·.saved?) <+:
      (.looked now :: saving ++ rest).filterMap (·.saved?) :=
    fun now saving rest => (List.prefix_append (.looked now :: saving) rest).filterMap (·.saved?)
  cases concluding with
  | stopped saves =>
      cases concludingToo with
      | stopped _ =>
          rfl
  | unsaved saves =>
      cases concludingToo with
      | unsaved savesToo =>
          obtain rfl := Except.error.inj (saves.agree savesToo saved)
          rfl
      | finished savesToo =>
          have same := saves.agree savesToo (saved.of_begun List.prefix_rfl (begins _ _ _))
          exact absurd same (by simp)
  | @finished _ _ answer _ saves =>
      cases concludingToo with
      | unsaved savesToo =>
          have same := saves.agree savesToo (saved.of_begun (begins _ _ _) List.prefix_rfl)
          exact absurd same (by simp)
      | finished savesToo =>
          rw [List.filterMap_append, List.filterMap_append, unanswered _ saves,
            unanswered _ savesToo] at answers
          obtain rfl := answers.head
          cases answer with
          | error failure =>
              rfl
          | ok _ =>
              exact congrArg Except.ok (Statistics.untimed_statistics counts countsToo _ _)

/-- Two runs read the same of files, write their reports on failures with the same result, and
are answered alike by their publishers, as far as both of them get. -/
structure MeetAlike (first second : List Event) : Prop where
  sources : Coincide (first.filterMap (·.source?)) (second.filterMap (·.source?))
  saved : Coincide (first.filterMap (·.saved?)) (second.filterMap (·.saved?))
  answers : Coincide (first.filterMap (·.answer?)) (second.filterMap (·.answer?))

/-- Two runs that meet with the same report the same about their files but for the
enrichments, and come to the same but for the time. -/
theorem Running.agree
    {result otherResult : Except Failure Statistics}
    (running : Running pipeline files result log events)
    (runningToo : Running pipeline files otherResult other others)
    (alike : MeetAlike events others) :
    events.filterMap (·.finding?) = others.filterMap (·.finding?) ∧
      result.map Statistics.untimed = otherResult.map Statistics.untimed := by
  obtain ⟨started, stopped?, taken, rest, rfl, taking, concluding⟩ := running.split
  obtain ⟨_, _, takenToo, restToo, rfl, takingToo, concludingToo⟩ := runningToo.split
  have cut : ∀ {α : Type} {show? : Event → Option α} started taken rest,
      show? (.looked started) = none →
      (.looked started :: (taken ++ rest)).filterMap show? =
        taken.filterMap show? ++ rest.filterMap show? := by
    intro α show? started taken rest unseen
    rw [List.filterMap_cons_none unseen, List.filterMap_append]
  obtain ⟨sources, saved, answers⟩ := alike
  rw [cut _ _ _ rfl, cut _ _ _ rfl] at sources saved answers
  obtain ⟨rfl, findings, sameAnswers, outcomes, counts, countsToo⟩ :=
    taking.agree takingToo sources.of_append answers.of_append
  rw [taking.unsaved, takingToo.unsaved] at saved
  rw [sameAnswers] at answers
  refine ⟨?_, concluding.agree concludingToo counts countsToo saved answers.of_append_left⟩
  rw [cut _ _ _ rfl, cut _ _ _ rfl, findings, filterMap_finding? rest,
    filterMap_finding? restToo, concluding.quiet.2, concludingToo.quiet.2]

theorem Running.exists_handling
    {result : Except Failure Statistics}
    {file : Descriptor}
    {report : Report}
    {answer : Except DeliveryFailure Unit}
    (running : Running pipeline files result log events)
    (isPublished : .published file report answer ∈ events) :
    ∃ start reached calls, Handling pipeline file start (.ok report) reached calls ∧
      calls ++ [.published file report answer] <:+: events := by
  obtain ⟨started, stopped?, taken, rest, rfl, taking, concluding⟩ := running.split
  have isTaken : .published file report answer ∈ taken := by
    rcases List.mem_cons.mp isPublished with isLook | isLater
    · exact absurd isLook (by simp)
    · refine (List.mem_append.mp isLater).resolve_right fun isLate => ?_
      exact absurd (List.filterMap_eq_nil_iff.mp concluding.quiet.2 _ isLate) (by
        simp [Event.report?, Event.delivery?, Delivery.report?])
  obtain ⟨_, _, _, handling, isInfix⟩ := taking.exists_handling isTaken
  exact ⟨_, _, _, handling, isInfix.trans ⟨[.looked started], rest, rfl⟩⟩

theorem Services.Accepts.answers
    {services : Services σ}
    (accepts : services.Accepts)
    (pipeline : Pipeline)
    (files : List Descriptor)
    (state : σ) :
    ∀ answer ∈ (pipeline.transcript services files state).events.filterMap (·.answer?),
      answer = .ok () := by
  intro answer isAnswer
  obtain ⟨event, isEvent, isShown⟩ := List.mem_filterMap.mp isAnswer
  cases event with
  | published file report result =>
      obtain rfl := Option.some.inj isShown
      exact accepts.published isEvent
  | finished statistics result =>
      obtain rfl := Option.some.inj isShown
      exact accepts.finished isEvent
  | _ => exact absurd isShown (by simp [Event.answer?])

end Runs

/-!
## What a run meets with

Up to its last file and the report on failures, a run makes its calls in states with whatever
its services maintain. So what it reads of its files and whether the report on failures can be
written is known beforehand, if that is the same in all of these states.
-/

variable {invariant : σ → Prop} {services : Services σ}

/-- A state is one with an invariant, and so were those that calls were made in. -/
structure Maintained (invariant : σ → Prop) (state : σ × Transcript σ) : Prop where
  now : invariant state.1
  before : ∀ call ∈ state.2, invariant call.before

/-- Writing a call down maintains what the call does. -/
theorem keeps_maintained
    {effect : Effect σ α}
    {event : α → Event}
    (keeps : Keeps invariant effect) :
    Keeps (Maintained invariant)
      (observe (fun event before transcript => transcript ++ [⟨event, before⟩]) effect event) :=
  fun state holds =>
    ⟨keeps state.1 holds.now,
      List.forall_mem_append.mpr ⟨holds.before, List.forall_mem_singleton.mpr holds.now⟩⟩

/-- Services that write down their calls maintain what they do without. -/
theorem Services.Maintain.recorded
    (maintain : services.Maintain invariant) :
    services.recorded.Maintain (Maintained invariant) where
  now := keeps_maintained maintain.now
  read file := keeps_maintained (maintain.read file)
  get key := keeps_maintained (maintain.get key)
  put key payload ttl source := keeps_maintained (maintain.put key payload ttl source)
  enrich request := keeps_maintained (maintain.enrich request)
  publish file report := keeps_maintained (maintain.publish file report)

namespace Pipeline

variable (pipeline : Pipeline)

theorem saveReport_maintained
    (maintain : services.Maintain invariant)
    (started : Instant)
    (log : Log)
    {state : σ × Transcript σ}
    (holds : Maintained invariant state) :
    ∀ call ∈ (pipeline.saveReport services.recorded started log state).2.2,
      invariant call.before := by
  have looked := maintain.recorded.now state holds
  unfold saveReport
  cases pipeline.settings.report.path? with
  | none =>
      exact holds.before
  | some path =>
      exact List.forall_mem_append.mpr
        ⟨looked.before, List.forall_mem_singleton.mpr looked.now⟩

/-- A run calls its services in states with what they maintain, until it delivers its
statistics. -/
theorem transcript_maintained
    (maintain : services.Maintain invariant)
    (files : List Descriptor)
    {state : σ}
    (holds : invariant state) :
    ∀ call ∈ pipeline.transcript services files state,
      (∃ statistics answer, call.event = .finished statistics answer) ∨ invariant call.before := by
  have started := maintain.recorded.now (state, [])
    ⟨holds, fun _ member => absurd member List.not_mem_nil⟩
  have taken := processAll_keeps pipeline maintain.recorded files
    (Log.declareTotal {} files.length) started
  simp only [transcript, run]
  generalize pipeline.processAll services.recorded files (Log.declareTotal {} files.length)
    (services.recorded.now (state, [])).2 = ending at taken ⊢
  obtain ⟨stopped?, log, after⟩ := ending
  cases stopped? with
  | some failure =>
      exact fun call isCall =>
        .inr (saveReport_maintained pipeline maintain _ log taken call isCall)
  | none =>
      have saved := saveReport_maintained pipeline maintain (services.recorded.now (state, [])).1
        log (maintain.recorded.now after taken)
      simp only [finish]
      generalize pipeline.saveReport services.recorded (services.recorded.now (state, [])).1 log
        (services.recorded.now after).2 = saving at saved ⊢
      obtain ⟨result, last⟩ := saving
      cases result with
      | error error =>
          exact fun call isCall => .inr (saved call isCall)
      | ok _ =>
          -- What delivering the statistics does to the state no longer matters.
          let statistics := log.statistics (millisecondsBetween
            (services.recorded.now (state, [])).1 (services.recorded.now after).1)
          have delivered : ∀ call ∈ (services.recorded.finish statistics last).2.2,
              (∃ statistics answer, call.event = .finished statistics answer) ∨
                invariant call.before :=
            List.forall_mem_append.mpr ⟨fun call isCall => .inr (saved call isCall),
              List.forall_mem_singleton.mpr (.inl ⟨_, _, rfl⟩)⟩
          dsimp only
          generalize services.recorded.finish statistics last = delivery at delivered ⊢
          obtain ⟨answer, end'⟩ := delivery
          cases answer <;> exact delivered

/-- What comes of a call but the last one is what comes of it in a state that is maintained. -/
theorem exists_maintained
    {files : List Descriptor}
    {state : σ}
    {event : Event}
    (maintain : services.Maintain invariant)
    (holds : invariant state)
    (isEvent : event ∈ (pipeline.transcript services files state).events)
    (goesOn : ∀ statistics answer, event ≠ .finished statistics answer) :
    ∃ before, invariant before ∧ Call.IsGenuine services ⟨event, before⟩ := by
  obtain ⟨⟨_, before⟩, isCall, rfl⟩ := List.mem_map.mp isEvent
  refine ⟨before, ?_, isGenuine_of_mem_transcript isCall⟩
  refine (transcript_maintained pipeline maintain files holds _ isCall).resolve_left ?_
  rintro ⟨statistics, answer, isLast⟩
  exact goesOn statistics answer isLast

/-- What a run reads is what is read of its first files in every state that is maintained. -/
theorem sources_maintained
    {read : Descriptor → Except Analysis.Failure SourceText}
    (maintain : services.Maintain invariant)
    (files : List Descriptor)
    (isRead : ∀ state, invariant state → ∀ file ∈ files, (services.read file state).1 = read file)
    {state : σ}
    (holds : invariant state) :
    (pipeline.transcript services files state).events.filterMap (·.source?) <+:
      files.map fun file => (file, read file) := by
  have isPrefix := (pipeline.running services files state).sources_begin
  have areRead : ∀ source ∈
      (pipeline.transcript services files state).events.filterMap (·.source?),
      (source.1, read source.1) = source := by
    rintro ⟨file, source⟩ isSource
    have isFile := isPrefix.subset (List.mem_map_of_mem isSource)
    obtain ⟨event, isEvent, isShown⟩ := List.mem_filterMap.mp isSource
    obtain rfl := Event.source?_eq_some.mp isShown
    obtain ⟨before, isBefore, isGenuine⟩ :=
      exists_maintained pipeline maintain holds isEvent (by simp)
    exact congrArg (file, ·) ((isRead before isBefore file isFile).symm.trans isGenuine)
  have areSources := isPrefix.map fun file => (file, read file)
  rw [List.map_map] at areSources
  exact (List.map_congr_left areRead).trans (List.map_id _) ▸ areSources

/-- What comes of writing the report on failures is what comes of it in every state that is
maintained. -/
theorem saved_maintained
    {saved : Except Disk.OsError Unit}
    (maintain : services.Maintain invariant)
    (files : List Descriptor)
    (isSaved : ∀ path, pipeline.settings.report.path? = some path →
      ∀ report state, invariant state → (services.save path report state).1 = saved)
    {state : σ}
    (holds : invariant state) :
    ∀ result ∈ (pipeline.transcript services files state).events.filterMap (·.saved?),
      result = saved := by
  intro result isResult
  obtain ⟨event, isEvent, isShown⟩ := List.mem_filterMap.mp isResult
  obtain ⟨path, report, rfl⟩ := Event.saved?_eq_some.mp isShown
  have isPath := (pipeline.running services files state).path?_of_saved isEvent
  obtain ⟨before, isBefore, isGenuine⟩ :=
    exists_maintained pipeline maintain holds isEvent (by simp)
  exact isGenuine.symm.trans (isSaved path isPath report before isBefore)

end Pipeline

end SourceFacts.Run
