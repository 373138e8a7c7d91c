import SourceFacts.Proofs.Failures.Tallies
import SourceFacts.Proofs.Run.Transcripts
import SourceFacts.Run.Workspace

namespace SourceFacts.Run

/-!
# What becomes of the files of a run

If failures do not end a run and its publisher takes everything, then every file is read and
reported, one after another, and the log counts the outcomes that are reported. What remains
is to write the report on failures: the publisher gets the statistics unless that fails.
-/

open Analysis Facts Failures Time

/-- What a run read of a file, and what it reported about it. -/
structure Treatment where
  file : Descriptor
  source : Except Analysis.Failure SourceText
  report : Report

/-- The report on a file tells what came of analysing what was read. -/
structure Treatment.IsFaithful (pipeline : Pipeline) (treatment : Treatment) : Prop where
  path : treatment.report.path = treatment.file.path
  outcome : treatment.report.outcome =
    pipeline.analyzer.outcome treatment.file.path treatment.source

/-- The outcomes that were reported. -/
def outcomes (treatments : List Treatment) : List Outcome :=
  treatments.map (·.report.outcome)

/-- What a publisher is given while files are treated. -/
def reported (treatments : List Treatment) : List Delivery :=
  treatments.map fun treatment => .report treatment.file treatment.report

/-- The files that were treated, and the reports on them. -/
def reports (treatments : List Treatment) : List (Descriptor × Report) :=
  treatments.map fun treatment => (treatment.file, treatment.report)

/-- Calls treat files one after another, and the log counts their outcomes. -/
structure Treats (pipeline : Pipeline) (treatments : List Treatment) (log after : Log)
    (events : List Event) : Prop where
  faithful : ∀ treatment ∈ treatments, treatment.IsFaithful pipeline
  sources : events.filterMap (·.source?) =
    treatments.map fun treatment => (treatment.file, treatment.source)
  deliveries : events.filterMap (·.delivery?) = reported treatments
  counts : Log.Counts log after (outcomes treatments)

theorem Treats.append
    {pipeline : Pipeline}
    {treatments others : List Treatment}
    {log after last : Log}
    {events more : List Event}
    (first : Treats pipeline treatments log after events)
    (second : Treats pipeline others after last more) :
    Treats pipeline (treatments ++ others) log last (events ++ more) where
  faithful := List.forall_mem_append.mpr ⟨first.faithful, second.faithful⟩
  sources := by
    rw [List.filterMap_append, first.sources, second.sources, List.map_append]
  deliveries := by
    rw [List.filterMap_append, first.deliveries, second.deliveries]
    exact List.map_append.symm
  counts := by
    rw [outcomes, List.map_append]
    exact first.counts.append second.counts

/-- The reports that a publisher was given are among what it was given. -/
theorem filterMap_report?_eq (events : List Event) :
    events.filterMap (·.report?) =
      (events.filterMap (·.delivery?)).filterMap Delivery.report? :=
  List.filterMap_filterMap.symm

/-- What was treated is what was reported. -/
theorem filterMap_report?
    {events : List Event}
    {treatments : List Treatment}
    {rest : List Delivery}
    (deliveries : events.filterMap (·.delivery?) = reported treatments ++ rest)
    (noReport : rest.filterMap Delivery.report? = []) :
    events.filterMap (·.report?) = reports treatments := by
  rw [filterMap_report?_eq, deliveries, List.filterMap_append, noReport, List.append_nil,
    reported, List.filterMap_map]
  exact congrFun List.filterMap_eq_map treatments

/-! ## Files -/

section Files

variable {pipeline : Pipeline} {file : Descriptor} {files : List Descriptor} {log after : Log}
  {events : List Event}

/-- Enriching a file reads nothing, delivers nothing and saves nothing. -/
theorem Enriching.quiet
    {model : Model}
    {source : String}
    {key : Cache.Key}
    {enrichment : Enrichment}
    (enriching : Enriching pipeline file model source key enrichment events) :
    events.filterMap (·.source?) = [] ∧ events.filterMap (·.delivery?) = [] ∧
      events.filterMap (·.saved?) = [] := by
  cases enriching <;> exact ⟨rfl, rfl, rfl⟩

/-- A file that does not end the run is treated once its report is published. -/
theorem Handling.treats
    {report : Report}
    (handling : Handling pipeline file log (.ok report) after events) :
    ∃ treatment : Treatment, treatment.file = file ∧
      Treats pipeline [treatment] log after (events ++ [.published file report (.ok ())]) := by
  cases handling with
  | @failed now source failure record fails continues isCategory =>
      let report : Report :=
        { path := file.path, outcome := .ofFailure failure, enrichment := .skipped }
      have faithful : Treatment.IsFaithful pipeline ⟨file, source, report⟩ :=
        ⟨rfl, (Analyzer.outcome_of_failure? fails file.path).symm⟩
      exact ⟨_, rfl, List.forall_mem_singleton.mpr faithful, rfl, rfl,
        .addRecord log isCategory⟩
  | @plain now source succeeds isDisabled =>
      obtain ⟨_, _, _, _, hasModel⟩ := Analyzer.exists_model_of_failure? succeeds file.path
      let report : Report :=
        { path := file.path
          outcome := pipeline.analyzer.outcome file.path (.ok source)
          enrichment := .disabled }
      have faithful : Treatment.IsFaithful pipeline ⟨file, .ok source, report⟩ := ⟨rfl, rfl⟩
      exact ⟨_, rfl, List.forall_mem_singleton.mpr faithful, rfl, rfl,
        .addSuccess log hasModel⟩
  | @enriched now source model enrichment calls succeeds isModel isEnabled enriching =>
      obtain ⟨_, _, _, _, hasModel⟩ := Analyzer.exists_model_of_failure? succeeds file.path
      obtain ⟨noSource, noDelivery, _⟩ := enriching.quiet
      let report : Report :=
        { path := file.path
          outcome := pipeline.analyzer.outcome file.path (.ok source)
          key? := some (pipeline.keyInputs file.path model source.text).key
          enrichment }
      have faithful : Treatment.IsFaithful pipeline ⟨file, .ok source, report⟩ := ⟨rfl, rfl⟩
      let begun : List Event := .looked now :: .read file (.ok source) :: calls
      have sources : begun.filterMap (·.source?) = [(file, .ok source)] :=
        congrArg (List.cons _) noSource
      have deliveries : begun.filterMap (·.delivery?) = [] := noDelivery
      refine ⟨_, rfl, List.forall_mem_singleton.mpr faithful, ?_, ?_,
        .addSuccess log hasModel⟩
      · rw [List.filterMap_append, sources]
        rfl
      · rw [List.filterMap_append, deliveries]
        rfl

/-- Files that are all taken are treated in order. -/
theorem Taking.treats
    (taking : Taking pipeline files log none after events) :
    ∃ treatments, treatments.map (·.file) = files ∧
      Treats pipeline treatments log after events := by
  generalize isNone : (none : Option Failure) = stopped? at taking
  induction taking with
  | done =>
      exact ⟨[], rfl, fun _ member => absurd member List.not_mem_nil, rfl, rfl, .refl _⟩
  | stopped _ | refused _ =>
      exact absurd isNone (by simp)
  | taken handling _ inductionHypothesis =>
      obtain ⟨treatment, rfl, first⟩ := handling.treats
      obtain ⟨treatments, rfl, others⟩ := inductionHypothesis isNone
      refine ⟨treatment :: treatments, rfl, ?_⟩
      have both := first.append others
      rwa [List.append_assoc] at both

/-- A run does not end early if failures do not end it and every report is taken. -/
theorem Taking.stopped?_eq_none
    {stopped? : Option Failure}
    (taking : Taking pipeline files log stopped? after events)
    (continues : pipeline.analyzer.settings.continueOnError = true)
    (accepted : ∀ file report result, .published file report result ∈ events →
      result = .ok ()) :
    stopped? = none := by
  induction taking with
  | done =>
      rfl
  | stopped handling =>
      cases handling with
      | stopped _ stops _ =>
          exact absurd continues (by simp [stops])
  | refused _ =>
      exact absurd (accepted _ _ _ (List.mem_append_right _ List.mem_cons_self)) (by simp)
  | taken _ _ inductionHypothesis =>
      exact inductionHypothesis fun file report result member =>
        accepted file report result (List.mem_append_right _ (List.mem_cons_of_mem _ member))

theorem Handling.unsaved
    {result : Except Analysis.Failure Report}
    (handling : Handling pipeline file log result after events) :
    events.filterMap (·.saved?) = [] := by
  cases handling with
  | enriched _ _ _ enriching =>
      exact enriching.quiet.2.2
  | failed _ _ _ | stopped _ _ _ | plain _ _ =>
      rfl

theorem Taking.unsaved
    {stopped? : Option Failure}
    (taking : Taking pipeline files log stopped? after events) :
    events.filterMap (·.saved?) = [] := by
  induction taking with
  | done =>
      rfl
  | stopped handling =>
      exact handling.unsaved
  | refused handling =>
      rw [List.filterMap_append, handling.unsaved]
      rfl
  | taken handling _ inductionHypothesis =>
      rw [List.filterMap_append, handling.unsaved]
      exact inductionHypothesis

/-- Writing the report on failures reads nothing and delivers nothing. -/
theorem Saving.quiet
    {result : Except Disk.OsError Unit}
    (saves : Saving pipeline log result events) :
    events.filterMap (·.source?) = [] ∧ events.filterMap (·.delivery?) = [] := by
  cases saves <;> exact ⟨rfl, rfl⟩

/-- The report on failures is written if there is a path for it. -/
theorem Saving.saved?_eq
    {result : Except Disk.OsError Unit}
    (saves : Saving pipeline log result events) :
    events.filterMap (·.saved?) = [result] ∧ (∃ path, pipeline.settings.report.path? = some path) ∨
      events.filterMap (·.saved?) = [] ∧ result = .ok () := by
  cases saves with
  | unwanted _ =>
      exact .inr ⟨rfl, rfl⟩
  | attempted isPath =>
      exact .inl ⟨rfl, _, isPath⟩

theorem Saving.path?_of_saved
    {result saved : Except Disk.OsError Unit}
    {path : String}
    {report : Json}
    (saves : Saving pipeline log result events)
    (isSaved : .saved path report saved ∈ events) :
    pipeline.settings.report.path? = some path := by
  cases saves with
  | unwanted _ =>
      exact absurd isSaved List.not_mem_nil
  | attempted isPath =>
      obtain ⟨rfl, _, _⟩ : path = _ ∧ _ := by simpa using isSaved
      exact isPath

end Files

/-! ## Runs -/

/-- A publisher that takes everything. -/
structure Services.Accepts (services : Services σ) : Prop where
  publish : ∀ file report state, (services.publish file report state).1 = .ok ()
  finish : ∀ statistics state, (services.finish statistics state).1 = .ok ()

/-- A run reads and reports all its files in order, each one once. -/
structure Completes (pipeline : Pipeline) (files : List Descriptor) (events : List Event)
    (treatments : List Treatment) : Prop where
  files : treatments.map (·.file) = files
  faithful : ∀ treatment ∈ treatments, treatment.IsFaithful pipeline
  sources : events.filterMap (·.source?) =
    treatments.map fun treatment => (treatment.file, treatment.source)

/-- What remains of a run that completes all its files. The statistics count the outcomes
that were reported; the publisher gets them unless the report on failures cannot be
written. -/
inductive Finishes (pipeline : Pipeline) (files : List Descriptor) (events : List Event) :
    Except Failure Statistics → List Treatment → Prop where
  | unsaved {error : Disk.OsError} {treatments : List Treatment}
      (completes : Completes pipeline files events treatments)
      (isSaved : events.filterMap (·.saved?) = [.error error])
      (deliveries : events.filterMap (·.delivery?) = reported treatments) :
      Finishes pipeline files events (.error (.report error)) treatments
  | finished {treatments : List Treatment} {elapsed : Nat}
      (completes : Completes pipeline files events treatments)
      (isSaved : ∀ result ∈ events.filterMap (·.saved?), result = .ok ())
      (deliveries : events.filterMap (·.delivery?) =
        reported treatments ++ [.statistics (.ofOutcomes (outcomes treatments) elapsed)]) :
      Finishes pipeline files events (.ok (.ofOutcomes (outcomes treatments) elapsed)) treatments

theorem Finishes.reports
    {pipeline : Pipeline}
    {files : List Descriptor}
    {events : List Event}
    {result : Except Failure Statistics}
    {treatments : List Treatment}
    (finishes : Finishes pipeline files events result treatments) :
    events.filterMap (·.report?) = Run.reports treatments := by
  cases finishes with
  | unsaved _ _ deliveries =>
      exact filterMap_report? (deliveries.trans (List.append_nil _).symm) rfl
  | finished _ _ deliveries =>
      exact filterMap_report? deliveries rfl

theorem filterMap_looked
    {show? : Event → Option α}
    (unseen : ∀ now, show? (.looked now) = none)
    (started now : Instant)
    (events others : List Event) :
    (.looked started :: events ++ .looked now :: others).filterMap show? =
      events.filterMap show? ++ others.filterMap show? := by
  simp [unseen]

/-- Nothing is reported if nothing is delivered. -/
theorem filterMap_report?_of_undelivered
    {events : List Event}
    (undelivered : events.filterMap (·.delivery?) = []) :
    events.filterMap (·.report?) = [] := by
  rw [filterMap_report?_eq, undelivered]
  rfl

/-- After its last file a run neither reads nor reports any. -/
theorem Concluding.quiet
    {pipeline : Pipeline}
    {log : Log}
    {events : List Event}
    {stopped? : Option Failure}
    {result : Except Failure Statistics}
    (concluding : Concluding pipeline log stopped? result events) :
    events.filterMap (·.source?) = [] ∧ events.filterMap (·.report?) = [] := by
  cases concluding with
  | stopped saves | unsaved saves =>
      exact ⟨saves.quiet.1, filterMap_report?_of_undelivered saves.quiet.2⟩
  | @finished now _ _ saving saves =>
      have split : ∀ {α : Type} {show? : Event → Option α} (last : Event),
          show? (.looked now) = none → show? last = none →
          (.looked now :: saving ++ [last]).filterMap show? = saving.filterMap show? := by
        intro α show? last noLook noLast
        rw [List.cons_append, List.filterMap_cons_none noLook, List.filterMap_append,
          List.filterMap_cons_none noLast, List.filterMap_nil, List.append_nil]
      exact ⟨(split _ rfl rfl).trans saves.quiet.1,
        (split _ rfl rfl).trans (filterMap_report?_of_undelivered saves.quiet.2)⟩

/-- A report on failures is written only to the path that there is for it. -/
theorem Running.path?_of_saved
    {pipeline : Pipeline}
    {files : List Descriptor}
    {result : Except Failure Statistics}
    {log : Log}
    {events : List Event}
    {path : String}
    {report : Json}
    {saved : Except Disk.OsError Unit}
    (running : Running pipeline files result log events)
    (isSaved : .saved path report saved ∈ events) :
    pipeline.settings.report.path? = some path := by
  obtain ⟨started, stopped?, taken, rest, rfl, taking, concluding⟩ := running.split
  -- While files are taken nothing is saved, so this is one of the calls after them.
  have isLate : .saved path report saved ∈ rest := by
    rcases List.mem_cons.mp isSaved with isLook | isLater
    · exact absurd isLook (by simp)
    · refine (List.mem_append.mp isLater).resolve_left fun isTaken => ?_
      exact absurd (List.filterMap_eq_nil_iff.mp taking.unsaved _ isTaken) (by
        simp [Event.saved?])
  cases concluding with
  | stopped saves =>
      exact saves.path?_of_saved isLate
  | unsaved saves =>
      exact saves.path?_of_saved ((List.mem_cons.mp isLate).resolve_left (by simp))
  | finished saves =>
      have isSaving := (List.mem_append.mp isLate).resolve_right (by simp)
      exact saves.path?_of_saved ((List.mem_cons.mp isSaving).resolve_left (by simp))

/-- A run completes all its files if failures do not end it and its publisher takes
everything. -/
theorem Running.finishes
    {pipeline : Pipeline}
    {files : List Descriptor}
    {result : Except Failure Statistics}
    {log : Log}
    {events : List Event}
    (running : Running pipeline files result log events)
    (continues : pipeline.analyzer.settings.continueOnError = true)
    (published : ∀ file report result, .published file report result ∈ events → result = .ok ())
    (finished : ∀ statistics result, .finished statistics result ∈ events → result = .ok ()) :
    ∃ treatments, Finishes pipeline files events result treatments := by
  cases running with
  | @stopped started failure log saved events saving taking saves =>
      have goesOn := taking.stopped?_eq_none continues fun file report result member =>
        published file report result
          (List.mem_append_left _ (List.mem_cons_of_mem _ member))
      exact absurd goesOn (by simp)
  | @unsaved started now log error events saving taking saves =>
      obtain ⟨treatments, areFiles, treats⟩ := taking.treats
      obtain ⟨noSource, noDelivery⟩ := saves.quiet
      refine ⟨treatments, .unsaved ⟨areFiles, treats.faithful, ?_⟩ ?_ ?_⟩
      · rw [filterMap_looked (fun _ => rfl), treats.sources, noSource, List.append_nil]
      · rw [filterMap_looked (fun _ => rfl), taking.unsaved]
        exact (saves.saved?_eq.resolve_right fun isOk => absurd isOk.2 (by simp)).1
      · rw [filterMap_looked (fun _ => rfl), treats.deliveries, noDelivery, List.append_nil]
  | @finished started now log elapsed delivered events saving taking saves =>
      obtain ⟨treatments, areFiles, treats⟩ := taking.treats
      obtain ⟨noSource, noDelivery⟩ := saves.quiet
      have isTaken : delivered = .ok () :=
        finished _ _ (List.mem_append_right _ List.mem_cons_self)
      have isTotal : files.length = (outcomes treatments).length := by
        rw [outcomes, List.length_map, ← areFiles, List.length_map]
      rw [isTaken, Statistics.statistics_of_counts treats.counts isTotal]
      refine ⟨treatments, .finished ⟨areFiles, treats.faithful, ?_⟩ ?_ ?_⟩
      · rw [List.filterMap_append, filterMap_looked (fun _ => rfl), treats.sources, noSource,
          List.append_nil]
        exact List.append_nil _
      · rw [List.filterMap_append, filterMap_looked (fun _ => rfl), taking.unsaved,
          List.nil_append]
        rcases saves.saved?_eq with ⟨isSaved, _⟩ | ⟨isSaved, _⟩
        · rw [isSaved]
          exact List.forall_mem_singleton.mpr rfl
        · rw [isSaved]
          exact fun _ member => absurd member List.not_mem_nil
      · rw [List.filterMap_append, filterMap_looked (fun _ => rfl), treats.deliveries,
          noDelivery, List.append_nil]
        rfl

section Runs

variable {pipeline : Pipeline} {services : Services σ}

theorem Services.Accepts.published
    {files : List Descriptor}
    {state : σ}
    {file : Descriptor}
    {report : Report}
    {result : Except DeliveryFailure Unit}
    (accepts : services.Accepts)
    (member : .published file report result ∈
      (pipeline.transcript services files state).events) :
    result = .ok () := by
  obtain ⟨call, isCall, isEvent⟩ := List.mem_map.mp member
  have isGenuine := Pipeline.isGenuine_of_mem_transcript isCall
  rw [Call.IsGenuine, isEvent] at isGenuine
  exact isGenuine.symm.trans (accepts.publish file report call.before)

theorem Services.Accepts.finished
    {files : List Descriptor}
    {state : σ}
    {statistics : Statistics}
    {result : Except DeliveryFailure Unit}
    (accepts : services.Accepts)
    (member : .finished statistics result ∈
      (pipeline.transcript services files state).events) :
    result = .ok () := by
  obtain ⟨call, isCall, isEvent⟩ := List.mem_map.mp member
  have isGenuine := Pipeline.isGenuine_of_mem_transcript isCall
  rw [Call.IsGenuine, isEvent] at isGenuine
  exact isGenuine.symm.trans (accepts.finish statistics call.before)

/-- If failures do not end a run and its publisher takes everything, then all files are
treated. -/
theorem run_finishes
    (accepts : services.Accepts)
    (continues : pipeline.analyzer.settings.continueOnError = true)
    (files : List Descriptor)
    (state : σ) :
    ∃ treatments, Finishes pipeline files (pipeline.transcript services files state).events
      (pipeline.run services files state).result treatments :=
  (pipeline.running services files state).finishes continues
    (fun _ _ _ => accepts.published) (fun _ _ => accepts.finished)

end Runs

/-- A publisher that takes everything, whatever its state. -/
structure Publisher.Accepts (publisher : Publisher π) : Prop where
  publish : ∀ file report state, (publisher.publish file report state).1 = .ok ()
  finish : ∀ statistics state, (publisher.finish statistics state).1 = .ok ()

/-- The services of a workspace deliver to its publisher. -/
theorem Publisher.Accepts.services
    {publisher : Publisher π}
    (accepts : publisher.Accepts)
    (settings : Config.AnalysisSettings)
    (enricher : Enricher ε) :
    (Workspace.services settings enricher publisher).Accepts where
  publish file report workspace := accepts.publish file report workspace.publisher
  finish statistics workspace := accepts.finish statistics workspace.publisher

end SourceFacts.Run
