import SourceFacts.Proofs.Disk.Differences
import SourceFacts.Proofs.Run.Lockstep

namespace SourceFacts.Run

/-!
# How a run closes

If failures do not end a run and its publisher takes everything, then what is left after its
files is to write the report on failures, which changes the tree and nothing else.
-/

open Config Disk Facts Failures Time

/-! ## Writing the report on failures -/

/-- What writing the report on the failures of a log in a tree comes to, and the tree after
that. -/
inductive Writes (pipeline : Pipeline) (log : Log) (tree : Disk) (tag : String) :
    Except OsError Unit → Disk → Prop where
  | unwanted
      (noPath : pipeline.settings.report.path? = none) :
      Writes pipeline log tree tag (.ok ()) tree
  | attempted {path : String} {now later : Instant} {elapsed : Nat}
      (isPath : pipeline.settings.report.path? = some path) :
      Writes pipeline log tree tag
        (saveReport tree path (log.report pipeline.project now elapsed) tag later).1
        (saveReport tree path (log.report pipeline.project now elapsed) tag later).2

/-- Reports on failures are written in one tree or not alike, and leave trees that differ in
one file at most. -/
theorem Writes.differ
    {pipeline : Pipeline}
    {log otherLog : Log}
    {tree changed other : Disk}
    {tag : String}
    {result otherResult : Except OsError Unit}
    (writes : Writes pipeline log tree tag result changed)
    (writesOther : Writes pipeline otherLog tree tag otherResult other) :
    result = otherResult ∧ ∃ place, DifferAt place changed other := by
  cases writes with
  | unwanted noPath =>
      cases writesOther with
      | unwanted _ =>
          exact ⟨rfl, [], rfl, rfl⟩
      | attempted isPath =>
          exact absurd isPath (by simp [noPath])
  | attempted isPath =>
      cases writesOther with
      | unwanted noPath =>
          exact absurd isPath (by simp [noPath])
      | attempted isOther =>
          obtain rfl := Option.some.inj (isPath.symm.trans isOther)
          exact saveReport_differAt ..

theorem Writes.eq_of_none
    {pipeline : Pipeline}
    {log : Log}
    {tree changed : Disk}
    {tag : String}
    {result : Except OsError Unit}
    (writes : Writes pipeline log tree tag result changed)
    (noPath : pipeline.settings.report.path? = none) :
    changed = tree := by
  cases writes with
  | unwanted _ =>
      rfl
  | attempted isPath =>
      exact absurd isPath (by simp [noPath])

section Ends

variable (pipeline : Pipeline) (settings : AnalysisSettings) (enricher : Enricher ε)
  {publisher : Publisher π}

/-- Writing the report on failures changes nothing but the tree. -/
theorem saveReport_writes
    (publisher : Publisher π)
    (started : Instant)
    (log : Log)
    (workspace : Workspace ε π) :
    ∃ saved last,
      pipeline.saveReport (Workspace.services settings enricher publisher) started log workspace =
        (saved, last) ∧
      Writes pipeline log workspace.disk (tagText workspace.tagsUsed) saved last.disk ∧
      last.store = workspace.store ∧ last.enricher = workspace.enricher := by
  unfold Pipeline.saveReport
  cases isPath : pipeline.settings.report.path? with
  | none =>
      exact ⟨.ok (), workspace, rfl, .unwanted isPath, rfl, rfl⟩
  | some path =>
      exact ⟨_, _, rfl, .attempted isPath, rfl, rfl⟩

/-- What is left to do after the last file changes the tree by writing the report on failures
at most, and fails exactly if that does. -/
theorem finish_writes
    (accepts : publisher.Accepts)
    (started : Instant)
    (log : Log)
    (workspace : Workspace ε π) :
    ∃ saved result last,
      pipeline.finish (Workspace.services settings enricher publisher) started log workspace =
        (result, last) ∧
      Writes pipeline log workspace.disk (tagText workspace.tagsUsed) saved last.disk ∧
      last.store = workspace.store ∧ last.enricher = workspace.enricher ∧
      result.map (fun _ => ()) = saved.mapError .report := by
  let ready := (Workspace.now workspace).2
  have isNow : ((Workspace.services settings enricher publisher).now workspace).2 = ready := rfl
  obtain ⟨saved, after, isSaved, writes, sameStore, sameEnricher⟩ :=
    saveReport_writes pipeline settings enricher publisher started log ready
  simp only [Pipeline.finish, isNow, isSaved]
  refine ⟨saved, ?_⟩
  cases saved with
  | error error =>
      exact ⟨_, after, rfl, writes, sameStore, sameEnricher, rfl⟩
  | ok _ =>
      have finishes : ∀ statistics,
          (Workspace.services settings enricher publisher).finish statistics after =
            (.ok (),
              { after with publisher := (publisher.finish statistics after.publisher).2 }) :=
        fun statistics => Prod.ext (accepts.finish statistics after.publisher) rfl
      dsimp only
      rw [finishes]
      exact ⟨_, _, rfl, writes, sameStore, sameEnricher, rfl⟩

end Ends

/-! ## Whole runs -/

theorem Saving.noDeed
    {pipeline : Pipeline}
    {log : Log}
    {result : Except OsError Unit}
    {events : List Event}
    (saves : Saving pipeline log result events) :
    events.filterMap Event.deed? = [] := by
  cases saves <;> rfl

theorem readings_of_deeds
    {transcript : Transcript (Workspace ε π)}
    (noDeed : transcript.deeds = []) :
    transcript.readings = [] := by
  rw [Transcript.readings, List.filterMap_eq_nil_iff]
  intro call isCall
  have unseen := List.filterMap_eq_nil_iff.mp noDeed call.event (List.mem_map_of_mem isCall)
  unfold Call.reading?
  cases isEvent : call.event with
  | sought _ _ | kept _ _ _ _ _ =>
      rw [isEvent] at unseen
      exact absurd unseen (by simp [Event.deed?])
  | _ => rfl

/-- What a run has logged and reached after its files, and what it called for them. -/
def reached (pipeline : Pipeline) (services : Services (Workspace ε π)) (files : List Descriptor)
    (workspace : Workspace ε π) : Log × Recorded ε π :=
  (pipeline.processAll services.recorded files (Log.declareTotal {} files.length)
    (services.recorded.now (workspace, [])).2).2

/-- What is left of a run once its files are done with is to write the report on failures. -/
structure Closes (pipeline : Pipeline) (reached : Log × Recorded ε π)
    (ending : Ending (Workspace ε π)) (calls : Transcript (Workspace ε π)) : Prop where
  deeds : calls.deeds = reached.2.2.deeds
  readings : calls.readings = reached.2.2.readings
  store : ending.state.store = reached.2.1.store
  enricher : ending.state.enricher = reached.2.1.enricher
  saved : ∃ saved, Writes pipeline reached.1 reached.2.1.disk (tagText reached.2.1.tagsUsed) saved
      ending.state.disk ∧
    ending.result.map (fun _ => ()) = saved.mapError .report

/-- A run that takes all its files first does everything with them, and then writes the report on
failures. -/
theorem closes_of_taken
    (pipeline : Pipeline)
    (settings : AnalysisSettings)
    (enricher : Enricher ε)
    {publisher : Publisher π}
    (accepts : publisher.Accepts)
    (files : List Descriptor)
    (workspace : Workspace ε π)
    (isNone : (pipeline.processAll (Workspace.services settings enricher publisher).recorded files
      (Log.declareTotal {} files.length)
      ((Workspace.services settings enricher publisher).recorded.now (workspace, [])).2).1 =
        none) :
    Closes pipeline
      (reached pipeline (Workspace.services settings enricher publisher) files workspace)
      (pipeline.run (Workspace.services settings enricher publisher) files workspace)
      (pipeline.transcript (Workspace.services settings enricher publisher) files workspace) := by
  let services := Workspace.services settings enricher publisher
  rw [Pipeline.run_eq_recorded, Pipeline.transcript, reached]
  simp only [Pipeline.run]
  generalize pipeline.processAll services.recorded files (Log.declareTotal {} files.length)
    (services.recorded.now (workspace, [])).2 = ending at isNone ⊢
  obtain ⟨stopped?, log, reached, calls⟩ := ending
  obtain rfl : stopped? = none := isNone
  obtain ⟨now, result, last, saving, closing, isFinished, ends⟩ :=
    Pipeline.finish_recorded pipeline services (services.now workspace).1 log reached calls
  have isClosing : Transcript.deeds closing = [] := by
    rw [Transcript.deeds]
    rcases ends with ⟨_, saves, _, areEvents⟩ | ⟨_, _, saves, _, areEvents⟩
    · rw [areEvents]
      exact saves.noDeed
    · rw [areEvents, List.filterMap_append]
      exact congrArg (· ++ []) saves.noDeed
  have mirrored : pipeline.finish services (services.now workspace).1 log reached =
      (result, last) := by
    rw [Pipeline.finish_mirrors services.mirror_recorded (services.now workspace).1 log
      (reached, calls)]
    exact congrArg (fun ending => (ending.1, ending.2.1)) isFinished
  obtain ⟨saved, _, _, isPlain, writes, sameStore, sameEnricher, isResult⟩ :=
    finish_writes pipeline settings enricher accepts (services.now workspace).1 log reached
  obtain ⟨rfl, rfl⟩ := Prod.mk.inj (isPlain.symm.trans mirrored)
  have isStarted : (services.recorded.now (workspace, [])).1 = (services.now workspace).1 := rfl
  dsimp only
  rw [isStarted, isFinished]
  refine ⟨?_, ?_, sameStore, sameEnricher, saved, writes, isResult⟩
  · rw [Transcript.deeds_append, isClosing, List.append_nil]
  · rw [Transcript.readings_append, readings_of_deeds isClosing, List.append_nil]

/-- A run first does everything with its files, and then writes the report on failures. -/
theorem run_reached
    (pipeline : Pipeline)
    (settings : AnalysisSettings)
    (enricher : Enricher ε)
    {publisher : Publisher π}
    (accepts : publisher.Accepts)
    (continues : pipeline.analyzer.settings.continueOnError = true)
    (files : List Descriptor)
    (workspace : Workspace ε π) :
    Closes pipeline
      (reached pipeline (Workspace.services settings enricher publisher) files workspace)
      (pipeline.run (Workspace.services settings enricher publisher) files workspace)
      (pipeline.transcript (Workspace.services settings enricher publisher) files workspace) :=
  closes_of_taken pipeline settings enricher accepts files workspace
    (processAll_fst (goAlong_services settings enricher publisher accepts) continues files _ _)

end SourceFacts.Run
