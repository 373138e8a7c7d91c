import SourceFacts.Proofs.Analysis.Verdicts
import SourceFacts.Proofs.Cache.Keys
import SourceFacts.Proofs.Run.Findings

namespace SourceFacts

/-!
# What the path of a file decides

A path names a file, its model and the record of its failure. What is found out about a text
depends on nothing but the text, and the key of a file depends on the path only if that is wanted;
then files at different paths have keys of different bytes.
-/

open Cache Facts Failures Syntax Text Time

/-! ## Analyses -/

namespace Analysis

/-- An outcome at another path. -/
def Outcome.movedTo (outcome : Outcome) (path : String) : Outcome :=
  match outcome with
  | .success model => .success { model with path }
  | .incomplete model reasons => .incomplete { model with path } reasons
  | .failed category reason => .failed category reason

/-- What an analysis comes to at another path. -/
def Analyzed.movedTo (analyzed : Analyzed) (path : String) : Analyzed :=
  { analyzed with outcome := analyzed.outcome.movedTo path }

/-- A model at another path meets with the same reservations. -/
theorem Outcome.movedTo_ofModel
    (model : Model)
    (reasons : List String)
    (path : String) :
    (Outcome.ofModel model reasons).movedTo path = .ofModel { model with path } reasons := by
  cases reasons <;> rfl

namespace Analyzer

variable {analyzer : Analyzer}

/-- Whether a text can be analysed depends on nothing but the text. -/
theorem failure?_congr
    {source otherSource : SourceText}
    (sameText : source.text = otherSource.text) :
    analyzer.failure? (.ok source) = analyzer.failure? (.ok otherSource) := by
  simp only [failure?, sameText]

/-- The outcome at another path is the same there. -/
theorem outcome_movedTo
    (analyzer : Analyzer)
    (path other : String)
    (read : Except Failure SourceText) :
    analyzer.outcome other read = (analyzer.outcome path read).movedTo other := by
  cases read with
  | error failure =>
      rfl
  | ok source =>
      simp only [outcome]
      cases analyzer.parse analyzer.settings.parseTimeoutMs.toNat source.text with
      | error failure =>
          rfl
      | ok parsed =>
          simp only [Outcome.movedTo_ofModel, modelOf_congr analyzer path other parsed rfl]
          rfl

/-- What is answered at another path is the same there. -/
theorem answer_movedTo
    (analyzer : Analyzer)
    (path other : String)
    (read : Except Failure SourceText) :
    analyzer.answer other read = (analyzer.answer path read).map (·.movedTo other) := by
  rw [answer, answer, outcome_movedTo analyzer path other]
  cases analyzer.failure? read with
  | none =>
      rfl
  | some failure =>
      simp only
      split <;> rfl

/-- What is recorded at another path and time is the same but for these. -/
theorem record?_movedTo
    (analyzer : Analyzer)
    (path other : String)
    (size : UInt64)
    (read : Except Failure SourceText)
    (now later : Instant) :
    analyzer.record? other size read later =
      (analyzer.record? path size read now).map
        ({ · with path := other, timestamp := later }) := by
  simp only [record?, Option.map_map, Record.ofMessage, Function.comp_def]

end Analyzer

end Analysis

/-! ## Keys -/

namespace Cache

/-- Paths are told apart by the bytes of the keys of one content, however long they are. -/
theorem KeyInputs.path_of_preimage_eq
    {inputs : KeyInputs}
    {path other : String}
    (hasPath : inputs.path? = some path)
    (same : inputs.preimage = { inputs with path? := some other }.preimage) :
    path = other := by
  rw [preimage_eq, preimage_eq, hasPath] at same
  simp only [List.append_cancel_left_eq] at same
  have fields : fieldBytes (encode path) = fieldBytes (encode other) :=
    (List.cons.inj same).2
  have sameLength : (lengthBytes (encode path).length).length =
      (lengthBytes (encode other).length).length := by
    rw [length_lengthBytes, length_lengthBytes]
  exact encode_inj.mp (List.append_inj fields sameLength).2

end Cache

namespace Run

open Analysis

namespace Pipeline

variable {pipeline : Pipeline}

/-- What the key of a text that was read at a path stands for, if the text has a model. -/
def keyInputs? (pipeline : Pipeline) (path : String) (source : SourceText) : Option KeyInputs :=
  (pipeline.analyzer.model? path source).map fun model =>
    pipeline.keyInputs path model source.text

/-- The key of a text is the one that its inputs have. -/
theorem key?_ok
    (pipeline : Pipeline)
    (path : String)
    (source : SourceText) :
    pipeline.key? path (.ok source) =
      if pipeline.settings.cache.enabled then (pipeline.keyInputs? path source).map (·.key)
      else none := by
  rw [key?, keyInputs?, Option.map_map]
  rfl

/-- Texts that are the same have keys that stand for the same but for the path. -/
theorem keyInputs?_congr
    {source otherSource : SourceText}
    (pipeline : Pipeline)
    (path other : String)
    (sameText : source.text = otherSource.text) :
    pipeline.keyInputs? other otherSource =
      (pipeline.keyInputs? path source).map fun inputs =>
        { inputs with
          path? := if pipeline.settings.cache.includePathInKey then some other else none } := by
  rw [keyInputs?, keyInputs?, Analyzer.model?, Analyzer.model?, sameText]
  cases pipeline.analyzer.parse pipeline.analyzer.settings.parseTimeoutMs.toNat
    otherSource.text with
  | error failure =>
      rfl
  | ok parsed =>
      simp only [Option.map_some, keyInputs,
        Analyzer.modelOf_congr pipeline.analyzer path other parsed sameText]
      rfl

/-- The key of a text has its path if that is wanted. -/
theorem path?_of_keyInputs?
    {path : String}
    {source : SourceText}
    {inputs : KeyInputs}
    (isInputs : pipeline.keyInputs? path source = some inputs) :
    inputs.path? = if pipeline.settings.cache.includePathInKey then some path else none := by
  obtain ⟨model, _, rfl⟩ := Option.map_eq_some_iff.mp isInputs
  rfl

/-- Texts that are the same have keys that stand for the same if keys have no paths. -/
theorem keyInputs?_of_noPath
    {source otherSource : SourceText}
    (noPath : pipeline.settings.cache.includePathInKey = false)
    (path other : String)
    (sameText : source.text = otherSource.text) :
    pipeline.keyInputs? path source = pipeline.keyInputs? other otherSource := by
  rw [keyInputs?_congr pipeline path other sameText]
  cases isInputs : pipeline.keyInputs? path source with
  | none =>
      rfl
  | some inputs =>
      have isPath : inputs.path? = none := by
        rw [path?_of_keyInputs? isInputs, if_neg (by simp [noPath])]
      rw [Option.map_some, if_neg (by simp [noPath]), ← isPath]

/-- What is read of a file decides its key, or why there is no report on it. -/
theorem map_key?_process
    {services : Services σ}
    {file : Descriptor}
    {state : σ}
    {source : SourceText}
    (pipeline : Pipeline)
    (isRead : services.sourceOf file state = .ok source)
    (log : Log) :
    (pipeline.process services file log state).1.map (·.key?) =
      match pipeline.analyzer.failure? (.ok source) with
      | some failure =>
          if pipeline.analyzer.settings.continueOnError then .ok none else .error failure
      | none => .ok (pipeline.key? file.path (.ok source)) := by
  have isFinding := pipeline.map_finding_process services file log state
  have isKey : (pipeline.process services file log state).1.map (·.key?) =
      ((pipeline.process services file log state).1.map Report.finding).map (·.key?) := by
    cases (pipeline.process services file log state).1 <;> rfl
  rw [isKey, isFinding, isRead, verdict]
  cases isFailure : pipeline.analyzer.failure? (.ok source) with
  | some failure =>
      simp only
      split
      · rw [Except.map, finding, key?_of_failure? isFailure]
      · rfl
  | none =>
      rfl

/-- Where a text was read names what is found out about it, and decides nothing else but the key
if that is wanted. -/
structure IgnoresPaths (pipeline : Pipeline) : Prop where
  /-- A text at another path is answered about in the same way but for the path of the model, and
  the record of its failure differs in the path and in the time. -/
  answers : ∀ (path other text : String) (now later : Instant) (log otherLog : Log),
    (pipeline.analyzer.analyzeSource other text later otherLog).1 =
        (pipeline.analyzer.analyzeSource path text now log).1.map (·.movedTo other) ∧
      ∃ record : Option Record,
        (pipeline.analyzer.analyzeSource path text now log).2 = log.addFile record ∧
        (pipeline.analyzer.analyzeSource other text later otherLog).2 =
          otherLog.addFile (record.map ({ · with path := other, timestamp := later }))
  /-- Files with the same text have the same key, if keys have no paths. -/
  keys : pipeline.settings.cache.includePathInKey = false →
    ∀ {σ τ : Type} (services : Services σ) (others : Services τ) (file other : Descriptor)
      (log otherLog : Log) (state : σ) (otherState : τ) (source otherSource : SourceText),
      services.sourceOf file state = .ok source →
      others.sourceOf other otherState = .ok otherSource →
      source.text = otherSource.text →
      (pipeline.process services file log state).1.map (·.key?) =
        (pipeline.process others other otherLog otherState).1.map (·.key?)
  /-- Files at different paths have keys of different bytes, if keys have paths: whatever the texts
  are as long as eight bytes can count them, and in any case if the texts are the same. -/
  preimages : pipeline.settings.cache.includePathInKey = true →
    ∀ (path other : String) (source otherSource : SourceText) (inputs others : KeyInputs),
      path ≠ other →
      pipeline.keyInputs? path source = some inputs →
      pipeline.keyInputs? other otherSource = some others →
      source.text = otherSource.text ∨ inputs.Countable ∧ others.Countable →
      inputs.preimage ≠ others.preimage

/-- Paths name files and decide nothing else but keys. -/
theorem ignoresPaths (pipeline : Pipeline) : pipeline.IgnoresPaths where
  answers path other text now later log otherLog := by
    rw [Analyzer.analyzeSource_eq, Analyzer.analyzeSource_eq, Analyzer.analyzeRead_eq,
      Analyzer.analyzeRead_eq]
    exact ⟨Analyzer.answer_movedTo _ _ _ _, _, rfl,
      congrArg otherLog.addFile (Analyzer.record?_movedTo ..)⟩
  keys noPath σ τ services others file other log otherLog state otherState source otherSource
      isRead isReadToo sameText := by
    rw [map_key?_process pipeline isRead, map_key?_process pipeline isReadToo,
      Analyzer.failure?_congr sameText, key?_ok, key?_ok,
      keyInputs?_of_noPath noPath file.path other.path sameText]
  preimages hasPath path other source otherSource inputs others differ isInputs areOthers
      comparable same := by
    have isPath := path?_of_keyInputs? isInputs
    have isOther := path?_of_keyInputs? areOthers
    rw [if_pos hasPath] at isPath isOther
    rcases comparable with sameText | ⟨countable, countableToo⟩
    · rw [keyInputs?_congr pipeline path other sameText, isInputs] at areOthers
      obtain rfl := Option.some.inj areOthers
      rw [if_pos hasPath] at same
      exact differ (KeyInputs.path_of_preimage_eq isPath same)
    · have samePath : inputs.path? = others.path? :=
        ((KeyInputs.preimage_eq_iff countable countableToo).mp same).path
      rw [isPath, isOther] at samePath
      exact differ (Option.some.inj samePath)

/-- A pipeline whose keys have paths, for texts without content. -/
def pathPipeline : Pipeline where
  settings := { cache := { includePathInKey := true } }
  analyzer := {
    parse := fun _ _ => .ok {
      root := .mk { kind := "module" } []
      errors := [] } }
  configId := "plain"

/-- A file without content at two paths has keys of different bytes. -/
theorem preimages_atTwoPaths :
    ∃ inputs others,
      pathPipeline.keyInputs? "a.py" { text := "", sizeBytes := 0 } = some inputs ∧
      pathPipeline.keyInputs? "b.py" { text := "", sizeBytes := 0 } = some others ∧
      inputs.preimage ≠ others.preimage := by
  have succeeds : pathPipeline.analyzer.failure? (.ok { text := "", sizeBytes := 0 }) = none := rfl
  have isSome : ∀ path, ∃ inputs,
      pathPipeline.keyInputs? path { text := "", sizeBytes := 0 } = some inputs := by
    intro path
    obtain ⟨_, model, isSource, isModel, _⟩ := Analyzer.exists_model_of_failure? succeeds path
    obtain rfl := Except.ok.inj isSource
    exact ⟨_, Option.map_eq_some_iff.mpr ⟨model, isModel, rfl⟩⟩
  obtain ⟨inputs, isInputs⟩ := isSome "a.py"
  obtain ⟨others, areOthers⟩ := isSome "b.py"
  exact ⟨inputs, others, isInputs, areOthers,
    (ignoresPaths pathPipeline).preimages rfl _ _ _ _ _ _ (by decide) isInputs areOthers
      (.inl rfl)⟩

end Pipeline

end Run

end SourceFacts
