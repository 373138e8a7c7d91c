import SourceFacts.Analysis.SourceFile

namespace SourceFacts.Analysis

/-!
# What comes of analysing a file

Whether a file has a model, what its outcome is, what is answered and what is logged depends on
what was read of the file and on nothing else.
-/

open Config Disk Facts Failures Text Time

/-!
## Where models come from

A file has a model exactly if it was read and parsed, and the model is then that of the
text that was read.
-/

/-- An outcome with a model and reservations about it has that model. -/
@[simp] theorem Outcome.model?_ofModel
    (model : Model)
    (reasons : List String) :
    (Outcome.ofModel model reasons).model? = some model := by
  cases reasons <;> rfl

/-- A file that is not too large is read, and its content is decoded. -/
theorem readSource_of_find
    {disk : Disk}
    {path : String}
    {place : Place}
    {content : Bytes}
    {modified : Instant}
    {settings : AnalysisSettings}
    {decoded : Decoded}
    (found : disk.find true path = .ok (place, .file content modified))
    (fits : content.length ≤ settings.maxFileSizeBytes.toNat)
    (isDecoded : decode settings.encodingFallback content = .ok decoded) :
    readSource settings disk path =
      .ok { text := decoded.text, sizeBytes := content.length, encoding := decoded.encoding } := by
  have isRead : disk.read path = .ok content := by
    rw [Disk.read, found]
  have isSmall : ¬ settings.maxFileSizeBytes.toNat < (Disk.Node.file content modified).size :=
    Nat.not_lt.mpr fits
  simp only [readSource, found, isRead, isDecoded, if_neg isSmall]

namespace Analyzer

variable {analyzer : Analyzer} {path : String} {size : UInt64} {now : Instant} {log : Log}
  {analyzed : Analyzed} {model : Model}

/-- The model of a text, if it can be parsed. -/
def model? (analyzer : Analyzer) (path : String) (source : SourceText) : Option Model :=
  match analyzer.parse analyzer.settings.parseTimeoutMs.toNat source.text with
  | .error _ => none
  | .ok parsed => some (analyzer.modelOf path source parsed)

/-- A failure does not give a model. -/
theorem model?_of_fail
    {failure : Failure}
    {context : Context}
    (isAnalyzed : (analyzer.fail path failure context now log).1 = .ok analyzed) :
    analyzed.outcome.model? = none := by
  rw [fail] at isAnalyzed
  split at isAnalyzed
  · obtain rfl := Except.ok.inj isAnalyzed
    rfl
  · exact absurd isAnalyzed (by simp)

/-- What has a model was read, and the model is that of the text. -/
theorem exists_source_of_model?
    {read : Except Failure SourceText}
    (isAnalyzed : (analyzer.analyzeRead path size read now log).1 = .ok analyzed)
    (isModel : analyzed.outcome.model? = some model) :
    ∃ source, read = .ok source ∧ analyzed.source? = some source.text ∧
      analyzer.model? path source = some model := by
  cases read with
  | error failure =>
      rw [model?_of_fail isAnalyzed] at isModel
      exact absurd isModel (by simp)
  | ok source =>
      refine ⟨source, rfl, ?_⟩
      rw [analyzeRead, analyzeText] at isAnalyzed
      rw [model?]
      cases isParsed : analyzer.parse analyzer.settings.parseTimeoutMs.toNat source.text with
      | error failure =>
          simp only [isParsed] at isAnalyzed
          rw [model?_of_fail isAnalyzed] at isModel
          exact absurd isModel (by simp)
      | ok parsed =>
          simp only [isParsed] at isAnalyzed
          obtain rfl := Except.ok.inj isAnalyzed
          rw [Outcome.model?_ofModel] at isModel
          exact ⟨rfl, isModel⟩

/-- What was read and can be parsed has a model. -/
theorem exists_analyzed_of_model?
    {source : SourceText}
    (isModel : analyzer.model? path source = some model)
    (size : UInt64)
    (now : Instant)
    (log : Log) :
    ∃ analyzed, (analyzer.analyzeRead path size (.ok source) now log).1 = .ok analyzed ∧
      analyzed.outcome.model? = some model := by
  rw [model?] at isModel
  rw [analyzeRead, analyzeText]
  cases isParsed : analyzer.parse analyzer.settings.parseTimeoutMs.toNat source.text with
  | error failure =>
      simp [isParsed] at isModel
  | ok parsed =>
      rw [isParsed] at isModel
      obtain rfl := Option.some.inj isModel
      exact ⟨_, rfl, Outcome.model?_ofModel _ _⟩

/-- Where a text was read from and how it was encoded is all that its model does not tell
from the text. -/
theorem modelOf_congr
    {source otherSource : SourceText}
    (analyzer : Analyzer)
    (path otherPath : String)
    (parsed : Parsed)
    (sameText : source.text = otherSource.text) :
    analyzer.modelOf otherPath otherSource parsed =
      { analyzer.modelOf path source parsed with
        path := otherPath
        encoding := otherSource.encoding } := by
  simp only [modelOf, sameText, Extraction.model, Hints.Engine.apply]
  rfl

end Analyzer

/-!
## What an analysis comes to

Whether a file can be analysed and what its outcome is depends on what was read and on
nothing else. The log gets a record with the category of the failure, or counts one more
success.
-/

/-- The outcome of a file that cannot be analysed. -/
def Outcome.ofFailure (failure : Failure) : Outcome :=
  .failed (Category.classify failure.message) failure.message

/-- The outcome of a failure is what is recorded of it. -/
theorem Outcome.ofFailure_eq
    (failure : Failure)
    (path : String)
    (context : Context)
    (now : Instant) :
    ofFailure failure =
      .failed (Record.ofMessage path failure.message context now).category
        (Record.ofMessage path failure.message context now).message := by
  simp only [ofFailure, Record.ofMessage]

namespace Analyzer

/-- Why what was read cannot be analysed, if that is so. -/
def failure? (analyzer : Analyzer) (read : Except Failure SourceText) : Option Failure :=
  match read with
  | .error failure => some failure
  | .ok source =>
      match analyzer.parse analyzer.settings.parseTimeoutMs.toNat source.text with
      | .error failure => some failure
      | .ok _ => none

/-- The outcome for what was read at a path. -/
def outcome (analyzer : Analyzer) (path : String) (read : Except Failure SourceText) : Outcome :=
  match read with
  | .error failure => .ofFailure failure
  | .ok source =>
      match analyzer.parse analyzer.settings.parseTimeoutMs.toNat source.text with
      | .error failure => .ofFailure failure
      | .ok parsed =>
          let model := analyzer.modelOf path source parsed
          .ofModel model (reasons parsed.errors model.truncated)

variable {analyzer : Analyzer} {path : String} {read : Except Failure SourceText}
  {failure : Failure}

/-- The outcome of what cannot be analysed is the failure. -/
theorem outcome_of_failure?
    (fails : analyzer.failure? read = some failure)
    (path : String) :
    analyzer.outcome path read = .ofFailure failure := by
  unfold failure? at fails
  unfold outcome
  cases read with
  | error other =>
      obtain rfl := Option.some.inj fails
      rfl
  | ok source =>
      cases isParsed : analyzer.parse analyzer.settings.parseTimeoutMs.toNat source.text with
      | error other =>
          simp only [isParsed] at fails ⊢
          rw [Option.some.inj fails]
      | ok parsed =>
          simp [isParsed] at fails

/-- What can be analysed was read and has a model, which is that of the outcome. -/
theorem exists_model_of_failure?
    (succeeds : analyzer.failure? read = none)
    (path : String) :
    ∃ source model, read = .ok source ∧ analyzer.model? path source = some model ∧
      (analyzer.outcome path read).model? = some model := by
  unfold failure? at succeeds
  cases read with
  | error other =>
      exact absurd succeeds (by simp)
  | ok source =>
      cases isParsed : analyzer.parse analyzer.settings.parseTimeoutMs.toNat source.text with
      | error other =>
          simp [isParsed] at succeeds
      | ok parsed =>
          refine ⟨source, analyzer.modelOf path source parsed, rfl, ?_, ?_⟩
          · simp only [model?, isParsed]
          · simp only [outcome, isParsed, Outcome.model?_ofModel]

theorem model?_of_failure?
    {source : SourceText}
    (fails : analyzer.failure? (.ok source) = some failure)
    (path : String) :
    analyzer.model? path source = none := by
  simp only [failure?] at fails
  rw [model?]
  cases isParsed : analyzer.parse analyzer.settings.parseTimeoutMs.toNat source.text with
  | error other =>
      rfl
  | ok parsed =>
      simp [isParsed] at fails

/-- What is recorded of a file besides the failure: what was announced of it if it cannot be
read, and else what was read. -/
def context (announcedSize : UInt64) : Except Failure SourceText → Context
  | .error _ => { sizeBytes := some announcedSize }
  | .ok source => {
      sizeBytes := some (UInt64.ofNat source.sizeBytes)
      lineCount := some (UInt64.ofNat (Text.lineCount source.text))
      encoding := source.encoding }

/-- A failure is recorded, and is the outcome or ends the run. -/
theorem analyzeRead_failed
    (fails : analyzer.failure? read = some failure)
    (path : String)
    (size : UInt64)
    (now : Instant)
    (log : Log) :
    analyzer.analyzeRead path size read now log =
      (if analyzer.settings.continueOnError then
          .ok { outcome := .ofFailure failure, source? := none }
        else .error failure,
        log.addRecord (Record.ofMessage path failure.message (context size read) now)) := by
  have fail_eq : ∀ context, analyzer.fail path failure context now log =
      (if analyzer.settings.continueOnError then
          .ok { outcome := .ofFailure failure, source? := none }
        else .error failure,
        log.addRecord (Record.ofMessage path failure.message context now)) := by
    intro context
    simp only [fail, Record.ofMessage, Outcome.ofFailure]
    split <;> rfl
  unfold failure? at fails
  unfold analyzeRead
  cases read with
  | error other =>
      obtain rfl := Option.some.inj fails
      exact fail_eq _
  | ok source =>
      unfold analyzeText
      cases isParsed : analyzer.parse analyzer.settings.parseTimeoutMs.toNat source.text with
      | error other =>
          simp only [isParsed] at fails ⊢
          rw [Option.some.inj fails]
          exact fail_eq _
      | ok parsed =>
          simp [isParsed] at fails

/-- A failure gets a record with its category, and is the outcome or ends the run. -/
theorem analyzeRead_of_failure?
    (fails : analyzer.failure? read = some failure)
    (path : String)
    (size : UInt64)
    (now : Instant)
    (log : Log) :
    ∃ record, record.category = Category.classify failure.message ∧
      analyzer.analyzeRead path size read now log =
        (if analyzer.settings.continueOnError then
            .ok { outcome := .ofFailure failure, source? := none }
          else .error failure, log.addRecord record) := by
  refine ⟨_, ?_, analyzeRead_failed fails path size now log⟩
  simp only [Record.ofMessage]

/-- What can be analysed has its outcome, and is one more success. -/
theorem analyzeRead_ok
    {source : SourceText}
    (succeeds : analyzer.failure? (.ok source) = none)
    (path : String)
    (size : UInt64)
    (now : Instant)
    (log : Log) :
    analyzer.analyzeRead path size (.ok source) now log =
      (.ok { outcome := analyzer.outcome path (.ok source), source? := some source.text },
        log.addSuccess) := by
  simp only [failure?] at succeeds
  simp only [analyzeRead, analyzeText, outcome]
  cases isParsed : analyzer.parse analyzer.settings.parseTimeoutMs.toNat source.text with
  | error other =>
      simp [isParsed] at succeeds
  | ok parsed =>
      rfl

/-- What comes of an analysis depends neither on the time nor on the log. -/
theorem analyzeRead_fst
    (analyzer : Analyzer)
    (path : String)
    (size : UInt64)
    (read : Except Failure SourceText)
    (now later : Instant)
    (log other : Log) :
    (analyzer.analyzeRead path size read now log).1 =
      (analyzer.analyzeRead path size read later other).1 := by
  cases isFailure : analyzer.failure? read with
  | some failure =>
      obtain ⟨_, _, first⟩ := analyzeRead_of_failure? isFailure path size now log
      obtain ⟨_, _, second⟩ := analyzeRead_of_failure? isFailure path size later other
      rw [first, second]
  | none =>
      obtain ⟨source, _, rfl, _, _⟩ := exists_model_of_failure? isFailure path
      rw [analyzeRead_ok isFailure, analyzeRead_ok isFailure]

end Analyzer

end SourceFacts.Analysis

namespace SourceFacts

/-!
## What an analysis answers and records

What comes of analysing a file depends on what was read of it, and on neither the time nor what
was logged before. The log gets a record of the failure, or counts one more success. Whether
failures end a run decides in which form a failure is answered, and nothing else.
-/

open Config Failures Time

/-- A log after one more file, with the record of its failure if it failed. -/
def Failures.Log.addFile (log : Log) : Option Record → Log
  | some record => log.addRecord record
  | none => log.addSuccess

namespace Analysis

/-- What is read of a text that is at hand, which must not be too large. -/
def takeText (settings : AnalysisSettings) (text : String) : Except Failure SourceText :=
  if settings.maxFileSizeBytes.toNat < text.utf8ByteSize then
    .error (.resourceLimit text.utf8ByteSize settings.maxFileSizeBytes.toNat)
  else .ok { text, sizeBytes := text.utf8ByteSize }

namespace Analyzer

/-- The analyzer that goes on after failures, or that does not. -/
def continuing (analyzer : Analyzer) (continues : Bool) : Analyzer :=
  { analyzer with settings := { analyzer.settings with continueOnError := continues } }

/-- What is answered about what was read at a path. -/
def answer (analyzer : Analyzer) (path : String) (read : Except Failure SourceText) :
    Except Failure Analyzed :=
  match analyzer.failure? read with
  | some failure =>
      if analyzer.settings.continueOnError then
        .ok { outcome := .ofFailure failure, source? := none }
      else .error failure
  | none =>
      .ok { outcome := analyzer.outcome path read, source? := read.toOption.map (·.text) }

/-- The record of a file that failed, of which a size was announced. -/
def record? (analyzer : Analyzer) (path : String) (announcedSize : UInt64)
    (read : Except Failure SourceText) (now : Instant) : Option Record :=
  (analyzer.failure? read).map fun failure =>
    Record.ofMessage path failure.message (context announcedSize read) now

/-- What is recorded at another time is the same but for the time. -/
theorem record?_at
    (analyzer : Analyzer)
    (path : String)
    (size : UInt64)
    (read : Except Failure SourceText)
    (now later : Instant) :
    analyzer.record? path size read later =
      (analyzer.record? path size read now).map ({ · with timestamp := later }) := by
  simp only [record?, Option.map_map, Record.ofMessage, Function.comp_def]

/-- What was read is answered about and recorded. -/
theorem analyzeRead_eq
    (analyzer : Analyzer)
    (path : String)
    (size : UInt64)
    (read : Except Failure SourceText)
    (now : Instant)
    (log : Log) :
    analyzer.analyzeRead path size read now log =
      (analyzer.answer path read, log.addFile (analyzer.record? path size read now)) := by
  cases isFailure : analyzer.failure? read with
  | some failure =>
      rw [analyzeRead_failed isFailure, answer, record?, isFailure]
      rfl
  | none =>
      obtain ⟨source, _, rfl, _, _⟩ := exists_model_of_failure? isFailure path
      rw [analyzeRead_ok isFailure, answer, record?, isFailure]
      rfl

/-- What can be analysed is answered about in the same way whether failures end a run or not. -/
theorem analyzeRead_continuing
    {analyzer : Analyzer}
    {read : Except Failure SourceText}
    (succeeds : analyzer.failure? read = none)
    (continues : Bool)
    (path : String)
    (size : UInt64)
    (now : Instant)
    (log : Log) :
    (analyzer.continuing continues).analyzeRead path size read now log =
      analyzer.analyzeRead path size read now log := by
  have stillSucceeds : (analyzer.continuing continues).failure? read = none := succeeds
  obtain ⟨source, _, rfl, _, _⟩ := exists_model_of_failure? succeeds path
  rw [analyzeRead_ok stillSucceeds, analyzeRead_ok succeeds]
  rfl

/-- A text that is at hand is analysed like one that was read. -/
theorem analyzeSource_eq
    (analyzer : Analyzer)
    (path text : String)
    (now : Instant)
    (log : Log) :
    analyzer.analyzeSource path text now log =
      analyzer.analyzeRead path (UInt64.ofNat text.utf8ByteSize)
        (takeText analyzer.settings text) now log := by
  simp only [analyzeSource, takeText]
  split <;> rfl

end Analyzer

end Analysis

end SourceFacts
