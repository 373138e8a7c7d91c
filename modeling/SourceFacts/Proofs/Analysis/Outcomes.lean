import SourceFacts.Proofs.Analysis.Verdicts
import SourceFacts.Proofs.Disk.Directories
import SourceFacts.Proofs.Text.Encodings

namespace SourceFacts

/-!
# Outcomes of analyses

What comes of the analysis of a text, and that the analysis of a file comes to the same.
-/

open Config Disk Facts Failures Text Time

/-!
## The three outcomes of an analysis

A text is analysed with a model and nothing to be said against it, with a model and reservations
about it, or not at all. The outcome, the text that is kept and what is logged go together, and
whether failures end a run changes nothing but the form of a failure.
-/

/-! ### Logs but for the time -/

namespace Failures

/-- A record but for the time. -/
def Record.untimed (record : Record) : Record := { record with timestamp := {} }

/-- A log but for the times of its records. -/
def Log.untimed (log : Log) : Log := { log with records := log.records.map Record.untimed }

/-- Records of one failure at different times are the same but for the time. -/
theorem Log.untimed_addFile
    {first second : Option Record}
    (same : first.map Record.untimed = second.map Record.untimed)
    (log : Log) :
    (log.addFile first).untimed = (log.addFile second).untimed := by
  cases first with
  | none =>
      obtain rfl := Option.map_eq_none_iff.mp same.symm
      rfl
  | some record =>
      obtain ⟨other, rfl, sameRecord⟩ := Option.map_eq_some_iff.mp same.symm
      simp only [addFile, addRecord, untimed, List.map_append, List.map_cons, List.map_nil,
        sameRecord]

end Failures

namespace Analysis

/-! ### The outcomes -/

/-- There is a model and nothing to be said against it. -/
structure Analyzed.Succeeds (analyzed : Analyzed) (text : String) (before after : Log) :
    Prop where
  outcome : ∃ model, analyzed.outcome = .success model ∧
    model.parseErrors = [] ∧ model.truncated = false
  source : analyzed.source? = some text
  /-- It is one more success, and nothing is recorded. -/
  log : after = { before with successful := before.successful + 1 }

/-- There is a model and reservations about it: one for each error in the text, in order, and one
if the model was cut short. -/
structure Analyzed.IsReserved (analyzed : Analyzed) (text : String) (before after : Log) :
    Prop where
  outcome : ∃ model reservations, analyzed.outcome = .incomplete model reservations ∧
    reservations ≠ [] ∧
    reservations =
      (model.parseErrors.map fun error =>
        "line " ++ toString error.span.startLine.toNat ++ ": " ++ error.message) ++
      if model.truncated then ["extraction budget exhausted"] else []
  source : analyzed.source? = some text
  /-- It is one more success, and nothing is recorded. -/
  log : after = { before with successful := before.successful + 1 }

/-- There is neither a model nor a text. -/
structure Analyzed.Fails (analyzed : Analyzed) (before after : Log) : Prop where
  /-- One record tells the category and the reason, and there are no more successes. -/
  outcome : ∃ record : Record, analyzed.outcome = .failed record.category record.message ∧
    after = { before with records := before.records ++ [record] }
  model : analyzed.outcome.model? = none
  source : analyzed.source? = none

/-- Exactly one of these is what becomes of a text. -/
structure Analyzed.HasOneOutcome (analyzed : Analyzed) (text : String) (before after : Log) :
    Prop where
  isOne : analyzed.Succeeds text before after ∨ analyzed.IsReserved text before after ∨
    analyzed.Fails before after
  notReserved : analyzed.Succeeds text before after → ¬ analyzed.IsReserved text before after
  notFailed : analyzed.Succeeds text before after → ¬ analyzed.Fails before after
  notBoth : analyzed.IsReserved text before after → ¬ analyzed.Fails before after

/-- An analysis that ends the run at failures answers like one that does not, and has a failure
for an answer in place of a failed outcome. -/
structure Analyzed.AnsweredAs (analyzed : Analyzed) (after : Log)
    (answer : Except Failure Analyzed) (log : Log) : Prop where
  log : log.untimed = after.untimed
  unfailed : analyzed.outcome.isFailed = false → answer = .ok analyzed
  failed : ∀ category reason, analyzed.outcome = .failed category reason →
    ∃ failure, answer = .error failure ∧ failure.message = reason

section Exclusive

variable {analyzed : Analyzed} {text : String} {before after : Log}

theorem Analyzed.Succeeds.status_eq
    (succeeds : analyzed.Succeeds text before after) :
    analyzed.outcome.status = "success" := by
  obtain ⟨model, isOutcome, _⟩ := succeeds.outcome
  rw [isOutcome]
  rfl

theorem Analyzed.IsReserved.status_eq
    (isReserved : analyzed.IsReserved text before after) :
    analyzed.outcome.status = "partial" := by
  obtain ⟨model, reservations, isOutcome, _⟩ := isReserved.outcome
  rw [isOutcome]
  rfl

theorem Analyzed.Fails.status_eq
    (fails : analyzed.Fails before after) :
    analyzed.outcome.status = "failed" := by
  obtain ⟨record, isOutcome, _⟩ := fails.outcome
  rw [isOutcome]
  rfl

/-- What becomes of a text has one name, so it is one thing. -/
theorem Analyzed.hasOneOutcome
    (isOne : analyzed.Succeeds text before after ∨ analyzed.IsReserved text before after ∨
      analyzed.Fails before after) :
    analyzed.HasOneOutcome text before after where
  isOne
  notReserved succeeds isReserved :=
    absurd (succeeds.status_eq.symm.trans isReserved.status_eq) (by decide)
  notFailed succeeds fails :=
    absurd (succeeds.status_eq.symm.trans fails.status_eq) (by decide)
  notBoth isReserved fails :=
    absurd (isReserved.status_eq.symm.trans fails.status_eq) (by decide)

end Exclusive

/-! ### Reservations -/

/-- There is nothing to be said against a model of a text without errors that was not cut
short. -/
theorem reasons_eq_nil_iff
    (errors : List ParseError)
    (truncated : Bool) :
    reasons errors truncated = [] ↔ errors = [] ∧ truncated = false := by
  cases truncated <;> simp [reasons]

/-- A text that is at hand is taken as it is. -/
theorem text_of_takeText
    {settings : AnalysisSettings}
    {text : String}
    {source : SourceText}
    (isTaken : takeText settings text = .ok source) :
    source.text = text := by
  unfold takeText at isTaken
  split at isTaken
  · cases isTaken
  · cases isTaken
    rfl

namespace Analyzer

variable {analyzer : Analyzer} {path : String}

/-- The reservations about a model are told by the model. -/
theorem outcome_eq_ofModel
    {source : SourceText}
    (succeeds : analyzer.failure? (.ok source) = none)
    (path : String) :
    ∃ model, analyzer.outcome path (.ok source) =
      .ofModel model (reasons model.parseErrors model.truncated) := by
  simp only [failure?] at succeeds
  simp only [outcome]
  cases isParsed : analyzer.parse analyzer.settings.parseTimeoutMs.toNat source.text with
  | error failure =>
      simp [isParsed] at succeeds
  | ok parsed =>
      exact ⟨analyzer.modelOf path source parsed, rfl⟩

/-- A model is a success, or is kept with the reservations about it. -/
theorem succeeds_or_isReserved
    {source : SourceText}
    (succeeds : analyzer.failure? (.ok source) = none)
    (path : String)
    (log : Log) :
    let analyzed : Analyzed :=
      { outcome := analyzer.outcome path (.ok source), source? := some source.text }
    analyzed.Succeeds source.text log log.addSuccess ∨
      analyzed.IsReserved source.text log log.addSuccess := by
  obtain ⟨model, isOutcome⟩ := outcome_eq_ofModel succeeds path
  rw [isOutcome]
  by_cases isEmpty : reasons model.parseErrors model.truncated = []
  · have isSuccess : Outcome.ofModel model (reasons model.parseErrors model.truncated) =
        .success model := by
      rw [Outcome.ofModel, isEmpty]
      rfl
    obtain ⟨noErrors, isWhole⟩ := (reasons_eq_nil_iff _ _).mp isEmpty
    exact .inl ⟨⟨model, isSuccess, noErrors, isWhole⟩, rfl, rfl⟩
  · have isIncomplete : Outcome.ofModel model (reasons model.parseErrors model.truncated) =
        .incomplete model (reasons model.parseErrors model.truncated) := by
      rw [Outcome.ofModel, if_neg (by simpa using isEmpty)]
    exact .inr ⟨⟨model, _, isIncomplete, isEmpty, rfl⟩, rfl, rfl⟩

/-- What is logged does not depend on whether failures end a run, nor on the time but for that of
a record. -/
theorem untimed_addFile_record?
    (analyzer : Analyzer)
    (path : String)
    (size : UInt64)
    (read : Except Failure SourceText)
    (now later : Instant)
    (log : Log) :
    (log.addFile ((analyzer.continuing false).record? path size read later)).untimed =
      (log.addFile ((analyzer.continuing true).record? path size read now)).untimed := by
  refine Log.untimed_addFile ?_ log
  rw [record?_at _ path size read now later, Option.map_map]
  rfl

/-- What fails is answered with the failure, and one record of it is added. -/
theorem fails_and_answeredAs
    {read : Except Failure SourceText}
    {failure : Failure}
    (fails : analyzer.failure? read = some failure)
    (path : String)
    (size : UInt64)
    (now : Instant)
    (log : Log) :
    let analyzed : Analyzed := { outcome := .ofFailure failure, source? := none }
    let after := log.addFile ((analyzer.continuing true).record? path size read now)
    (analyzer.continuing true).answer path read = .ok analyzed ∧ analyzed.Fails log after ∧
      (analyzer.continuing false).answer path read = .error failure := by
  have stillFails : ∀ continues, (analyzer.continuing continues).failure? read = some failure :=
    fun _ => fails
  let record := Record.ofMessage path failure.message (context size read) now
  have isRecord : (analyzer.continuing true).record? path size read now = some record := by
    rw [record?, stillFails]
    rfl
  refine ⟨?_, ⟨⟨record, Outcome.ofFailure_eq _ _ _ _, ?_⟩, rfl, rfl⟩, ?_⟩
  · rw [answer, stillFails]
    rfl
  · rw [isRecord]
    rfl
  · rw [answer, stillFails]
    rfl

/-- What does not fail is answered in the same way whether failures end a run or not, and is one
more success. -/
theorem answer_of_succeeds
    {source : SourceText}
    (succeeds : analyzer.failure? (.ok source) = none)
    (path : String)
    (size : UInt64)
    (continues : Bool)
    (now : Instant)
    (log : Log) :
    (analyzer.continuing continues).answer path (.ok source) =
        .ok { outcome := analyzer.outcome path (.ok source), source? := some source.text } ∧
      log.addFile ((analyzer.continuing continues).record? path size (.ok source) now) =
        log.addSuccess := by
  have stillSucceeds : (analyzer.continuing continues).failure? (.ok source) = none := succeeds
  refine ⟨?_, ?_⟩
  · rw [answer, stillSucceeds]
    rfl
  · rw [record?, stillSucceeds]
    rfl

/-- A text is analysed with a model, with a model and reservations, or not at all, and an
analyzer that stops at failures finds and logs the same. -/
theorem analyzeSource_hasOneOutcome
    (analyzer : Analyzer)
    (path text : String)
    (now later : Instant)
    (log : Log) :
    ∃ analyzed after,
      (analyzer.continuing true).analyzeSource path text now log = (.ok analyzed, after) ∧
      analyzed.HasOneOutcome text log after ∧
      analyzed.AnsweredAs after ((analyzer.continuing false).analyzeSource path text later log).1
        ((analyzer.continuing false).analyzeSource path text later log).2 := by
  rw [analyzeSource_eq, analyzeSource_eq, analyzeRead_eq, analyzeRead_eq]
  have sameRead : ∀ continues, takeText (analyzer.continuing continues).settings text =
      takeText analyzer.settings text := fun _ => rfl
  rw [sameRead, sameRead]
  let size := UInt64.ofNat text.utf8ByteSize
  generalize isTaken : takeText analyzer.settings text = read
  have sameLog := untimed_addFile_record? analyzer path size read now later log
  cases isFailure : analyzer.failure? read with
  | some failure =>
      obtain ⟨isAnswer, fails, isRefusal⟩ := fails_and_answeredAs isFailure path size now log
      refine ⟨_, _, Prod.ext isAnswer rfl, Analyzed.hasOneOutcome (.inr (.inr fails)),
        sameLog, ?_, ?_⟩
      · intro isUnfailed
        exact absurd isUnfailed (by simp [Outcome.ofFailure, Outcome.isFailed])
      · intro category reason isOutcome
        exact ⟨failure, isRefusal, (Outcome.failed.inj isOutcome).2⟩
  | none =>
      obtain ⟨source, _, rfl, _, _⟩ := exists_model_of_failure? isFailure path
      obtain ⟨isAnswer, isLog⟩ := answer_of_succeeds isFailure path size true now log
      obtain ⟨sameAnswer, _⟩ := answer_of_succeeds isFailure path size false later log
      have isOne := succeeds_or_isReserved isFailure path log
      rw [text_of_takeText isTaken, ← isLog] at isOne
      rw [text_of_takeText isTaken] at isAnswer sameAnswer
      obtain ⟨model, isOutcome⟩ := outcome_eq_ofModel isFailure path
      refine ⟨_, _, Prod.ext isAnswer rfl, Analyzed.hasOneOutcome ?_, sameLog, ?_, ?_⟩
      · exact isOne.imp_right .inl
      · intro _
        exact sameAnswer
      · intro category reason isFailed
        rw [isOutcome, Outcome.ofModel] at isFailed
        split at isFailed <;> cases isFailed

end Analyzer

end Analysis

/-!
## Files and texts

The content of a file that is plain text in UTF-8 is analysed like the text itself: the limits, the
failures and what is recorded of them are the same.
-/

namespace Analysis

/-- Bytes that are a text in UTF-8, and bear no mark that would be dropped and no zero that would
show them to be something else. -/
structure IsPlainText (content : Bytes) (text : String) : Prop where
  isText : decode? content = some text
  noMark : ¬ byteOrderMark <+: content
  noZero : 0 ∉ content.take sniffedLength

namespace IsPlainText

variable {content : Bytes} {text : String}

/-- The size of the text is that of its bytes. -/
theorem length_eq
    (isPlain : IsPlainText content text) :
    content.length = text.utf8ByteSize := by
  rw [← length_encode, encode_of_decode? isPlain.isText]

/-- The bytes are decoded as UTF-8, whether or not another encoding may stand in for it. -/
theorem decode_eq
    (isPlain : IsPlainText content text)
    (useFallback : Bool) :
    decode useFallback content = .ok { text } := by
  have noneFound : (content.take sniffedLength).findIdx? (· == 0) = none := by
    rw [List.findIdx?_eq_none_iff]
    intro byte isByte
    exact beq_eq_false_iff_ne.mpr fun isZero => isPlain.noZero (isZero ▸ isByte)
  have allKept : dropMark content = content := by
    rw [dropMark, if_neg]
    exact fun isMarked => isPlain.noMark (List.isPrefixOf_iff_prefix.mp isMarked)
  simp only [decode, noneFound, allKept, isPlain.isText]

end IsPlainText

/-- A file of plain text is read as the text is taken, and is too large if the text is. -/
theorem readSource_eq_takeText
    {disk : Disk}
    {path : String}
    {place : Place}
    {content : Bytes}
    {modified : Instant}
    {text : String}
    (found : disk.find true path = .ok (place, .file content modified))
    (isPlain : IsPlainText content text)
    (settings : AnalysisSettings) :
    readSource settings disk path = takeText settings text := by
  by_cases fits : content.length ≤ settings.maxFileSizeBytes.toNat
  · rw [readSource_of_find found fits (isPlain.decode_eq _), takeText,
      if_neg (Nat.not_lt.mpr (isPlain.length_eq ▸ fits)), isPlain.length_eq]
  · have isLarge : settings.maxFileSizeBytes.toNat < (Disk.Node.file content modified).size :=
      Nat.not_le.mp fits
    simp only [readSource, found, if_pos isLarge]
    rw [takeText, if_pos (isPlain.length_eq ▸ Nat.not_le.mp fits), ← isPlain.length_eq]
    rfl

namespace Analyzer

/-- A file of plain text whose size is known is answered about like the text, and the same is
logged but for the time. -/
theorem analyzeFile_agrees_analyzeSource
    {disk : Disk}
    {file : Descriptor}
    {place : Place}
    {content : Bytes}
    {modified : Instant}
    {text : String}
    (found : disk.find true file.path = .ok (place, .file content modified))
    (isPlain : IsPlainText content text)
    (isSize : file.sizeBytes.toNat = content.length)
    (analyzer : Analyzer)
    (now later : Instant)
    (log other : Log) :
    (analyzer.analyzeFile disk file now log).1 =
        (analyzer.analyzeSource file.path text later other).1 ∧
      ∃ record : Option Record,
        (analyzer.analyzeFile disk file now log).2 = log.addFile record ∧
        (analyzer.analyzeSource file.path text later other).2 =
          other.addFile (record.map ({ · with timestamp := later })) := by
  have sameSize : UInt64.ofNat text.utf8ByteSize = file.sizeBytes := by
    rw [← isPlain.length_eq, ← isSize, UInt64.ofNat_toNat]
  rw [analyzeFile, readSource_eq_takeText found isPlain, analyzeSource_eq, sameSize,
    analyzeRead_eq, analyzeRead_eq]
  exact ⟨rfl, _, rfl, congrArg other.addFile (record?_at _ _ _ _ _ _)⟩

/-! A file that is just as large as files may be. -/

/-- A statement on a line. -/
def statement : String := "x = 1\n"

/-- A tree with a file that has the statement. -/
def statementDisk : Disk := { entries := [(["a.py"], .file (encode statement) {})] }

/-- The file with the statement. -/
def statementFile : Descriptor := { path := "a.py", sizeBytes := 6 }

/-- An analyzer for files that are no larger than the statement. -/
def statementAnalyzer : Analyzer := { settings := { maxFileSizeBytes := 6 } }

/-- The statement is plain text. -/
theorem isPlainText_statement : IsPlainText (encode statement) statement :=
  ⟨decode?_encode _, by decide, by decide⟩

/-- The file is found by its name. -/
theorem find_statement :
    statementDisk.find true statementFile.path = .ok (["a.py"], .file (encode statement) {}) :=
  find_top_file (by decide) (by decide)

/-- The file with the statement is analysed like the statement. -/
theorem analyzeFile_statement :
    (statementAnalyzer.analyzeFile statementDisk statementFile {} {}).1 =
        (statementAnalyzer.analyzeSource "a.py" statement {} {}).1 ∧
      ∃ record : Option Record,
        (statementAnalyzer.analyzeFile statementDisk statementFile {} {}).2 =
          Log.addFile {} record ∧
        (statementAnalyzer.analyzeSource "a.py" statement {} {}).2 =
          Log.addFile {} (record.map ({ · with timestamp := {} })) :=
  analyzeFile_agrees_analyzeSource find_statement isPlainText_statement (by decide)
    statementAnalyzer {} {} {} {}

end Analyzer

end Analysis

end SourceFacts
