import SourceFacts.Analysis.Failure
import SourceFacts.Analysis.Outcome
import SourceFacts.Config.Settings
import SourceFacts.Extraction.Structure
import SourceFacts.Failures.Log
import SourceFacts.Hints.Engine
import SourceFacts.Python.Parser
import SourceFacts.Text.Utf8

namespace SourceFacts.Analysis

/-!
# Analysing a file

A text is parsed, its structure is found and hints are added. A failure is
recorded in the log of the run; it then is the outcome, or ends the run.
-/

open Config Facts Failures Hints Syntax Text Time

/-!
## From bytes to text

The content of a file is text in UTF-8, or else, if that is allowed, in
ISO-8859-1, where every byte is a character. A zero byte near the beginning
shows that it is no text.
-/

/-- The bytes among which a zero byte is looked for. -/
def sniffedLength : Nat := 8192

/-- The name of the encoding that stands in for UTF-8. -/
def fallbackEncoding : String := "iso-8859-1"

/-- A text, and its encoding if that is not UTF-8. -/
structure Decoded where
  text : String
  encoding : Option String := none
deriving Repr, DecidableEq, Inhabited

/-- The text that bytes stand for. -/
def decode (useFallback : Bool) (bytes : Bytes) : Except EncodingFault Decoded :=
  match (bytes.take sniffedLength).findIdx? (· == 0) with
  | some offset => .error (.binary offset)
  | none =>
      let content := dropMark bytes
      match decode? content with
      | some text => .ok { text }
      | none =>
          if useFallback then .ok { text := latin1 content, encoding := some fallbackEncoding }
          else .error (.invalid (validLength content))

/-! ## Analysers -/

/-- A text that was read. -/
structure SourceText where
  text : String
  sizeBytes : Nat
  encoding : Option String := none
deriving Repr, DecidableEq, Inhabited

/-- What a file is analysed with. -/
structure Analyzer where
  settings : AnalysisSettings := {}
  hints : Engine := Engine.builtin
  /-- Finds the tree of a text in a number of milliseconds. -/
  parse : Nat → String → Except Failure Parsed := Python.parse
deriving Inhabited

/-- An outcome, together with the text it is about. -/
structure Analyzed where
  outcome : Outcome
  source? : Option String
deriving Repr, DecidableEq, Inhabited

/-- What is said about a model that was cut short. -/
def budgetExhausted : String := "extraction budget exhausted"

/-- The reservations about a model of a text with errors. -/
def reasons (errors : List ParseError) (truncated : Bool) : List String :=
  (errors.map fun error =>
    "line " ++ toString error.span.startLine.toNat ++ ": " ++ error.message) ++
    if truncated then [budgetExhausted] else []

/-- The outcome with a model and reservations about it. -/
def Outcome.ofModel (model : Model) (reasons : List String) : Outcome :=
  if reasons.isEmpty then .success model else .incomplete model reasons

namespace Analyzer

/-- The model of a parsed text. -/
def modelOf (analyzer : Analyzer) (path : String) (source : SourceText) (parsed : Parsed) :
    Model :=
  let budget : Budget := { limits := analyzer.settings.limits }
  let found := (Extraction.model path source.text parsed.root budget).2
  let hinted := analyzer.hints.apply { found with encoding := source.encoding }
  { hinted with parseErrors := parsed.errors }

/-- What becomes of a failure, which is recorded in any case. -/
def fail (analyzer : Analyzer) (path : String) (failure : Failure) (context : Context)
    (now : Instant) (log : Log) : Except Failure Analyzed × Log :=
  let record := Record.ofMessage path failure.message context now
  let log := log.addRecord record
  if analyzer.settings.continueOnError then
    (.ok { outcome := .failed record.category failure.message, source? := none }, log)
  else (.error failure, log)

/-- Analyses a text that was read from a path. -/
def analyzeText (analyzer : Analyzer) (path : String) (source : SourceText) (now : Instant)
    (log : Log) : Except Failure Analyzed × Log :=
  match analyzer.parse analyzer.settings.parseTimeoutMs.toNat source.text with
  | .error failure =>
      let context : Context := {
        sizeBytes := some (UInt64.ofNat source.sizeBytes)
        lineCount := some (UInt64.ofNat (Text.lineCount source.text))
        encoding := source.encoding }
      analyzer.fail path failure context now log
  | .ok parsed =>
      let model := analyzer.modelOf path source parsed
      let outcome := Outcome.ofModel model (reasons parsed.errors model.truncated)
      (.ok { outcome, source? := some source.text }, log.addSuccess)

/-- Analyses a text as if it had been read from a path. -/
def analyzeSource (analyzer : Analyzer) (path text : String) (now : Instant) (log : Log) :
    Except Failure Analyzed × Log :=
  let size := text.utf8ByteSize
  let limit := analyzer.settings.maxFileSizeBytes.toNat
  if limit < size then
    analyzer.fail path (.resourceLimit size limit) { sizeBytes := some (UInt64.ofNat size) }
      now log
  else analyzer.analyzeText path { text, sizeBytes := size } now log

/-- Analyses what came of reading the file at a path, whose size was announced. -/
def analyzeRead (analyzer : Analyzer) (path : String) (announcedSize : UInt64)
    (read : Except Failure SourceText) (now : Instant) (log : Log) :
    Except Failure Analyzed × Log :=
  match read with
  | .error failure => analyzer.fail path failure { sizeBytes := some announcedSize } now log
  | .ok source => analyzer.analyzeText path source now log

end Analyzer

end SourceFacts.Analysis
