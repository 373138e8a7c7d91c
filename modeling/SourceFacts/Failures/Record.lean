import SourceFacts.Json.Fields
import SourceFacts.Text.Lowercase
import SourceFacts.Text.Pieces
import SourceFacts.Time.Instant

namespace SourceFacts.Failures

/-!
# Records of failures
-/

open Json Time

/-!
## Categories

A failure is sorted by the words of its message, whatever their case. Groups of
words are tried in order, the most specific first.
-/

/-- A category of failures. -/
inductive Category where
  | syntaxError
  | encodingError
  | timeoutError
  | resourceLimitError
  | fileAccessError
  | unknownError
deriving Repr, DecidableEq, Inhabited

namespace Category

/-- All categories, in the order in which they are listed. -/
def all : List Category :=
  [.syntaxError, .encodingError, .timeoutError, .resourceLimitError, .fileAccessError,
    .unknownError]

/-- The name of a category. -/
def name : Category → String
  | .syntaxError => "SyntaxError"
  | .encodingError => "EncodingError"
  | .timeoutError => "TimeoutError"
  | .resourceLimitError => "ResourceLimitError"
  | .fileAccessError => "FileAccessError"
  | .unknownError => "UnknownError"

/-- The category of a name. -/
def ofName? (name : String) : Option Category := all.find? (·.name == name)

/-- Whether another attempt may succeed. Only a text that cannot be parsed will
fail again. -/
def isRetryable (category : Category) : Bool := category ≠ .syntaxError

/-- Words that show the category of a message that has one of them, in the order
in which they are looked for. -/
def rules : List (Category × List String) := [
  (.timeoutError, ["timed out", "timeout", "deadline"]),
  (.resourceLimitError,
    ["exceeds limit", "too large", "memory", "recursion", "resource limit"]),
  (.encodingError, ["encoding", "decode", "codec", "utf-8", "unicode", "binary"]),
  (.syntaxError, ["syntax", "parse error", "unexpected", "unterminated", "indentation"]),
  (.fileAccessError,
    ["permission denied", "no such file", "not found", "file access", "is a directory",
      "i/o error"])]

/-- The category of a message in lower case. -/
def ofLowered (lowered : String) : Category :=
  ((rules.find? fun rule => rule.2.any (Text.contains lowered)).map (·.1)).getD .unknownError

/-- The category of a message. -/
def classify (message : String) : Category := ofLowered (Text.lowercase message)

end Category

/-! ## Records -/

/-- What is known about a file that failed. -/
structure Context where
  sizeBytes : Option UInt64 := none
  lineCount : Option UInt64 := none
  encoding : Option String := none
deriving Repr, DecidableEq, Inhabited

/-- The record of a failure. -/
structure Record where
  path : String
  category : Category
  message : String
  context : Context := {}
  timestamp : Instant
  isRetryable : Bool
deriving Repr, DecidableEq, Inhabited

/-- The record of a failure that a message describes. -/
def Record.ofMessage (path message : String) (context : Context) (now : Instant) : Record where
  path
  category := Category.classify message
  message
  context
  timestamp := now
  isRetryable := (Category.classify message).isRetryable

/-! ## Records as JSON -/

/-- A moment as JSON. -/
def instantJson (moment : Instant) : Json := .string moment.toText

/-- The moment that JSON stands for. -/
def asInstant? (json : Json) : Option Instant := json.asString?.bind Instant.ofText?

/-- A category as JSON. -/
def Category.toJson (category : Category) : Json := .string category.name

/-- The category that JSON stands for. -/
def Category.ofJson? (json : Json) : Option Category := json.asCase?.bind ofName?

/-- The fields of a context. -/
def Context.fieldNames : List String := ["file_size_bytes", "line_count", "encoding"]

/-- A context as a record, without what is absent. -/
def Context.toJson (context : Context) : Json :=
  .object (present "file_size_bytes" .word context.sizeBytes ++
    present "line_count" .word context.lineCount ++
    present "encoding" .string context.encoding)

/-- The context that a record stands for. -/
def Context.ofJson? (json : Json) : Option Context := do
  let fields ← json.asRecord? fieldNames
  return {
    sizeBytes := ← optionalField? asWord? "file_size_bytes" fields
    lineCount := ← optionalField? asWord? "line_count" fields
    encoding := ← optionalField? asString? "encoding" fields }

/-- The fields of the record of a failure. -/
def Record.fieldNames : List String :=
  ["file_path", "category", "message", "context", "timestamp", "is_retryable"]

/-- The record of a failure as JSON. -/
def Record.toJson (record : Record) : Json :=
  .object [
    ("file_path", .string record.path),
    ("category", record.category.toJson),
    ("message", .string record.message),
    ("context", record.context.toJson),
    ("timestamp", instantJson record.timestamp),
    ("is_retryable", .bool record.isRetryable)]

/-- The record of a failure that JSON stands for. -/
def Record.ofJson? (json : Json) : Option Record := do
  let fields ← json.asRecord? fieldNames
  return {
    path := ← field? asString? "file_path" fields
    category := ← field? Category.ofJson? "category" fields
    message := ← field? asString? "message" fields
    context := ← field? Context.ofJson? "context" fields
    timestamp := ← field? asInstant? "timestamp" fields
    isRetryable := ← field? asBool? "is_retryable" fields }

end SourceFacts.Failures
