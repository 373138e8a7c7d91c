import SourceFacts.Config.Failure
import SourceFacts.Config.Settings
import SourceFacts.Disk.Files
import SourceFacts.Yaml.Printer

namespace SourceFacts.Config

/-!
# Settings as documents

Settings are stored in YAML: the version of the form, the name of a preset and
overrides by section. When they are read, the version is looked at first, names that
mean nothing are refused, and so are values out of their range.
-/

open Disk Yaml

/-! ## Fields of a document -/

/-- The entries of a mapping as fields, if its keys are all among some names. -/
def fieldsOfEntries? (names : List String) :
    List (Value × Value) → Option (List (String × Value))
  | [] => some []
  | (.string name, value) :: rest =>
      if names.contains name then (fieldsOfEntries? names rest).map ((name, value) :: ·) else none
  | _ => none

/-- The fields of a record with the given names: a mapping, or a sequence of all
values in order. -/
def recordFields? (names : List String) : Value → Option (List (String × Value))
  | .mapping entries => fieldsOfEntries? names entries
  | .sequence items => if items.length = names.length then some (names.zip items) else none
  | _ => none

/-- The value of a field. -/
def value? (name : String) (fields : List (String × Value)) : Option Value :=
  (fields.find? (·.1 = name)).map (·.2)

/-- The value of a field that must be there. -/
def required? (read : Value → Option α) (name : String) (fields : List (String × Value)) :
    Option α := do
  read (← value? name fields)

/-- The value of a field that may be missing or null. -/
def optional? (read : Value → Option α) (name : String) (fields : List (String × Value)) :
    Option (Option α) :=
  match value? name fields with
  | none | some .null => some none
  | some value => (read value).map some

/-- A text. -/
def text? : Value → Option String
  | .string text => some text
  | _ => none

/-- A truth value. -/
def flag? : Value → Option Bool
  | .bool value => some value
  | _ => none

/-- An unsigned word. -/
def word? : Value → Option UInt64
  | .integer value =>
      if 0 ≤ value && value < UInt64.size then some (UInt64.ofNat value.toNat) else none
  | _ => none

/-! ## Reading -/

/-- Bounds on analysis that a record gives. -/
def AnalysisOverrides.ofValue? (value : Value) : Option AnalysisOverrides := do
  let fields ← recordFields? AnalysisSettings.fieldNames value
  return {
    maxFileSizeBytes? := ← optional? word? "max_file_size_bytes" fields
    parseTimeoutMs? := ← optional? word? "parse_timeout_ms" fields
    maxDepth? := ← optional? word? "max_depth" fields
    maxNodes? := ← optional? word? "max_nodes" fields
    maxChildren? := ← optional? word? "max_children" fields
    continueOnError? := ← optional? flag? "continue_on_error" fields
    encodingFallback? := ← optional? flag? "encoding_fallback" fields
    excerptMaxBytes? := ← optional? word? "excerpt_max_bytes" fields }

/-- The names of the settings of the cache. -/
def CacheSettings.fieldNames : List String :=
  ["enabled", "directory", "ttl_seconds", "schema_version", "shard_prefix_len",
    "include_path_in_key"]

/-- Settings of the cache that a record gives. -/
def CacheOverrides.ofValue? (value : Value) : Option CacheOverrides := do
  let fields ← recordFields? CacheSettings.fieldNames value
  return {
    enabled? := ← optional? flag? "enabled" fields
    directory? := ← optional? text? "directory" fields
    ttlSeconds? := ← optional? word? "ttl_seconds" fields
    schemaVersion? := ← optional? text? "schema_version" fields
    shardPrefixLen? := ← optional? word? "shard_prefix_len" fields
    includePathInKey? := ← optional? flag? "include_path_in_key" fields }

/-- The enrichment that a record chooses. -/
def EnrichmentSettings.ofValue? (value : Value) : Option EnrichmentSettings := do
  let fields ← recordFields? ["config_id"] value
  return { configId := ← required? text? "config_id" fields }

/-- Where a record wants the report on failures. -/
def ReportSettings.ofValue? (value : Value) : Option ReportSettings := do
  let fields ← recordFields? ["path"] value
  return { path? := ← optional? text? "path" fields }

/-- The overrides that a record gives. -/
def Overrides.ofValue? (value : Value) : Option Overrides := do
  let fields ← recordFields? ["analysis", "cache", "enrichment", "report"] value
  return {
    analysis? := ← optional? AnalysisOverrides.ofValue? "analysis" fields
    cache? := ← optional? CacheOverrides.ofValue? "cache" fields
    enrichment? := ← optional? EnrichmentSettings.ofValue? "enrichment" fields
    report? := ← optional? ReportSettings.ofValue? "report" fields }

/-- The name of a preset and the overrides in a document. -/
def presetAndOverrides? (value : Value) : Option (String × Overrides) := do
  let fields ← recordFields? ["version", "preset", "overrides"] value
  let _ ← required? word? "version" fields
  return (← required? text? "preset" fields,
    (← optional? Overrides.ofValue? "overrides" fields).getD {})

/-- The version that a document says it has. -/
def version? : Value → Option UInt64
  | .mapping entries => do
      let (_, value) ← entries.find? fun entry => entry.1.same (.string "version")
      word? value
  | _ => none

namespace Settings

/-- The settings that a document gives. -/
def ofValue (value : Value) : Except Failure Settings :=
  match version? value with
  | none => .error .missingVersion
  | some version =>
      if version.toNat ≠ currentVersion then .error (.unsupportedVersion version.toNat)
      else
        match presetAndOverrides? value with
        | none => .error .malformed
        | some (name, overrides) => do
            let preset ← Preset.find name
            (overrides.apply (ofPreset preset)).validate

/-- The settings that a text gives. -/
def ofYaml (text : String) : Except Failure Settings :=
  match Yaml.parse? text with
  | none => .error .malformed
  | some value => ofValue value

/-- The settings that a file gives. -/
def load (disk : Disk) (path : String) : Except Failure Settings :=
  match disk.read path with
  | .error error => .error (.io error)
  | .ok content =>
      match Text.decode? content with
      | none => .error .notText
      | some text => ofYaml text

/-! ## Writing -/

/-- The entries of a document with these settings. -/
def entries (settings : Settings) : List (String × Content) :=
  let analysis := settings.analysis
  let cache := settings.cache
  [("version", .word (UInt64.ofNat currentVersion)),
    ("preset", .text settings.preset.name),
    ("overrides", .group ([
      ("analysis", .group [
        ("max_file_size_bytes", .word analysis.maxFileSizeBytes),
        ("parse_timeout_ms", .word analysis.parseTimeoutMs),
        ("max_depth", .word analysis.maxDepth),
        ("max_nodes", .word analysis.maxNodes),
        ("max_children", .word analysis.maxChildren),
        ("continue_on_error", .bool analysis.continueOnError),
        ("encoding_fallback", .bool analysis.encodingFallback),
        ("excerpt_max_bytes", .word analysis.excerptMaxBytes)]),
      ("cache", .group [
        ("enabled", .bool cache.enabled),
        ("directory", .text cache.directory),
        ("ttl_seconds", .word cache.ttlSeconds),
        ("schema_version", .text cache.schemaVersion),
        ("shard_prefix_len", .word cache.shardPrefixLen),
        ("include_path_in_key", .bool cache.includePathInKey)]),
      ("enrichment", .group [("config_id", .text settings.enrichment.configId)])] ++
      match settings.report.path? with
      | none => []
      | some path => [("report", .group [("path", .text path)])]))]

/-- These settings as a text. -/
def toYaml (settings : Settings) : String := document settings.entries

end Settings

end SourceFacts.Config
