import SourceFacts.Facts.Encoding
import SourceFacts.Syntax.Walk

namespace SourceFacts.Config

/-!
# Settings of a run

Settings, and what a stored document says of those that differ from a preset.
-/

open Json

/-!
## Settings

What can be set about a run. A preset fixes how long parsing may take and how
much of a tree is visited; everything else has a default.
-/

/-! ### Presets -/

/-- A choice of bounds. -/
inductive Preset where
  | fast
  | balanced
  | thorough
  | custom
deriving Repr, DecidableEq, Inhabited

/-- The bounds that a preset chooses. -/
structure PresetBudget where
  parseTimeoutMs : UInt64
  maxDepth : UInt64
  maxNodes : UInt64
deriving Repr, DecidableEq, Inhabited

namespace Preset

/-- All presets. -/
def all : List Preset := [.fast, .balanced, .thorough, .custom]

/-- The name of a preset. -/
def name : Preset → String
  | .fast => "fast"
  | .balanced => "balanced"
  | .thorough => "thorough"
  | .custom => "custom"

/-- The bounds that a preset chooses. -/
def budget : Preset → PresetBudget
  | .fast => ⟨5000, 64, 250000⟩
  | .balanced | .custom => ⟨30000, 256, 2000000⟩
  | .thorough => ⟨120000, 1024, 10000000⟩

/-- The preset of a name, whatever its case and the blanks around it. -/
def ofText? (text : String) : Option Preset :=
  all.find? fun preset => preset.name.toList == (Text.trim text).toList.map Char.toLower

/-- The preset that JSON stands for. -/
def ofJson? (json : Json) : Option Preset :=
  json.asCase?.bind fun name => all.find? (·.name == name)

end Preset

/-! ### Sections -/

/-- Bounds on the analysis of one file, and what becomes of failures. -/
structure AnalysisSettings where
  maxFileSizeBytes : UInt64 := 10485760
  parseTimeoutMs : UInt64 := 30000
  maxDepth : UInt64 := 256
  maxNodes : UInt64 := 2000000
  maxChildren : UInt64 := 10000
  continueOnError : Bool := true
  /-- Whether what is not in UTF-8 is read as ISO-8859-1. -/
  encodingFallback : Bool := true
  /-- How much of a source an enrichment gets to see. -/
  excerptMaxBytes : UInt64 := 4096
deriving Repr, DecidableEq, Inhabited

/-- Where enrichments are kept, and for how long. -/
structure CacheSettings where
  enabled : Bool := true
  directory : String := ".codegraph-cache"
  ttlSeconds : UInt64 := 604800
  schemaVersion : String := "1"
  /-- How many digits of a key name its directory. -/
  shardPrefixLen : UInt64 := 2
  includePathInKey : Bool := false
deriving Repr, DecidableEq, Inhabited

/-- Which enrichment is used. -/
structure EnrichmentSettings where
  configId : String := "offline-summary"
deriving Repr, DecidableEq, Inhabited

/-- Where the report on failures goes. -/
structure ReportSettings where
  path? : Option String := none
deriving Repr, DecidableEq, Inhabited

/-- All settings of a run. -/
structure Settings where
  preset : Preset := .balanced
  analysis : AnalysisSettings := {}
  cache : CacheSettings := {}
  enrichment : EnrichmentSettings := {}
  report : ReportSettings := {}
deriving Repr, DecidableEq, Inhabited

/-- The bounds on walks. -/
def AnalysisSettings.limits (settings : AnalysisSettings) : Syntax.Limits where
  maxDepth := settings.maxDepth.toNat
  maxNodes := settings.maxNodes.toNat
  maxChildren := settings.maxChildren.toNat

/-- The settings that a preset chooses. -/
def Settings.ofPreset (preset : Preset) : Settings where
  preset
  analysis := {
    parseTimeoutMs := preset.budget.parseTimeoutMs
    maxDepth := preset.budget.maxDepth
    maxNodes := preset.budget.maxNodes }

/-- The settings with a bound on the time for parsing, which is kept in whole
milliseconds. -/
def Settings.withParseTimeout (settings : Settings) (microseconds : Nat) : Settings :=
  { settings with
    analysis := { settings.analysis with
      parseTimeoutMs := UInt64.ofNat (microseconds / 1000) } }

/-! ### Ranges -/

/-- A setting outside of its range. -/
structure OutOfRange where
  field : String
  value : UInt64
  least : UInt64
  most : UInt64
  hint : String
deriving Repr, DecidableEq, Inhabited

/-- What is wrong with a setting, in words. -/
def OutOfRange.message (error : OutOfRange) : String :=
  error.field ++ " = " ++ toString error.value.toNat ++ " is outside " ++
    toString error.least.toNat ++ "..=" ++ toString error.most.toNat ++ ": " ++ error.hint

/-- The largest word. -/
def largest : UInt64 := 18446744073709551615

/-- The settings that have a range, with their values. -/
def Settings.ranges (settings : Settings) : List OutOfRange :=
  let analysis := settings.analysis
  [⟨"analysis.max_file_size_bytes", analysis.maxFileSizeBytes, 1, largest,
      "a zero ceiling rejects every file"⟩,
    ⟨"analysis.parse_timeout_ms", analysis.parseTimeoutMs, 1, largest,
      "the deadline must be positive"⟩,
    ⟨"analysis.max_depth", analysis.maxDepth, 1, largest,
      "the walk must reach top-level statements"⟩,
    ⟨"analysis.max_nodes", analysis.maxNodes, 1, largest,
      "the walk must visit the module node"⟩,
    ⟨"analysis.max_children", analysis.maxChildren, 1, largest,
      "each node needs one child slot"⟩,
    ⟨"cache.shard_prefix_len", settings.cache.shardPrefixLen, 1, 8,
      "shard directories are named by a short hex prefix of the key"⟩]

/-- The first setting outside of its range. -/
def Settings.outOfRange? (settings : Settings) : Option OutOfRange :=
  settings.ranges.find? fun range => range.value < range.least || range.most < range.value

/-! ### Settings as JSON -/

/-- The names of the bounds on analysis. -/
def AnalysisSettings.fieldNames : List String :=
  ["max_file_size_bytes", "parse_timeout_ms", "max_depth", "max_nodes", "max_children",
    "continue_on_error", "encoding_fallback", "excerpt_max_bytes"]

/-- The bounds on analysis as a record. -/
def AnalysisSettings.toJson (settings : AnalysisSettings) : Json :=
  .object [
    ("max_file_size_bytes", .word settings.maxFileSizeBytes),
    ("parse_timeout_ms", .word settings.parseTimeoutMs),
    ("max_depth", .word settings.maxDepth),
    ("max_nodes", .word settings.maxNodes),
    ("max_children", .word settings.maxChildren),
    ("continue_on_error", .bool settings.continueOnError),
    ("encoding_fallback", .bool settings.encodingFallback),
    ("excerpt_max_bytes", .word settings.excerptMaxBytes)]

/-- The fields of a record that has no others than those of the given names. -/
def strictRecord? (names : List String) (json : Json) : Option (List (String × Json)) := do
  let fields ← json.asRecord? names
  match json with
  | .object given => if given.all fun field => names.contains field.1 then some fields else none
  | _ => some fields

/-- The bounds on analysis that a record stands for. -/
def AnalysisSettings.ofJson? (json : Json) : Option AnalysisSettings := do
  let fields ← strictRecord? fieldNames json
  return {
    maxFileSizeBytes := ← field? asWord? "max_file_size_bytes" fields
    parseTimeoutMs := ← field? asWord? "parse_timeout_ms" fields
    maxDepth := ← field? asWord? "max_depth" fields
    maxNodes := ← field? asWord? "max_nodes" fields
    maxChildren := ← field? asWord? "max_children" fields
    continueOnError := ← field? asBool? "continue_on_error" fields
    encodingFallback := ← field? asBool? "encoding_fallback" fields
    excerptMaxBytes := ← field? asWord? "excerpt_max_bytes" fields }

/-- Where enrichments are kept, as a record. -/
def CacheSettings.toJson (settings : CacheSettings) : Json :=
  .object [
    ("enabled", .bool settings.enabled),
    ("directory", .string settings.directory),
    ("ttl_seconds", .word settings.ttlSeconds),
    ("schema_version", .string settings.schemaVersion),
    ("shard_prefix_len", .word settings.shardPrefixLen),
    ("include_path_in_key", .bool settings.includePathInKey)]

/-- All settings as a record. -/
def Settings.toJson (settings : Settings) : Json :=
  .object [
    ("preset", .string settings.preset.name),
    ("analysis", settings.analysis.toJson),
    ("cache", settings.cache.toJson),
    ("enrichment", .object [("config_id", .string settings.enrichment.configId)]),
    ("report", .object [("path", orNull .string settings.report.path?)])]

/-!
## Overrides

A stored document names a preset and the settings that differ from it. What it does
not name keeps the value that the preset gives it.
-/

/-- Bounds on analysis that are given. -/
structure AnalysisOverrides where
  maxFileSizeBytes? : Option UInt64 := none
  parseTimeoutMs? : Option UInt64 := none
  maxDepth? : Option UInt64 := none
  maxNodes? : Option UInt64 := none
  maxChildren? : Option UInt64 := none
  continueOnError? : Option Bool := none
  encodingFallback? : Option Bool := none
  excerptMaxBytes? : Option UInt64 := none
deriving Repr, DecidableEq, Inhabited

/-- Settings of the cache that are given. -/
structure CacheOverrides where
  enabled? : Option Bool := none
  directory? : Option String := none
  ttlSeconds? : Option UInt64 := none
  schemaVersion? : Option String := none
  shardPrefixLen? : Option UInt64 := none
  includePathInKey? : Option Bool := none
deriving Repr, DecidableEq, Inhabited

/-- Settings that are given, by section. -/
structure Overrides where
  analysis? : Option AnalysisOverrides := none
  cache? : Option CacheOverrides := none
  enrichment? : Option EnrichmentSettings := none
  report? : Option ReportSettings := none
deriving Repr, DecidableEq, Inhabited

/-- Bounds with those that are given in place of their own. -/
def AnalysisOverrides.apply (overrides : AnalysisOverrides) (settings : AnalysisSettings) :
    AnalysisSettings where
  maxFileSizeBytes := overrides.maxFileSizeBytes?.getD settings.maxFileSizeBytes
  parseTimeoutMs := overrides.parseTimeoutMs?.getD settings.parseTimeoutMs
  maxDepth := overrides.maxDepth?.getD settings.maxDepth
  maxNodes := overrides.maxNodes?.getD settings.maxNodes
  maxChildren := overrides.maxChildren?.getD settings.maxChildren
  continueOnError := overrides.continueOnError?.getD settings.continueOnError
  encodingFallback := overrides.encodingFallback?.getD settings.encodingFallback
  excerptMaxBytes := overrides.excerptMaxBytes?.getD settings.excerptMaxBytes

/-- Settings of the cache with those that are given in place of their own. -/
def CacheOverrides.apply (overrides : CacheOverrides) (settings : CacheSettings) :
    CacheSettings where
  enabled := overrides.enabled?.getD settings.enabled
  directory := overrides.directory?.getD settings.directory
  ttlSeconds := overrides.ttlSeconds?.getD settings.ttlSeconds
  schemaVersion := overrides.schemaVersion?.getD settings.schemaVersion
  shardPrefixLen := overrides.shardPrefixLen?.getD settings.shardPrefixLen
  includePathInKey := overrides.includePathInKey?.getD settings.includePathInKey

/-- Settings with those that are given in place of their own. -/
def Overrides.apply (overrides : Overrides) (settings : Settings) : Settings where
  preset := settings.preset
  analysis := (overrides.analysis?.getD {}).apply settings.analysis
  cache := (overrides.cache?.getD {}).apply settings.cache
  enrichment := overrides.enrichment?.getD settings.enrichment
  report := overrides.report?.getD settings.report

end SourceFacts.Config
