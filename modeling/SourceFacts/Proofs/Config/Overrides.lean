import SourceFacts.Proofs.Config.Records

namespace SourceFacts.Config

/-!
# What overrides change

Every setting has the value that an override gives it, and the value of the preset if none does.
Settings are listed with the part of a document that they belong to, their names there and what
they may be.
-/

open Yaml

/-! ## Settings by name -/

/-- What a setting may be. -/
inductive Range where
  | word (least most : UInt64)
  | flag
  | text

/-- Whether a range has a content. -/
def Range.Allows : Range → Content → Prop
  | .word least most, .word value => least ≤ value ∧ value ≤ most
  | .flag, .bool _ => True
  | .text, .text _ => True
  | _, _ => False

/-- A value is in a range. -/
def Range.Holds (range : Range) (value : Value) : Prop :=
  ∃ content, range.Allows content ∧ content.value = value

/-- A single setting: where it stands in a document, what it may be, and what it is, or is
overridden with. -/
structure Setting where
  part : String
  name : String
  range : Range
  value? : Settings → Option Content
  given? : Overrides → Option Content

/-- What is given of the analysis. -/
def Overrides.inAnalysis (overrides : Overrides) : AnalysisOverrides :=
  overrides.analysis?.getD {}

/-- What is given of the cache. -/
def Overrides.inCache (overrides : Overrides) : CacheOverrides := overrides.cache?.getD {}

/-- What is given of the report. -/
def Overrides.inReport (overrides : Overrides) : ReportSettings := overrides.report?.getD {}

namespace Setting

/-- A number. -/
def word (part name : String) (least most : UInt64) (value : Settings → UInt64)
    (given? : Overrides → Option UInt64) : Setting where
  part
  name
  range := .word least most
  value? settings := some (.word (value settings))
  given? overrides := (given? overrides).map .word

/-- A choice. -/
def flag (part name : String) (value : Settings → Bool) (given? : Overrides → Option Bool) :
    Setting where
  part
  name
  range := .flag
  value? settings := some (.bool (value settings))
  given? overrides := (given? overrides).map .bool

/-- A text. -/
def text (part name : String) (value : Settings → String) (given? : Overrides → Option String) :
    Setting where
  part
  name
  range := .text
  value? settings := some (.text (value settings))
  given? overrides := (given? overrides).map .text

/-- The settings of the analysis. -/
def analysis : List Setting := [
  word "analysis" "max_file_size_bytes" 1 largest (·.analysis.maxFileSizeBytes)
    (·.inAnalysis.maxFileSizeBytes?),
  word "analysis" "parse_timeout_ms" 1 largest (·.analysis.parseTimeoutMs)
    (·.inAnalysis.parseTimeoutMs?),
  word "analysis" "max_depth" 1 largest (·.analysis.maxDepth) (·.inAnalysis.maxDepth?),
  word "analysis" "max_nodes" 1 largest (·.analysis.maxNodes) (·.inAnalysis.maxNodes?),
  word "analysis" "max_children" 1 largest (·.analysis.maxChildren) (·.inAnalysis.maxChildren?),
  flag "analysis" "continue_on_error" (·.analysis.continueOnError)
    (·.inAnalysis.continueOnError?),
  flag "analysis" "encoding_fallback" (·.analysis.encodingFallback)
    (·.inAnalysis.encodingFallback?),
  word "analysis" "excerpt_max_bytes" 0 largest (·.analysis.excerptMaxBytes)
    (·.inAnalysis.excerptMaxBytes?)]

/-- The settings of the cache. -/
def cache : List Setting := [
  flag "cache" "enabled" (·.cache.enabled) (·.inCache.enabled?),
  text "cache" "directory" (·.cache.directory) (·.inCache.directory?),
  word "cache" "ttl_seconds" 0 largest (·.cache.ttlSeconds) (·.inCache.ttlSeconds?),
  text "cache" "schema_version" (·.cache.schemaVersion) (·.inCache.schemaVersion?),
  word "cache" "shard_prefix_len" 1 8 (·.cache.shardPrefixLen) (·.inCache.shardPrefixLen?),
  flag "cache" "include_path_in_key" (·.cache.includePathInKey) (·.inCache.includePathInKey?)]

/-- Which enrichment is used. -/
def enrichment : Setting :=
  text "enrichment" "config_id" (·.enrichment.configId) fun overrides =>
    overrides.enrichment?.map (·.configId)

/-- Where the report on failures goes, if there is one. -/
def report : Setting where
  part := "report"
  name := "path"
  range := .text
  value? settings := settings.report.path?.map .text
  given? overrides := overrides.inReport.path?.map .text

/-- All settings besides the preset. -/
def all : List Setting := analysis ++ cache ++ [enrichment, report]

/-- The names of the settings in a part of a document. -/
def namesIn (part : String) : List String :=
  (all.filter fun setting => setting.part = part).map (·.name)

/-- What holds of the settings of every part holds of all. -/
theorem forall_mem_all
    {holds : Setting → Prop}
    (ofAnalysis : ∀ setting ∈ analysis, holds setting)
    (ofCache : ∀ setting ∈ cache, holds setting)
    (ofEnrichment : holds enrichment)
    (ofReport : holds report) :
    ∀ setting ∈ all, holds setting := by
  intro setting member
  rw [all, List.mem_append, List.mem_append, List.mem_cons, List.mem_singleton] at member
  rcases member with (isAnalysis | isCache) | rfl | rfl
  · exact ofAnalysis setting isAnalysis
  · exact ofCache setting isCache
  · exact ofEnrichment
  · exact ofReport

/-- Settings are told apart by their preset and by what all single ones are. -/
theorem eq_of_value?_eq
    {settings others : Settings}
    (samePreset : settings.preset = others.preset)
    (same : ∀ setting ∈ all, setting.value? settings = setting.value? others) :
    settings = others := by
  obtain ⟨preset, ⟨⟩, ⟨⟩, ⟨⟩, ⟨⟩⟩ := settings
  obtain ⟨preset', ⟨⟩, ⟨⟩, ⟨⟩, ⟨⟩⟩ := others
  simp only [all, analysis, cache, List.forall_mem_append, List.forall_mem_cons, word, flag, text,
    enrichment, report, Option.some.injEq, Content.word.injEq, Content.bool.injEq,
    Content.text.injEq, Option.map_inj_right (fun _ _ => Content.text.inj)] at same samePreset
  simp_all

end Setting

/-! ## What is changed -/

namespace Setting

/-- What is given replaces a value. -/
theorem some_getD
    (contentOf : α → Content)
    (given? : Option α)
    (value : α) :
    some (contentOf (given?.getD value)) =
      (given?.map contentOf).or (some (contentOf value)) := by
  cases given? <;> rfl

/-- Overrides give every setting the value that they name, and leave the others as the preset
chooses them. -/
theorem value?_apply
    (overrides : Overrides)
    (preset : Preset) :
    ∀ setting ∈ all, setting.value? (overrides.apply (.ofPreset preset)) =
      (setting.given? overrides).or (setting.value? (.ofPreset preset)) := by
  refine forall_mem_all ?_ ?_ ?_ ?_
  · simp only [analysis, List.forall_mem_cons]
    refine ⟨some_getD .word _ _, some_getD .word _ _, some_getD .word _ _, some_getD .word _ _,
      some_getD .word _ _, some_getD .bool _ _, some_getD .bool _ _, some_getD .word _ _, by simp⟩
  · simp only [cache, List.forall_mem_cons]
    refine ⟨some_getD .bool _ _, some_getD .text _ _, some_getD .word _ _, some_getD .text _ _,
      some_getD .word _ _, some_getD .bool _ _, by simp⟩
  · cases isGiven : overrides.enrichment? with
    | none =>
        simp [enrichment, text, Overrides.apply, isGiven]
    | some given =>
        simp [enrichment, text, Overrides.apply, isGiven]
  · cases isGiven : overrides.report? with
    | none =>
        simp [report, Overrides.apply, Overrides.inReport, isGiven]
    | some given =>
        simp [report, Overrides.apply, Overrides.inReport, isGiven, Settings.ofPreset]

end Setting

/-! ## What is in range -/

/-- No word is more than the largest. -/
theorem le_largest (value : UInt64) : value ≤ largest := by
  rw [UInt64.le_iff_toNat_le]
  exact Nat.le_of_lt_succ value.toNat_lt

/-- Everything that a preset chooses is in its range. -/
theorem Setting.allows_ofPreset (preset : Preset) :
    ∀ setting ∈ Setting.all, ∀ content, setting.value? (.ofPreset preset) = some content →
      setting.range.Allows content := by
  cases preset <;>
    simp [all, analysis, cache, word, flag, text, enrichment, report, Range.Allows,
      Settings.ofPreset, Preset.budget, le_largest]

/-- Settings are valid if each of them is in its range. -/
theorem Settings.validate_eq_ok_iff
    {settings result : Settings} :
    settings.validate = .ok result ↔ settings = result ∧
      ∀ setting ∈ Setting.all, ∀ content, setting.value? settings = some content →
        setting.range.Allows content := by
  have isValid : settings.outOfRange? = none ↔ ∀ setting ∈ Setting.all, ∀ content,
      setting.value? settings = some content → setting.range.Allows content := by
    simp [outOfRange?, ranges, Setting.all, Setting.analysis, Setting.cache, Setting.word,
      Setting.flag, Setting.text, Setting.enrichment, Setting.report, Range.Allows, le_largest]
  rw [← isValid, validate]
  cases settings.outOfRange? with
  | none =>
      simp
  | some error =>
      simp

end SourceFacts.Config
