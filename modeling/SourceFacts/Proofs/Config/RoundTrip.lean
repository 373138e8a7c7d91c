import SourceFacts.Config.Document
import SourceFacts.Proofs.Json.Records
import SourceFacts.Proofs.Yaml.Values

namespace SourceFacts.Config

/-!
# Settings are read back

Settings are written with every value that can be set, so that reading them gives the same
settings back, whatever their preset would choose, or says which of them is out of its range.
-/

open Json Yaml

/-! ## Fields -/

/-- The fields of entries. -/
def fieldsOf (entries : List (String × Content)) : List (String × Value) :=
  entries.map fun entry => (entry.1, entry.2.value)

/-- A group is read as its fields if it has no others than those of the given names. -/
theorem recordFields?_group
    {names : List String}
    {entries : List (String × Content)}
    (known : ∀ entry ∈ entries, entry.1 ∈ names) :
    recordFields? names (Content.group entries).value = some (fieldsOf entries) := by
  rw [Content.value, recordFields?]
  induction entries with
  | nil =>
      rfl
  | cons entry rest inductionHypothesis =>
      rw [List.forall_mem_cons] at known
      rw [Content.entryValues, fieldsOfEntries?, if_pos (List.contains_iff_mem.mpr known.1),
        inductionHypothesis known.2]
      rfl

/-- A word is read back. -/
theorem word?_value (value : UInt64) : word? (Content.word value).value = some value := by
  have inRange : (decide (0 ≤ (value.toNat : Int)) &&
      decide ((value.toNat : Int) < UInt64.size)) = true := by
    rw [Bool.and_eq_true, decide_eq_true_eq, decide_eq_true_eq]
    exact ⟨Int.natCast_nonneg _, Int.ofNat_lt.mpr value.toNat_lt⟩
  rw [Content.value, word?, inRange, if_pos rfl, Int.toNat_natCast, UInt64.ofNat_toNat]

/-- A value that is written is read. -/
theorem optional?_of_value
    {read : Value → Option α}
    {name : String}
    {fields : List (String × Value)}
    {value : Value}
    {result : α}
    (found : value? name fields = some value)
    (notNull : value ≠ .null)
    (isRead : read value = some result) :
    optional? read name fields = some (some result) := by
  rw [optional?, found]
  cases value with
  | null =>
      exact absurd rfl notNull
  | _ =>
      exact congrArg (Option.map some) isRead

section Scalars

variable {name : String} {fields : List (String × Value)}

/-- A word that is written is read. -/
theorem optional?_word
    {value : UInt64}
    (found : value? name fields = some (Content.word value).value) :
    optional? word? name fields = some (some value) :=
  optional?_of_value found nofun (word?_value value)

/-- A truth value that is written is read. -/
theorem optional?_flag
    {value : Bool}
    (found : value? name fields = some (Content.bool value).value) :
    optional? flag? name fields = some (some value) :=
  optional?_of_value found nofun rfl

/-- A text that is written is read. -/
theorem optional?_text
    {value : String}
    (found : value? name fields = some (Content.text value).value) :
    optional? text? name fields = some (some value) :=
  optional?_of_value found nofun rfl

end Scalars

/-! ## Sections -/

/-- The entries of the bounds on analysis. -/
def AnalysisSettings.entries (settings : AnalysisSettings) : List (String × Content) :=
  [("max_file_size_bytes", .word settings.maxFileSizeBytes),
    ("parse_timeout_ms", .word settings.parseTimeoutMs),
    ("max_depth", .word settings.maxDepth),
    ("max_nodes", .word settings.maxNodes),
    ("max_children", .word settings.maxChildren),
    ("continue_on_error", .bool settings.continueOnError),
    ("encoding_fallback", .bool settings.encodingFallback),
    ("excerpt_max_bytes", .word settings.excerptMaxBytes)]

/-- The entries of the settings of the cache. -/
def CacheSettings.entries (settings : CacheSettings) : List (String × Content) :=
  [("enabled", .bool settings.enabled),
    ("directory", .text settings.directory),
    ("ttl_seconds", .word settings.ttlSeconds),
    ("schema_version", .text settings.schemaVersion),
    ("shard_prefix_len", .word settings.shardPrefixLen),
    ("include_path_in_key", .bool settings.includePathInKey)]

/-- Bounds on analysis replace whatever a preset chooses. -/
theorem AnalysisOverrides.ofValue?_entries (settings : AnalysisSettings) :
    ∃ overrides, AnalysisOverrides.ofValue? (Content.group settings.entries).value =
        some overrides ∧
      ∀ others, overrides.apply others = settings := by
  have known : ∀ entry ∈ settings.entries, entry.1 ∈ AnalysisSettings.fieldNames := by
    simp [AnalysisSettings.entries, AnalysisSettings.fieldNames]
  refine ⟨⟨some settings.maxFileSizeBytes, some settings.parseTimeoutMs, some settings.maxDepth,
    some settings.maxNodes, some settings.maxChildren, some settings.continueOnError,
    some settings.encodingFallback, some settings.excerptMaxBytes⟩, ?_, fun others => rfl⟩
  refine goesOn (recordFields?_group known) <| goesOn ?_ <| goesOn ?_ <| goesOn ?_ <|
    goesOn ?_ <| goesOn ?_ <| goesOn ?_ <| goesOn ?_ <| goesOn ?_ <| rfl
  all_goals first
    | exact optional?_word rfl
    | exact optional?_flag rfl

/-- Settings of the cache replace the defaults. -/
theorem CacheOverrides.ofValue?_entries (settings : CacheSettings) :
    ∃ overrides, CacheOverrides.ofValue? (Content.group settings.entries).value =
        some overrides ∧
      ∀ others, overrides.apply others = settings := by
  have known : ∀ entry ∈ settings.entries, entry.1 ∈ CacheSettings.fieldNames := by
    simp [CacheSettings.entries, CacheSettings.fieldNames]
  refine ⟨⟨some settings.enabled, some settings.directory, some settings.ttlSeconds,
    some settings.schemaVersion, some settings.shardPrefixLen, some settings.includePathInKey⟩,
    ?_, fun others => rfl⟩
  refine goesOn (recordFields?_group known) <| goesOn ?_ <| goesOn ?_ <| goesOn ?_ <|
    goesOn ?_ <| goesOn ?_ <| goesOn ?_ <| rfl
  all_goals first
    | exact optional?_word rfl
    | exact optional?_flag rfl
    | exact optional?_text rfl

/-- The chosen enrichment is read back. -/
theorem EnrichmentSettings.ofValue?_entries (settings : EnrichmentSettings) :
    EnrichmentSettings.ofValue?
      (Content.group [("config_id", .text settings.configId)]).value = some settings :=
  goesOn (recordFields?_group (by simp)) (goesOn rfl rfl)

/-- The place of the report is read back. -/
theorem ReportSettings.ofValue?_entries (path : String) :
    ReportSettings.ofValue? (Content.group [("path", .text path)]).value =
      some { path? := some path } :=
  goesOn (recordFields?_group (by simp)) (goesOn (optional?_text rfl) rfl)

/-- The entry of the place of the report, if it has one. -/
def ReportSettings.entries (settings : ReportSettings) : List (String × Content) :=
  match settings.path? with
  | none => []
  | some path => [("report", .group [("path", .text path)])]

/-- The entries of all sections. -/
def Settings.sections (settings : Settings) : List (String × Content) :=
  [("analysis", .group settings.analysis.entries),
    ("cache", .group settings.cache.entries),
    ("enrichment", .group [("config_id", .text settings.enrichment.configId)])] ++
    settings.report.entries

/-- The sections replace what a preset chooses. -/
theorem Overrides.ofValue?_sections (settings : Settings) :
    ∃ overrides, Overrides.ofValue? (Content.group settings.sections).value = some overrides ∧
      overrides.apply (Settings.ofPreset settings.preset) = settings := by
  obtain ⟨analysis, analysisRead, analysisApplies⟩ :=
    AnalysisOverrides.ofValue?_entries settings.analysis
  obtain ⟨cache, cacheRead, cacheApplies⟩ := CacheOverrides.ofValue?_entries settings.cache
  have known : ∀ entry ∈ settings.sections,
      entry.1 ∈ ["analysis", "cache", "enrichment", "report"] := by
    cases isPath : settings.report.path? <;>
      simp [Settings.sections, ReportSettings.entries, isPath]
  obtain ⟨report?, reportRead, reportApplies⟩ : ∃ report?,
      optional? ReportSettings.ofValue? "report" (fieldsOf settings.sections) = some report? ∧
        report?.getD {} = settings.report := by
    obtain ⟨preset, analysis, cache, enrichment, path?⟩ := settings
    cases path? with
    | mk path? =>
        cases path? with
        | none =>
            exact ⟨none, rfl, rfl⟩
        | some path =>
            exact ⟨_, optional?_of_value rfl nofun (ReportSettings.ofValue?_entries path), rfl⟩
  refine ⟨⟨some analysis, some cache, some settings.enrichment, report?⟩, ?_, ?_⟩
  · exact goesOn (recordFields?_group known) <|
      goesOn (optional?_of_value rfl nofun analysisRead) <|
      goesOn (optional?_of_value rfl nofun cacheRead) <|
      goesOn (optional?_of_value rfl nofun
        (EnrichmentSettings.ofValue?_entries settings.enrichment)) <| goesOn reportRead <| rfl
  · have isReport : report?.getD (Settings.ofPreset settings.preset).report = settings.report :=
      reportApplies
    rw [Overrides.apply]
    simp only [Option.getD_some, analysisApplies, cacheApplies, isReport]
    rfl

/-! ## Documents -/

namespace Settings

/-- The entries of a document, by section. -/
theorem entries_eq (settings : Settings) :
    settings.entries =
      [("version", .word (UInt64.ofNat currentVersion)), ("preset", .text settings.preset.name),
        ("overrides", .group settings.sections)] := rfl

/-- The name of a preset is found. -/
theorem find_name (preset : Preset) : Preset.find preset.name = .ok preset := by
  have found : Preset.ofText? preset.name = some preset := by
    cases preset <;> decide
  rw [Preset.find, found]

/-- The values of a document are read as the settings, if each of them is in its range. -/
theorem ofValue_entries (settings : Settings) :
    ofValue (.mapping (Content.entryValues settings.entries)) = settings.validate := by
  obtain ⟨overrides, overridesRead, applies⟩ := Overrides.ofValue?_sections settings
  have isVersion : version? (.mapping (Content.entryValues settings.entries)) =
      some (UInt64.ofNat currentVersion) := goesOn rfl (word?_value _)
  have isCurrent : (UInt64.ofNat currentVersion).toNat = currentVersion := by decide
  have isRead : presetAndOverrides? (.mapping (Content.entryValues settings.entries)) =
      some (settings.preset.name, overrides) := by
    have known : ∀ entry ∈ settings.entries, entry.1 ∈ ["version", "preset", "overrides"] := by
      simp [entries_eq]
    exact goesOn (recordFields?_group known) <| goesOn (goesOn rfl (word?_value _)) <|
      goesOn rfl <| goesOn (optional?_of_value rfl nofun overridesRead) rfl
  rw [ofValue, isVersion]
  simp only [isCurrent, ne_eq, not_true_eq_false, ↓reduceIte, isRead, find_name]
  exact congrArg validate applies

/-- The names of entries can be written. -/
theorem fits_of_names
    {depth : Nat}
    {entries : List (String × Content)}
    (names : List String)
    (areNames : entries.map (·.1) = names)
    (nonempty : names ≠ [])
    (canBeWritten : names.all isEntryName = true)
    (distinct : names.Nodup)
    (contents : ∀ entry ∈ entries, entry.2.Fits depth) :
    (Content.group entries).Fits (depth + 1) := by
  obtain rfl := areNames
  refine .group (fun isNil => nonempty (by rw [isNil]; rfl)) (fun entry member => ?_) distinct
    contents
  exact List.all_eq_true.mp canBeWritten entry.1 (List.mem_map_of_mem member)

/-- The entries of settings can be written: there are three levels of them. -/
theorem fits_entries (settings : Settings) : (Content.group settings.entries).Fits 3 := by
  have analysis : (Content.group settings.analysis.entries).Fits 1 := by
    refine fits_of_names AnalysisSettings.fieldNames rfl (by decide) (by decide) (by decide) ?_
    simp [AnalysisSettings.entries, Content.Fits.word, Content.Fits.bool]
  have cache : (Content.group settings.cache.entries).Fits 1 := by
    refine fits_of_names CacheSettings.fieldNames rfl (by decide) (by decide) (by decide) ?_
    simp [CacheSettings.entries, Content.Fits.word, Content.Fits.bool, Content.Fits.text]
  have single : ∀ name text, isEntryName name = true →
      (Content.group [(name, .text text)]).Fits 1 := by
    intro name text isName
    refine fits_of_names [name] rfl (List.cons_ne_nil name []) (by simp [isName]) (by simp) ?_
    simp [Content.Fits.text]
  have enrichment := single "config_id" settings.enrichment.configId (by decide)
  have sections : (Content.group settings.sections).Fits 2 := by
    rw [sections, ReportSettings.entries]
    cases settings.report.path? with
    | none =>
        refine fits_of_names ["analysis", "cache", "enrichment"] rfl (by decide) (by decide)
          (by decide) ?_
        simp [analysis, cache, enrichment]
    | some path =>
        refine fits_of_names ["analysis", "cache", "enrichment", "report"] rfl (by decide)
          (by decide) (by decide) ?_
        simp [analysis, cache, enrichment, single "path" path (by decide)]
  refine fits_of_names ["version", "preset", "overrides"] rfl (by decide) (by decide) (by decide)
    ?_
  simp [entries_eq, Content.Fits.word, Content.Fits.text, sections]

/-- Settings that are written as YAML are read back if each of them is in its range. Otherwise
reading fails with the setting that is not. -/
theorem ofYaml_toYaml (settings : Settings) : ofYaml settings.toYaml = settings.validate := by
  rw [ofYaml, toYaml, parse?_document settings.fits_entries (by decide)]
  exact settings.ofValue_entries

end Settings

end SourceFacts.Config
