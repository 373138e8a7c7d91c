import SourceFacts.Proofs.Config.Overrides
import SourceFacts.Proofs.Config.RoundTrip

namespace SourceFacts.Config

/-!
# What documents say of settings

A document is read section by section: everything that it says is taken over, and what is unknown or
out of range is refused.
-/

/-!
## What is read from the sections of a document

Every section takes over what it holds for each of its settings, and has no other names than
theirs. It can be read if what it holds is in range.
-/

open Yaml

/-- A mapping has a key that is none of the names. -/
def HasUnknownKey (names : List String) (record : Value) : Prop :=
  ∃ entries, record = .mapping entries ∧
    ∃ entry ∈ entries, ∀ name ∈ names, entry.1 ≠ .string name

/-- Null has no unknown keys. -/
theorem not_hasUnknownKey_null {names : List String} : ¬ HasUnknownKey names .null := by
  rintro ⟨entries, ⟨⟩, _⟩

/-- Where fields can be read, all keys are known. -/
theorem not_hasUnknownKey
    {names : List String}
    {record : Value}
    {fields : List (String × Value)}
    (areFields : recordFields? names record = some fields) :
    ¬ HasUnknownKey names record := by
  rintro ⟨entries, rfl, entry, member, isUnknown⟩
  obtain ⟨rfl, areKnown⟩ := fieldsOfEntries?_eq_some areFields
  obtain ⟨field, isField, rfl⟩ := List.mem_map.mp member
  exact isUnknown field.1 (areKnown field isField) rfl

/-- Where all keys of a mapping are known, its fields can be read. -/
theorem exists_isRecord
    {names : List String}
    (distinct : names.Nodup)
    {entries : List (Value × Value)}
    (isRead : IsRead (.mapping entries))
    (areKnown : ¬ HasUnknownKey names (.mapping entries)) :
    ∃ fields, recordFields? names (.mapping entries) = some fields ∧
      IsRecord names (.mapping entries) fields := by
  have known : ∀ entry ∈ entries, ∃ name ∈ names, entry.1 = .string name := by
    intro entry member
    by_contra isUnknown
    refine areKnown ⟨entries, rfl, entry, member, ?_⟩
    intro name isName same
    exact isUnknown ⟨name, isName, same⟩
  obtain ⟨fields, areFields⟩ := exists_fieldsOfEntries? known
  exact ⟨fields, areFields, isRecord_of_recordFields? distinct isRead areFields⟩

/-! ### Reading what is in range -/

/-- A field holds nothing, or something in a range. -/
def HoldsIn (names : List String) (record : Value) (name : String) (range : Range) : Prop :=
  ∀ value, HasField names record name value → value = .null ∨ range.Holds value

/-- What is in a range can be read from a field if every content of the range can be read. -/
theorem exists_inRange
    {range : Range}
    {read : Value → Option α}
    (reads : ∀ content, range.Allows content → ∃ result, read content.value = some result)
    {names : List String}
    {record : Value}
    {fields : List (String × Value)}
    {name : String}
    (isRecord : IsRecord names record fields)
    (holds : HoldsIn names record name range) :
    ∃ result?, optional? read name fields = some result? := by
  refine exists_optional? isRecord fun value isField => (holds value isField).imp_right ?_
  rintro ⟨content, allowed, rfl⟩
  exact reads content allowed

/-- A number can be read. -/
theorem word?_of_allows
    {least most : UInt64}
    (content : Content)
    (allowed : (Range.word least most).Allows content) :
    ∃ word, word? content.value = some word := by
  cases content with
  | word word =>
      exact ⟨word, word?_value word⟩
  | _ =>
      exact absurd allowed id

/-- A choice can be read. -/
theorem flag?_of_allows
    (content : Content)
    (allowed : Range.flag.Allows content) :
    ∃ flag, flag? content.value = some flag := by
  cases content with
  | bool flag =>
      exact ⟨flag, rfl⟩
  | _ =>
      exact absurd allowed id

/-- A text can be read. -/
theorem text?_of_allows
    (content : Content)
    (allowed : Range.text.Allows content) :
    ∃ text, text? content.value = some text := by
  cases content with
  | text text =>
      exact ⟨text, rfl⟩
  | _ =>
      exact absurd allowed id

/-! ### The analysis -/

namespace AnalysisOverrides

/-- Every setting of the analysis is taken over. -/
theorem takes
    {record : Value}
    {overrides : AnalysisOverrides}
    (isRead : IsRead record)
    (areGiven : ofValue? record = some overrides) :
    ¬ HasUnknownKey AnalysisSettings.fieldNames record ∧
      ∀ setting ∈ Setting.analysis,
        Takes (HasField AnalysisSettings.fieldNames record setting.name)
          (setting.given? { analysis? := some overrides }) := by
  simp only [ofValue?, Option.bind_eq_bind, Option.bind_eq_some_iff] at areGiven
  obtain ⟨fields, areFields, _, fileSize, _, timeout, _, depth, _, nodes, _, children,
    _, continues, _, fallback, _, excerpt, isResult⟩ := areGiven
  cases isResult
  have isRecord := isRecord_of_recordFields? (by decide) isRead areFields
  refine ⟨not_hasUnknownKey areFields, ?_⟩
  simp only [Setting.analysis, List.forall_mem_cons]
  exact ⟨takes_optional? value_of_word? isRecord fileSize,
    takes_optional? value_of_word? isRecord timeout,
    takes_optional? value_of_word? isRecord depth,
    takes_optional? value_of_word? isRecord nodes,
    takes_optional? value_of_word? isRecord children,
    takes_optional? value_of_flag? isRecord continues,
    takes_optional? value_of_flag? isRecord fallback,
    takes_optional? value_of_word? isRecord excerpt, by simp⟩

/-- The settings of the analysis can be read if they are in range. -/
theorem exists_ofValue?
    {record : Value}
    {fields : List (String × Value)}
    (areFields : recordFields? AnalysisSettings.fieldNames record = some fields)
    (isRecord : IsRecord AnalysisSettings.fieldNames record fields)
    (inRange : ∀ setting ∈ Setting.analysis,
      HoldsIn AnalysisSettings.fieldNames record setting.name setting.range) :
    ∃ overrides, ofValue? record = some overrides := by
  simp only [Setting.analysis, List.forall_mem_cons] at inRange
  obtain ⟨fileSize, timeout, depth, nodes, children, continues, fallback, excerpt, _⟩ := inRange
  obtain ⟨_, fileSize⟩ := exists_inRange word?_of_allows isRecord fileSize
  obtain ⟨_, timeout⟩ := exists_inRange word?_of_allows isRecord timeout
  obtain ⟨_, depth⟩ := exists_inRange word?_of_allows isRecord depth
  obtain ⟨_, nodes⟩ := exists_inRange word?_of_allows isRecord nodes
  obtain ⟨_, children⟩ := exists_inRange word?_of_allows isRecord children
  obtain ⟨_, continues⟩ := exists_inRange flag?_of_allows isRecord continues
  obtain ⟨_, fallback⟩ := exists_inRange flag?_of_allows isRecord fallback
  obtain ⟨_, excerpt⟩ := exists_inRange word?_of_allows isRecord excerpt
  simp only [ofValue?, Option.bind_eq_bind, Option.bind_eq_some_iff]
  exact ⟨_, fields, areFields, _, fileSize, _, timeout, _, depth, _, nodes, _, children,
    _, continues, _, fallback, _, excerpt, rfl⟩

end AnalysisOverrides

/-! ### The cache -/

namespace CacheOverrides

/-- Every setting of the cache is taken over. -/
theorem takes
    {record : Value}
    {overrides : CacheOverrides}
    (isRead : IsRead record)
    (areGiven : ofValue? record = some overrides) :
    ¬ HasUnknownKey CacheSettings.fieldNames record ∧
      ∀ setting ∈ Setting.cache,
        Takes (HasField CacheSettings.fieldNames record setting.name)
          (setting.given? { cache? := some overrides }) := by
  simp only [ofValue?, Option.bind_eq_bind, Option.bind_eq_some_iff] at areGiven
  obtain ⟨fields, areFields, _, enabled, _, directory, _, ttl, _, version, _, shards,
    _, includesPath, isResult⟩ := areGiven
  cases isResult
  have isRecord := isRecord_of_recordFields? (by decide) isRead areFields
  refine ⟨not_hasUnknownKey areFields, ?_⟩
  simp only [Setting.cache, List.forall_mem_cons]
  exact ⟨takes_optional? value_of_flag? isRecord enabled,
    takes_optional? value_of_text? isRecord directory,
    takes_optional? value_of_word? isRecord ttl,
    takes_optional? value_of_text? isRecord version,
    takes_optional? value_of_word? isRecord shards,
    takes_optional? value_of_flag? isRecord includesPath, by simp⟩

/-- The settings of the cache can be read if they are in range. -/
theorem exists_ofValue?
    {record : Value}
    {fields : List (String × Value)}
    (areFields : recordFields? CacheSettings.fieldNames record = some fields)
    (isRecord : IsRecord CacheSettings.fieldNames record fields)
    (inRange : ∀ setting ∈ Setting.cache,
      HoldsIn CacheSettings.fieldNames record setting.name setting.range) :
    ∃ overrides, ofValue? record = some overrides := by
  simp only [Setting.cache, List.forall_mem_cons] at inRange
  obtain ⟨enabled, directory, ttl, version, shards, includesPath, _⟩ := inRange
  obtain ⟨_, enabled⟩ := exists_inRange flag?_of_allows isRecord enabled
  obtain ⟨_, directory⟩ := exists_inRange text?_of_allows isRecord directory
  obtain ⟨_, ttl⟩ := exists_inRange word?_of_allows isRecord ttl
  obtain ⟨_, version⟩ := exists_inRange text?_of_allows isRecord version
  obtain ⟨_, shards⟩ := exists_inRange word?_of_allows isRecord shards
  obtain ⟨_, includesPath⟩ := exists_inRange flag?_of_allows isRecord includesPath
  simp only [ofValue?, Option.bind_eq_bind, Option.bind_eq_some_iff]
  exact ⟨_, fields, areFields, _, enabled, _, directory, _, ttl, _, version, _, shards,
    _, includesPath, rfl⟩

end CacheOverrides

/-! ### The enrichment and the report -/

/-- The enrichment is taken over. -/
theorem EnrichmentSettings.takes
    {record : Value}
    {settings : EnrichmentSettings}
    (isRead : IsRead record)
    (areGiven : ofValue? record = some settings) :
    ¬ HasUnknownKey ["config_id"] record ∧
      ∀ setting ∈ [Setting.enrichment],
        Takes (HasField ["config_id"] record setting.name)
          (setting.given? { enrichment? := some settings }) := by
  simp only [ofValue?, Option.bind_eq_bind, Option.bind_eq_some_iff] at areGiven
  obtain ⟨fields, areFields, _, configId, isResult⟩ := areGiven
  cases isResult
  have isRecord := isRecord_of_recordFields? (by decide) isRead areFields
  exact ⟨not_hasUnknownKey areFields,
    List.forall_mem_singleton.mpr (takes_required? value_of_text? isRecord configId)⟩

/-- The enrichment can be read if there is one. -/
theorem EnrichmentSettings.exists_ofValue?
    {record : Value}
    {fields : List (String × Value)}
    (areFields : recordFields? ["config_id"] record = some fields)
    (isRecord : IsRecord ["config_id"] record fields)
    {configId : String}
    (isGiven : HasField ["config_id"] record "config_id" (.string configId)) :
    ∃ settings, ofValue? record = some settings := by
  have isThere := (isRecord.value?_iff _ _).mpr isGiven
  simp only [ofValue?, Option.bind_eq_bind, Option.bind_eq_some_iff]
  exact ⟨_, fields, areFields, configId, Json.goesOn isThere rfl, rfl⟩

/-- The place of the report is taken over. -/
theorem ReportSettings.takes
    {record : Value}
    {settings : ReportSettings}
    (isRead : IsRead record)
    (areGiven : ofValue? record = some settings) :
    ¬ HasUnknownKey ["path"] record ∧
      ∀ setting ∈ [Setting.report],
        Takes (HasField ["path"] record setting.name)
          (setting.given? { report? := some settings }) := by
  simp only [ofValue?, Option.bind_eq_bind, Option.bind_eq_some_iff] at areGiven
  obtain ⟨fields, areFields, _, path, isResult⟩ := areGiven
  cases isResult
  have isRecord := isRecord_of_recordFields? (by decide) isRead areFields
  exact ⟨not_hasUnknownKey areFields,
    List.forall_mem_singleton.mpr (takes_optional? value_of_text? isRecord path)⟩

/-- The place of the report can be read if it is a text. -/
theorem ReportSettings.exists_ofValue?
    {record : Value}
    {fields : List (String × Value)}
    (areFields : recordFields? ["path"] record = some fields)
    (isRecord : IsRecord ["path"] record fields)
    (inRange : HoldsIn ["path"] record "path" .text) :
    ∃ settings, ofValue? record = some settings := by
  obtain ⟨_, path⟩ := exists_inRange text?_of_allows isRecord inRange
  simp only [ofValue?, Option.bind_eq_bind, Option.bind_eq_some_iff]
  exact ⟨_, fields, areFields, _, path, rfl⟩

/-! ### All sections -/

/-- The names of the sections. -/
def partNames : List String := ["analysis", "cache", "enrichment", "report"]

/-- A record of sections gives a value in a section of a name. -/
def GivesIn (record : Value) (part name : String) (value : Value) : Prop :=
  ∃ inner, HasField partNames record part inner ∧
    HasField (Setting.namesIn part) inner name value

/-- What a section of a record says is taken over, where it is there. -/
theorem takes_part
    {record : Value}
    {fields : List (String × Value)}
    {part : String}
    {settings : List Setting}
    {read : Value → Option α}
    (overridesOf : Option α → Overrides)
    (isRecord : IsRecord partNames record fields)
    (takes : ∀ inner result, IsRead inner → read inner = some result →
      ¬ HasUnknownKey (Setting.namesIn part) inner ∧ ∀ setting ∈ settings,
        Takes (HasField (Setting.namesIn part) inner setting.name)
          (setting.given? (overridesOf (some result))))
    (fromNothing : ∀ setting ∈ settings, setting.given? (overridesOf none) = none)
    {result? : Option α}
    (isRead : optional? read part fields = some result?) :
    (∀ inner, HasField partNames record part inner →
        ¬ HasUnknownKey (Setting.namesIn part) inner) ∧
      ∀ setting ∈ settings,
        Takes (GivesIn record part setting.name) (setting.given? (overridesOf result?)) := by
  refine ⟨?_, ?_⟩
  · intro inner isInner
    rcases of_optional? isRecord isRead isInner with rfl | ⟨result, isResult, _⟩
    · exact not_hasUnknownKey_null
    · exact (takes inner result (isRecord.areRead _ _ isInner) isResult).1
  · intro setting member
    refine takes_section (fun result? => setting.given? (overridesOf result?))
      isRecord (fun value => not_hasField_null) (fromNothing setting member) ?_ isRead
    intro inner result innerRead isResult
    exact (takes inner result innerRead isResult).2 setting member

namespace Setting

/-- The settings of the analysis are given in its section. -/
theorem of_analysis :
    ∀ setting ∈ analysis, setting.part = "analysis" ∧
      (∀ overrides, setting.given? { analysis? := overrides.analysis? } =
        setting.given? overrides) ∧ setting.given? {} = none := by
  simp [analysis, word, flag, Overrides.inAnalysis]

/-- Where nothing is given, no setting is. -/
theorem given?_nothing : ∀ setting ∈ all, setting.given? {} = none := by
  simp [all, analysis, cache, word, flag, text, enrichment, report, Overrides.inAnalysis,
    Overrides.inCache, Overrides.inReport]

/-- The settings of the cache are given in its section. -/
theorem of_cache :
    ∀ setting ∈ cache, setting.part = "cache" ∧
      (∀ overrides, setting.given? { cache? := overrides.cache? } = setting.given? overrides) ∧
      setting.given? {} = none := by
  simp [cache, word, flag, text, Overrides.inCache]

end Setting

namespace Overrides

/-- Every setting is taken over, and no name is left over. -/
structure TakesAll (record : Value) (overrides : Overrides) : Prop where
  known : ¬ HasUnknownKey partNames record
  partsKnown : ∀ part ∈ partNames, ∀ inner, HasField partNames record part inner →
    ¬ HasUnknownKey (Setting.namesIn part) inner
  takes : ∀ setting ∈ Setting.all,
    Takes (GivesIn record setting.part setting.name) (setting.given? overrides)

/-- Overrides that are read from a record are all that it gives. -/
theorem takesAll
    {record : Value}
    {overrides : Overrides}
    (isRead : IsRead record)
    (areGiven : ofValue? record = some overrides) :
    overrides.TakesAll record := by
  simp only [ofValue?, Option.bind_eq_bind, Option.bind_eq_some_iff] at areGiven
  obtain ⟨fields, areFields, analysis?, analysisRead, cache?, cacheRead, enrichment?,
    enrichmentRead, report?, reportRead, isResult⟩ := areGiven
  cases isResult
  have isRecord := isRecord_of_recordFields? (by decide) isRead areFields
  have analysis := takes_part (fun given? => { analysis? := given? }) isRecord
    (fun _ _ => AnalysisOverrides.takes)
    (fun setting member => (Setting.of_analysis setting member).2.2) analysisRead
  have cache := takes_part (fun given? => { cache? := given? }) isRecord
    (fun _ _ => CacheOverrides.takes)
    (fun setting member => (Setting.of_cache setting member).2.2) cacheRead
  have enrichment := takes_part (fun given? => { enrichment? := given? }) isRecord
    (fun _ _ => EnrichmentSettings.takes) (List.forall_mem_singleton.mpr rfl) enrichmentRead
  have report := takes_part (fun given? => { report? := given? }) isRecord
    (fun _ _ => ReportSettings.takes) (List.forall_mem_singleton.mpr rfl) reportRead
  refine ⟨not_hasUnknownKey areFields, ?_, ?_⟩
  · simp only [partNames, List.forall_mem_cons]
    exact ⟨analysis.1, cache.1, enrichment.1, report.1, by simp⟩
  · refine Setting.forall_mem_all ?_ ?_ ?_ ?_
    · intro setting member
      obtain ⟨isPart, sameGiven, _⟩ := Setting.of_analysis setting member
      rw [isPart, ← sameGiven]
      exact analysis.2 setting member
    · intro setting member
      obtain ⟨isPart, sameGiven, _⟩ := Setting.of_cache setting member
      rw [isPart, ← sameGiven]
      exact cache.2 setting member
    · exact enrichment.2 _ (List.mem_singleton.mpr rfl)
    · exact report.2 _ (List.mem_singleton.mpr rfl)

end Overrides

end SourceFacts.Config

namespace SourceFacts.Config

/-!
## Documents that are read, and those that are refused

What is read from a document is all that it gives. A document with anything that is unknown or
out of range gives no settings at all.
-/

open Yaml

/-- The names at the top of a document. -/
def documentNames : List String := ["version", "preset", "overrides"]

/-- A document gives a value to the setting of a name in a section. -/
def HasSetting (document : Value) (part name : String) (value : Value) : Prop :=
  ∃ record, HasField documentNames document "overrides" record ∧ GivesIn record part name value

/-! ### What is read -/

/-- What is read from a document is what it says, and it says nothing else. -/
structure IsReadAs (document : Value) (name : String) (overrides : Overrides) : Prop where
  known : ¬ HasUnknownKey documentNames document
  preset : HasField documentNames document "preset" (.string name)
  recordKnown : ∀ record, HasField documentNames document "overrides" record →
    ¬ HasUnknownKey partNames record
  partsKnown : ∀ record, HasField documentNames document "overrides" record →
    ∀ part ∈ partNames, ∀ inner, HasField partNames record part inner →
      ¬ HasUnknownKey (Setting.namesIn part) inner
  takes : ∀ setting ∈ Setting.all,
    Takes (HasSetting document setting.part setting.name) (setting.given? overrides)

/-- A preset and overrides are read from what a document says. -/
theorem isReadAs_of_presetAndOverrides?
    {document : Value}
    {name : String}
    {overrides : Overrides}
    (isRead : IsRead document)
    (areGiven : presetAndOverrides? document = some (name, overrides)) :
    IsReadAs document name overrides := by
  simp only [presetAndOverrides?, Option.bind_eq_bind, Option.bind_eq_some_iff] at areGiven
  obtain ⟨fields, areFields, _, _, _, presetRead, overrides?, overridesRead, isResult⟩ := areGiven
  cases isResult
  have isRecord := isRecord_of_recordFields? (by decide) isRead areFields
  have ofRecord : ∀ record, HasField documentNames document "overrides" record →
      record = .null ∨ ∃ overrides : Overrides, overrides.TakesAll record := by
    intro record isField
    have recordRead := isRecord.areRead _ _ isField
    rcases of_optional? isRecord overridesRead isField with isNull | ⟨overrides, isResult, _⟩
    · exact .inl isNull
    · exact .inr ⟨overrides, Overrides.takesAll recordRead isResult⟩
  refine ⟨not_hasUnknownKey areFields, ?_, ?_, ?_, ?_⟩
  · obtain ⟨value, isThere, isText⟩ := Option.bind_eq_some_iff.mp presetRead
    rw [← value_of_text? value name isText] at isThere
    exact (isRecord.value?_iff _ _).mp isThere
  · intro record isField
    rcases ofRecord record isField with rfl | ⟨overrides, takesAll⟩
    · exact not_hasUnknownKey_null
    · exact takesAll.known
  · intro record isField part isPart inner isInner
    rcases ofRecord record isField with rfl | ⟨overrides, takesAll⟩
    · exact absurd isInner not_hasField_null
    · exact takesAll.partsKnown part isPart inner isInner
  · intro setting member
    refine takes_section (fun overrides? => setting.given? (overrides?.getD {}))
      isRecord ?_ (Setting.given?_nothing setting member) ?_ overridesRead
    · rintro value ⟨inner, isInner, _⟩
      exact not_hasField_null isInner
    · intro record overrides recordRead isResult
      exact (Overrides.takesAll recordRead isResult).takes setting member

/-- The version of a document is a number of its mapping. -/
theorem mem_of_version?
    {document : Value}
    {version : UInt64}
    (isVersion : version? document = some version) :
    ∃ entries, document = .mapping entries ∧
      (.string "version", .integer version.toNat) ∈ entries := by
  cases document with
  | mapping entries =>
      rw [version?, Option.bind_eq_bind, Option.bind_eq_some_iff] at isVersion
      obtain ⟨entry, found, isWord⟩ := isVersion
      obtain ⟨value, rfl, member⟩ := exists_of_find?_same found
      rw [← value_of_word? value version isWord] at member
      exact ⟨entries, rfl, member⟩
  | _ =>
      simp [version?] at isVersion

/-- Settings are given by a document of the known version, with a preset and overrides that are
applied to it. -/
theorem Settings.ofValue_eq_ok
    {document : Value}
    {settings : Settings}
    (areGiven : ofValue document = .ok settings) :
    ∃ version preset name overrides, version? document = some version ∧
      version.toNat = currentVersion ∧ presetAndOverrides? document = some (name, overrides) ∧
      Preset.ofText? name = some preset ∧
      (overrides.apply (ofPreset preset)).validate = .ok settings := by
  rw [ofValue] at areGiven
  split at areGiven
  · simp at areGiven
  rename_i version isVersion
  split at areGiven
  · simp at areGiven
  rename_i isCurrent
  split at areGiven
  · simp at areGiven
  rename_i name overrides areRead
  rw [Preset.find] at areGiven
  cases isPreset : Preset.ofText? name with
  | none =>
      rw [isPreset] at areGiven
      cases areGiven
  | some preset =>
      rw [isPreset] at areGiven
      exact ⟨version, preset, name, overrides, isVersion, Decidable.not_not.mp isCurrent, areRead,
        isPreset, areGiven⟩

/-! ### What is refused -/

/-- What is wrong with a document: its version, its preset, a key or a value. -/
inductive IsFaulty (document : Value) : Prop where
  | version
      (otherwise : ∀ entries, document = .mapping entries →
        (.string "version", .integer currentVersion) ∉ entries)
  | preset
      (isUnknown : ∀ name, HasField documentNames document "preset" (.string name) →
        Preset.ofText? name = none)
  | key (isUnknown : HasUnknownKey documentNames document)
  | part
      {record : Value}
      (isField : HasField documentNames document "overrides" record)
      (isUnknown : HasUnknownKey partNames record)
  | setting
      {record inner : Value}
      {part : String}
      (isField : HasField documentNames document "overrides" record)
      (isPart : part ∈ partNames)
      (isInner : HasField partNames record part inner)
      (isUnknown : HasUnknownKey (Setting.namesIn part) inner)
  | outOfRange
      {setting : Setting}
      {value : Value}
      (isSetting : setting ∈ Setting.all)
      (isGiven : HasSetting document setting.part setting.name value)
      (notNull : value ≠ .null)
      (notInRange : ¬ setting.range.Holds value)

/-- A document with a fault gives no settings. -/
theorem Settings.ofValue_ne_ok
    {document : Value}
    (isRead : IsRead document)
    (isFaulty : IsFaulty document)
    (settings : Settings) :
    ofValue document ≠ .ok settings := by
  intro areGiven
  obtain ⟨version, preset, name, overrides, isVersion, isCurrent, areRead, isPreset, isValid⟩ :=
    ofValue_eq_ok areGiven
  have isReadAs := isReadAs_of_presetAndOverrides? isRead areRead
  cases isFaulty with
  | version otherwise =>
      obtain ⟨entries, isMapping, member⟩ := mem_of_version? isVersion
      rw [isCurrent] at member
      exact otherwise entries isMapping member
  | preset isUnknown =>
      rw [isUnknown name isReadAs.preset] at isPreset
      simp at isPreset
  | key isUnknown =>
      exact isReadAs.known isUnknown
  | part isField isUnknown =>
      exact isReadAs.recordKnown _ isField isUnknown
  | setting isField isPart isInner isUnknown =>
      exact isReadAs.partsKnown _ isField _ isPart _ isInner isUnknown
  | @outOfRange setting value isSetting isGiven notNull notInRange =>
      obtain ⟨content, isTaken, isValue⟩ :=
        (isReadAs.takes setting isSetting).complete value isGiven notNull
      have isChosen : setting.value? (overrides.apply (ofPreset preset)) = some content := by
        rw [Setting.value?_apply overrides preset setting isSetting, isTaken, Option.some_or]
      have allowed := (validate_eq_ok_iff.mp isValid).2 setting isSetting content isChosen
      exact notInRange ⟨content, allowed, isValue⟩

end SourceFacts.Config
