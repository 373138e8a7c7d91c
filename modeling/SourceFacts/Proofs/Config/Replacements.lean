import SourceFacts.Proofs.Config.Documents

namespace SourceFacts.Config

/-!
# Some settings are replaced

A document names a preset and gives some settings, whichever they are and in whatever order. It
is read as the settings of the preset with those replaced that it gives.
-/

open Yaml

/-! ## Groups of entries -/

/-- Entries hold what is given for their names, in any order and each only once. -/
structure Lists (given : String → Option Content) (entries : List (String × Content)) : Prop where
  distinct : (entries.map (·.1)).Nodup
  mem_iff : ∀ name content, (name, content) ∈ entries ↔ given name = some content

/-- A group has the fields that are its entries. -/
theorem hasField_group_iff
    {names : List String}
    {entries : List (String × Content)}
    {name : String}
    {value : Value} :
    HasField names (Content.group entries).value name value ↔
      ∃ content, (name, content) ∈ entries ∧ content.value = value := by
  have isMember : ∀ entries : List (String × Content),
      (Value.string name, value) ∈ Content.entryValues entries ↔
        ∃ content, (name, content) ∈ entries ∧ content.value = value := by
    intro entries
    induction entries with
    | nil =>
        simp [Content.entryValues]
    | cons entry rest inductionHypothesis =>
        rw [Content.entryValues, List.mem_cons, inductionHypothesis]
        constructor
        · rintro (same | ⟨content, member, isValue⟩)
          · cases same
            exact ⟨entry.2, List.mem_cons_self, rfl⟩
          · exact ⟨content, List.mem_cons_of_mem _ member, isValue⟩
        · rintro ⟨content, member, rfl⟩
          rcases List.mem_cons.mp member with rfl | inRest
          · exact .inl rfl
          · exact .inr ⟨content, inRest, rfl⟩
  rw [← isMember]
  constructor
  · rintro ⟨member⟩
    exact member
  · exact .entry

/-- A group has no unknown keys if all its names are known. -/
theorem not_hasUnknownKey_group
    {names : List String}
    {entries : List (String × Content)}
    (areKnown : ∀ entry ∈ entries, entry.1 ∈ names) :
    ¬ HasUnknownKey names (Content.group entries).value :=
  not_hasUnknownKey (recordFields?_group areKnown)

/-- No content is null. -/
theorem value_ne_null (content : Content) : content.value ≠ .null := by
  cases content <;> nofun

/-- A content that is in a range is told apart by its value. -/
theorem eq_of_value_eq
    {range : Range}
    {content other : Content}
    (allowed : range.Allows content)
    (same : other.value = content.value) :
    other = content := by
  cases content with
  | bool flag =>
      cases other <;> simp_all [Content.value]
  | word word =>
      cases other with
      | word otherWord =>
          have sameNumber : otherWord.toNat = word.toNat :=
            Int.natCast_inj.mp (Value.integer.inj same)
          rw [UInt64.toNat_inj.mp sameNumber]
      | _ =>
          simp [Content.value] at same
  | text text =>
      cases other <;> simp_all [Content.value]
  | group entries =>
      cases range <;> exact absurd allowed id

/-! ## What is given -/

/-- What is given, by the names of a section and of a setting in it. -/
abbrev Given := String → String → Option Content

/-- Everything that is given is a setting, and in its range. -/
def Given.IsInRange (given : Given) : Prop :=
  ∀ part name content, given part name = some content →
    ∃ setting ∈ Setting.all, setting.part = part ∧ setting.name = name ∧
      setting.range.Allows content

/-- Sections hold what is given for them, each in any order, where there is something to hold. -/
structure Given.IsSections (given : Given) (parts : List (String × Content)) : Prop where
  distinct : (parts.map (·.1)).Nodup
  areGroups : ∀ part content, (part, content) ∈ parts →
    ∃ fields, content = .group fields ∧ fields ≠ [] ∧ Lists (given part) fields
  complete : ∀ part name content, given part name = some content → ∃ inner, (part, inner) ∈ parts

/-- A document names a preset and holds what is given, in any order, if anything is given. -/
inductive Given.IsDocument (given : Given) (preset : Preset) (entries : List (String × Content)) :
    Prop where
  | plain
      {name : String}
      (isPreset : Preset.ofText? name = some preset)
      (nothing : ∀ part name, given part name = none)
      (arranged : entries.Perm [("version", .word 1), ("preset", .text name)])
  | overriding
      {name : String}
      {parts : List (String × Content)}
      (isPreset : Preset.ofText? name = some preset)
      (something : parts ≠ [])
      (isSections : given.IsSections parts)
      (arranged : entries.Perm
        [("version", .word 1), ("preset", .text name), ("overrides", .group parts)])

/-- Settings are those of a preset, with those replaced that are given and no others. -/
structure Given.Replaces (given : Given) (preset : Preset) (settings : Settings) : Prop where
  samePreset : settings.preset = preset
  value? : ∀ setting ∈ Setting.all, setting.value? settings =
    (given setting.part setting.name).or (setting.value? (.ofPreset preset))

namespace Setting

/-- Every setting is in one of the sections. -/
theorem part_mem : ∀ setting ∈ all, setting.part ∈ partNames := by
  decide

/-- The settings of a section are known by their names. -/
theorem name_mem
    {setting : Setting}
    (isSetting : setting ∈ all) :
    setting.name ∈ namesIn setting.part :=
  List.mem_map_of_mem (List.mem_filter.mpr ⟨isSetting, decide_eq_true rfl⟩)

/-- No two settings of a section have the same name. -/
theorem nodup_namesIn : ∀ part ∈ partNames, (namesIn part).Nodup := by
  decide

/-- There is one setting of the enrichment. -/
theorem eq_enrichment : ∀ setting ∈ all, setting.part = "enrichment" → setting = enrichment := by
  simp [all, analysis, cache, word, flag, text, report]

/-- Settings are told apart by their sections and their names there. -/
theorem eq_of_names
    {setting other : Setting}
    (isSetting : setting ∈ all)
    (isOther : other ∈ all)
    (samePart : setting.part = other.part)
    (sameName : setting.name = other.name) :
    setting = other := by
  have distinct : (all.map fun setting => (setting.part, setting.name)).Nodup := by
    decide
  exact List.inj_on_of_nodup_map distinct isSetting isOther (Prod.ext samePart sameName)

end Setting

namespace Given

variable {given : Given} {preset : Preset}

/-- There are no other settings with the same replacements. -/
theorem Replaces.unique
    {settings others : Settings}
    (replaces : given.Replaces preset settings)
    (othersReplace : given.Replaces preset others) :
    settings = others := by
  refine Setting.eq_of_value?_eq (replaces.samePreset.trans othersReplace.samePreset.symm) ?_
  intro setting member
  rw [replaces.value? setting member, othersReplace.value? setting member]

/-- What is given for a setting is in its range. -/
theorem IsInRange.allows
    (inRange : given.IsInRange)
    {setting : Setting}
    (isSetting : setting ∈ Setting.all)
    {content : Content}
    (isGiven : given setting.part setting.name = some content) :
    setting.range.Allows content := by
  obtain ⟨other, isOther, samePart, sameName, allowed⟩ := inRange _ _ content isGiven
  rwa [← Setting.eq_of_names isOther isSetting samePart sameName]

/-- What is given has the name of a setting in its section. -/
theorem IsInRange.name_mem
    (inRange : given.IsInRange)
    {part name : String}
    {content : Content}
    (isGiven : given part name = some content) :
    part ∈ partNames ∧ name ∈ Setting.namesIn part := by
  obtain ⟨setting, isSetting, rfl, rfl, _⟩ := inRange part name content isGiven
  exact ⟨Setting.part_mem setting isSetting, Setting.name_mem isSetting⟩

/-- What takes over all that is given, and nothing else, has it. -/
theorem IsInRange.given?_eq
    (inRange : given.IsInRange)
    {overrides : Overrides}
    {setting : Setting}
    (isSetting : setting ∈ Setting.all)
    (takes : Takes (fun value => ∃ content, given setting.part setting.name = some content ∧
      content.value = value) (setting.given? overrides)) :
    setting.given? overrides = given setting.part setting.name := by
  cases isGiven : given setting.part setting.name with
  | none =>
      rw [isGiven] at takes
      refine Option.eq_none_iff_forall_ne_some.mpr fun content isTaken => ?_
      obtain ⟨other, isOther, _⟩ := takes.sound content isTaken
      simp at isOther
  | some content =>
      obtain ⟨taken, isTaken, same⟩ :=
        takes.complete content.value ⟨content, isGiven, rfl⟩ (value_ne_null content)
      rw [isTaken, eq_of_value_eq (inRange.allows isSetting isGiven) same]

/-- Overrides that have what is given replace it in the settings of a preset, which are valid
then. -/
theorem IsInRange.replaces
    (inRange : given.IsInRange)
    (preset : Preset)
    {overrides : Overrides}
    (haveGiven : ∀ setting ∈ Setting.all,
      setting.given? overrides = given setting.part setting.name) :
    given.Replaces preset (overrides.apply (.ofPreset preset)) ∧
      (overrides.apply (.ofPreset preset)).validate =
        .ok (overrides.apply (.ofPreset preset)) := by
  have values : ∀ setting ∈ Setting.all, setting.value? (overrides.apply (.ofPreset preset)) =
      (given setting.part setting.name).or (setting.value? (.ofPreset preset)) := by
    intro setting member
    rw [Setting.value?_apply overrides preset setting member, haveGiven setting member]
  refine ⟨⟨rfl, values⟩, Settings.validate_eq_ok_iff.mpr ⟨rfl, ?_⟩⟩
  intro setting member content isChosen
  rw [values setting member, Option.or_eq_some_iff] at isChosen
  rcases isChosen with isGiven | ⟨_, ofPreset⟩
  · exact inRange.allows member isGiven
  · exact Setting.allows_ofPreset preset setting member content ofPreset

/-! ## Sections -/

namespace IsSections

variable {parts : List (String × Content)}

/-- Sections give what is given. -/
theorem givesIn_iff
    (isSections : given.IsSections parts)
    {part name : String}
    {value : Value} :
    GivesIn (Content.group parts).value part name value ↔
      ∃ content, given part name = some content ∧ content.value = value := by
  constructor
  · rintro ⟨inner, isInner, isField⟩
    obtain ⟨content, member, rfl⟩ := hasField_group_iff.mp isInner
    obtain ⟨fields, rfl, _, lists⟩ := isSections.areGroups part content member
    obtain ⟨content, isListed, isValue⟩ := hasField_group_iff.mp isField
    exact ⟨content, (lists.mem_iff name content).mp isListed, isValue⟩
  · rintro ⟨content, isGiven, isValue⟩
    obtain ⟨inner, member⟩ := isSections.complete part name content isGiven
    obtain ⟨fields, rfl, _, lists⟩ := isSections.areGroups part inner member
    exact ⟨_, hasField_group_iff.mpr ⟨_, member, rfl⟩,
      hasField_group_iff.mpr ⟨content, (lists.mem_iff name content).mpr isGiven, isValue⟩⟩

/-- A section holds what is given for one of its settings, at least. -/
theorem exists_given
    (isSections : given.IsSections parts)
    (inRange : given.IsInRange)
    {part : String}
    {content : Content}
    (member : (part, content) ∈ parts) :
    ∃ fields, content = .group fields ∧ Lists (given part) fields ∧
      ∃ setting ∈ Setting.all, setting.part = part ∧ ∃ content, setting.range.Allows content ∧
        (setting.name, content) ∈ fields := by
  obtain ⟨fields, isGroup, nonempty, lists⟩ := isSections.areGroups part content member
  obtain ⟨⟨name, first⟩, isFirst⟩ := List.exists_mem_of_ne_nil fields nonempty
  obtain ⟨setting, isSetting, isPart, rfl, allowed⟩ :=
    inRange part name first ((lists.mem_iff name first).mp isFirst)
  exact ⟨fields, isGroup, lists, setting, isSetting, isPart, first, allowed, isFirst⟩

/-- All sections are known. -/
theorem areKnown
    (isSections : given.IsSections parts)
    (inRange : given.IsInRange) :
    ∀ entry ∈ parts, entry.1 ∈ partNames := by
  rintro ⟨part, content⟩ member
  obtain ⟨_, _, _, setting, isSetting, rfl, _⟩ := isSections.exists_given inRange member
  exact Setting.part_mem setting isSetting

/-- The fields of a section can be read, and are in range. -/
theorem exists_fields
    (isSections : given.IsSections parts)
    (inRange : given.IsInRange)
    {part : String}
    {inner : Value}
    (isInner : HasField partNames (Content.group parts).value part inner)
    (innerRead : IsRead inner) :
    ∃ fields, recordFields? (Setting.namesIn part) inner = some fields ∧
      IsRecord (Setting.namesIn part) inner fields ∧
      ∀ setting ∈ Setting.all, setting.part = part →
        HoldsIn (Setting.namesIn part) inner setting.name setting.range := by
  obtain ⟨content, member, rfl⟩ := hasField_group_iff.mp isInner
  have isPart := isSections.areKnown inRange _ member
  obtain ⟨entries, rfl, lists, _⟩ := isSections.exists_given inRange member
  have known : ∀ entry ∈ entries, entry.1 ∈ Setting.namesIn part := by
    rintro ⟨name, content⟩ isEntry
    exact (inRange.name_mem ((lists.mem_iff name content).mp isEntry)).2
  obtain ⟨fields, areFields, isRecord⟩ := exists_isRecord (Setting.nodup_namesIn part isPart)
    innerRead (not_hasUnknownKey_group known)
  refine ⟨fields, areFields, isRecord, ?_⟩
  rintro setting isSetting rfl value isField
  obtain ⟨content, isEntry, rfl⟩ := hasField_group_iff.mp isField
  exact .inr ⟨content, inRange.allows isSetting ((lists.mem_iff _ content).mp isEntry), rfl⟩

/-- A section on the enrichment chooses one. -/
theorem exists_configId
    (isSections : given.IsSections parts)
    (inRange : given.IsInRange)
    {inner : Value}
    (isInner : HasField partNames (Content.group parts).value "enrichment" inner) :
    ∃ configId, HasField ["config_id"] inner "config_id" (.string configId) := by
  obtain ⟨content, member, rfl⟩ := hasField_group_iff.mp isInner
  obtain ⟨fields, rfl, _, setting, isSetting, isPart, chosen, allowed, isEntry⟩ :=
    isSections.exists_given inRange member
  obtain rfl := Setting.eq_enrichment setting isSetting isPart
  cases chosen with
  | text configId =>
      exact ⟨configId, hasField_group_iff.mpr ⟨_, isEntry, rfl⟩⟩
  | _ =>
      exact absurd allowed id

/-- Sections that hold what is in range can be read. -/
theorem exists_ofValue?
    (isSections : given.IsSections parts)
    (inRange : given.IsInRange)
    (isRead : IsRead (Content.group parts).value) :
    ∃ overrides, Overrides.ofValue? (Content.group parts).value = some overrides := by
  obtain ⟨fields, areFields, isRecord⟩ := exists_isRecord (by decide) isRead
    (not_hasUnknownKey_group (isSections.areKnown inRange))
  obtain ⟨_, analysis⟩ : ∃ analysis?,
      optional? AnalysisOverrides.ofValue? "analysis" fields = some analysis? := by
    refine exists_optional? isRecord fun inner isInner => .inr ?_
    obtain ⟨_, areFields, innerRecord, holds⟩ :=
      isSections.exists_fields inRange isInner (isRecord.areRead _ _ isInner)
    refine AnalysisOverrides.exists_ofValue? areFields innerRecord fun setting member => ?_
    exact holds setting (List.mem_append_left _ (List.mem_append_left _ member))
      (Setting.of_analysis setting member).1
  obtain ⟨_, cache⟩ : ∃ cache?,
      optional? CacheOverrides.ofValue? "cache" fields = some cache? := by
    refine exists_optional? isRecord fun inner isInner => .inr ?_
    obtain ⟨_, areFields, innerRecord, holds⟩ :=
      isSections.exists_fields inRange isInner (isRecord.areRead _ _ isInner)
    refine CacheOverrides.exists_ofValue? areFields innerRecord fun setting member => ?_
    exact holds setting (List.mem_append_left _ (List.mem_append_right _ member))
      (Setting.of_cache setting member).1
  obtain ⟨_, enrichment⟩ : ∃ enrichment?,
      optional? EnrichmentSettings.ofValue? "enrichment" fields = some enrichment? := by
    refine exists_optional? isRecord fun inner isInner => .inr ?_
    obtain ⟨_, areFields, innerRecord, _⟩ :=
      isSections.exists_fields inRange isInner (isRecord.areRead _ _ isInner)
    obtain ⟨configId, isGiven⟩ := isSections.exists_configId inRange isInner
    exact EnrichmentSettings.exists_ofValue? areFields innerRecord isGiven
  obtain ⟨_, report⟩ : ∃ report?,
      optional? ReportSettings.ofValue? "report" fields = some report? := by
    refine exists_optional? isRecord fun inner isInner => .inr ?_
    obtain ⟨_, areFields, innerRecord, holds⟩ :=
      isSections.exists_fields inRange isInner (isRecord.areRead _ _ isInner)
    exact ReportSettings.exists_ofValue? areFields innerRecord
      (holds Setting.report (by simp [Setting.all]) rfl)
  simp only [Overrides.ofValue?, Option.bind_eq_bind, Option.bind_eq_some_iff]
  exact ⟨_, fields, areFields, _, analysis, _, cache, _, enrichment, _, report, rfl⟩

end IsSections

end Given

end SourceFacts.Config
