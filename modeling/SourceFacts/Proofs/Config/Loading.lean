import SourceFacts.Proofs.Config.Replacements

namespace SourceFacts.Config

/-!
# Loading settings from a text

A text that gives some settings is loaded as those of a preset with just these replaced, whatever
the order of its entries. There is such a text for everything that can be given, and a text with
a fault gives nothing.
-/

open Yaml
open Json (goesOn)

namespace Given

variable {given : Given} {preset : Preset} {entries : List (String × Content)}

/-! ## Reading a document -/

/-- A document has a version and a preset, and its overrides are what is given. -/
structure Holds (given : Given) (preset : Preset) (entries : List (String × Content)) : Prop where
  known : ∀ entry ∈ entries, entry.1 ∈ documentNames
  version : ∀ content, ("version", content) ∈ entries ↔ content = .word 1
  preset : ∃ name, ("preset", .text name) ∈ entries ∧ Preset.ofText? name = some preset
  areSections : ∀ content, ("overrides", content) ∈ entries →
    ∃ parts, content = .group parts ∧ given.IsSections parts
  complete : ∀ part name content, given part name = some content →
    ∃ record, ("overrides", record) ∈ entries

/-- The order of the entries of a document does not matter. -/
theorem IsDocument.holds (isDocument : given.IsDocument preset entries) :
    given.Holds preset entries := by
  cases isDocument with
  | @plain name isPreset nothing arranged =>
      refine ⟨?_, ?_, ⟨name, ?_, isPreset⟩, ?_, ?_⟩
      · intro entry member
        rw [arranged.mem_iff] at member
        simp only [List.mem_cons, List.not_mem_nil, or_false] at member
        rcases member with rfl | rfl <;> simp [documentNames]
      · intro content
        rw [arranged.mem_iff]
        simp
      · rw [arranged.mem_iff]
        simp
      · intro content member
        rw [arranged.mem_iff] at member
        simp at member
      · intro part name content isGiven
        rw [nothing] at isGiven
        simp at isGiven
  | @overriding name parts isPreset something isSections arranged =>
      refine ⟨?_, ?_, ⟨name, ?_, isPreset⟩, ?_, ?_⟩
      · intro entry member
        rw [arranged.mem_iff] at member
        simp only [List.mem_cons, List.not_mem_nil, or_false] at member
        rcases member with rfl | rfl | rfl <;> simp [documentNames]
      · intro content
        rw [arranged.mem_iff]
        simp
      · rw [arranged.mem_iff]
        simp
      · intro content member
        rw [arranged.mem_iff] at member
        exact ⟨parts, by simpa using member, isSections⟩
      · intro part name content isGiven
        exact ⟨.group parts, by simp [arranged.mem_iff]⟩

namespace Holds

variable (holds : given.Holds preset entries)

include holds

/-- A document gives what is given. -/
theorem hasSetting_iff
    {part name : String}
    {value : Value} :
    HasSetting (Content.group entries).value part name value ↔
      ∃ content, given part name = some content ∧ content.value = value := by
  constructor
  · rintro ⟨record, isField, gives⟩
    obtain ⟨content, member, rfl⟩ := hasField_group_iff.mp isField
    obtain ⟨parts, rfl, isSections⟩ := holds.areSections content member
    exact isSections.givesIn_iff.mp gives
  · rintro ⟨content, isGiven, isValue⟩
    obtain ⟨record, member⟩ := holds.complete part name content isGiven
    obtain ⟨parts, rfl, isSections⟩ := holds.areSections record member
    exact ⟨_, hasField_group_iff.mpr ⟨_, member, rfl⟩,
      isSections.givesIn_iff.mpr ⟨content, isGiven, isValue⟩⟩

/-- The version of a document is found. -/
theorem version?_eq : version? (Content.group entries).value = some 1 := by
  have isThere : HasField documentNames (Content.group entries).value "version" (.integer 1) :=
    hasField_group_iff.mpr ⟨.word 1, (holds.version _).mpr rfl, rfl⟩
  rw [Content.value] at isThere ⊢
  obtain ⟨member⟩ := isThere
  rw [version?]
  cases found : (Content.entryValues entries).find? fun entry =>
      entry.1.same (.string "version") with
  | none =>
      exact absurd (same_string_iff.mpr rfl) (List.find?_eq_none.mp found _ member)
  | some entry =>
      obtain ⟨value, rfl, isThere⟩ := exists_of_find?_same found
      have isField : HasField documentNames (Content.group entries).value "version" value :=
        .entry isThere
      obtain ⟨content, isEntry, rfl⟩ := hasField_group_iff.mp isField
      rw [(holds.version content).mp isEntry, Option.bind_eq_bind, Option.bind_some]
      exact word?_value 1

/-- The preset and what is given are read from a document. -/
theorem exists_presetAndOverrides?
    (inRange : given.IsInRange)
    (isRead : IsRead (Content.group entries).value) :
    ∃ name overrides, presetAndOverrides? (Content.group entries).value = some (name, overrides) ∧
      Preset.ofText? name = some preset ∧
      ∀ setting ∈ Setting.all, setting.given? overrides = given setting.part setting.name := by
  obtain ⟨fields, areFields, isRecord⟩ := exists_isRecord (by decide) isRead
    (not_hasUnknownKey_group holds.known)
  obtain ⟨name, isName, isPreset⟩ := holds.preset
  have versionThere : Config.value? "version" fields = some (.integer 1) :=
    (isRecord.value?_iff _ _).mpr
      (hasField_group_iff.mpr ⟨.word 1, (holds.version _).mpr rfl, rfl⟩)
  have presetThere : Config.value? "preset" fields = some (.string name) :=
    (isRecord.value?_iff _ _).mpr (hasField_group_iff.mpr ⟨.text name, isName, rfl⟩)
  obtain ⟨overrides?, overridesRead⟩ : ∃ overrides?,
      optional? Overrides.ofValue? "overrides" fields = some overrides? := by
    refine exists_optional? isRecord fun record isField => .inr ?_
    have recordRead := isRecord.areRead _ _ isField
    obtain ⟨content, member, rfl⟩ := hasField_group_iff.mp isField
    obtain ⟨parts, rfl, isSections⟩ := holds.areSections content member
    exact isSections.exists_ofValue? inRange recordRead
  have areRead : presetAndOverrides? (Content.group entries).value =
      some (name, overrides?.getD {}) :=
    goesOn areFields <| goesOn (goesOn versionThere (word?_value 1)) <|
      goesOn (goesOn presetThere rfl) <| goesOn overridesRead rfl
  refine ⟨name, overrides?.getD {}, areRead, isPreset, ?_⟩
  intro setting member
  have takes := (isReadAs_of_presetAndOverrides? isRead areRead).takes setting member
  refine inRange.given?_eq member ⟨?_, ?_⟩
  · intro value isGiven
    exact takes.complete value (holds.hasSetting_iff.mpr isGiven)
  · intro content isTaken
    exact holds.hasSetting_iff.mp (takes.sound content isTaken)

/-- A document is read as the settings of its preset, with those replaced that it gives. -/
theorem exists_ofValue
    (inRange : given.IsInRange)
    (isRead : IsRead (Content.group entries).value) :
    ∃ settings, Settings.ofValue (Content.group entries).value = .ok settings ∧
      given.Replaces preset settings := by
  obtain ⟨name, overrides, areRead, isPreset, haveGiven⟩ :=
    holds.exists_presetAndOverrides? inRange isRead
  obtain ⟨replaces, isValid⟩ := inRange.replaces preset haveGiven
  refine ⟨_, ?_, replaces⟩
  have isCurrent : (1 : UInt64).toNat = currentVersion := by decide
  rw [Settings.ofValue, holds.version?_eq]
  simp only [isCurrent, ne_eq, not_true_eq_false, ↓reduceIte, areRead, Preset.find, isPreset]
  exact isValid

end Holds

/-! ## Writing a document -/

/-- What is in a range fits wherever it stands. -/
theorem fits_of_allows
    {range : Range}
    {content : Content}
    (allowed : range.Allows content)
    (depth : Nat) :
    content.Fits depth := by
  cases content with
  | bool flag =>
      exact .bool depth flag
  | word word =>
      exact .word depth word
  | text text =>
      exact .text depth text
  | group entries =>
      cases range <;> exact absurd allowed id

/-- Sections can be written. -/
theorem IsSections.fits
    {parts : List (String × Content)}
    (isSections : given.IsSections parts)
    (inRange : given.IsInRange)
    (something : parts ≠ []) :
    (Content.group parts).Fits 2 := by
  have partsWritten : ∀ part ∈ partNames, isEntryName part = true := by decide
  have namesWritten : ∀ part ∈ partNames, ∀ name ∈ Setting.namesIn part,
      isEntryName name = true := by decide
  have areKnown := isSections.areKnown inRange
  refine .group something (fun entry member => partsWritten _ (areKnown entry member))
    isSections.distinct ?_
  rintro ⟨part, content⟩ member
  have isPart := areKnown _ member
  obtain ⟨fields, rfl, nonempty, lists⟩ := isSections.areGroups part content member
  refine .group nonempty ?_ lists.distinct ?_
  · rintro ⟨name, content⟩ isEntry
    have isGiven := (lists.mem_iff name content).mp isEntry
    exact namesWritten part isPart name (inRange.name_mem isGiven).2
  · rintro ⟨name, content⟩ isEntry
    obtain ⟨_, _, _, _, allowed⟩ := inRange part name content ((lists.mem_iff _ _).mp isEntry)
    exact fits_of_allows allowed 0

/-- A document can be written: there are three levels of it. -/
theorem IsDocument.fits
    (isDocument : given.IsDocument preset entries)
    (inRange : given.IsInRange) :
    (Content.group entries).Fits 3 := by
  have namesWritten : ∀ name ∈ documentNames, isEntryName name = true := by decide
  have written := fun entry member => namesWritten _ (isDocument.holds.known entry member)
  cases isDocument with
  | plain isPreset nothing arranged =>
      have sameNames := arranged.map (·.1)
      refine .group (fun isNil => ?_) written (sameNames.nodup_iff.mpr (by simp)) ?_
      · rw [isNil] at arranged
        simp at arranged
      · intro entry member
        rw [arranged.mem_iff] at member
        simp only [List.mem_cons, List.not_mem_nil, or_false] at member
        rcases member with rfl | rfl
        · exact .word 2 1
        · exact .text 2 _
  | overriding isPreset something isSections arranged =>
      have sameNames := arranged.map (·.1)
      refine .group (fun isNil => ?_) written (sameNames.nodup_iff.mpr (by simp)) ?_
      · rw [isNil] at arranged
        simp at arranged
      · intro entry member
        rw [arranged.mem_iff] at member
        simp only [List.mem_cons, List.not_mem_nil, or_false] at member
        rcases member with rfl | rfl | rfl
        · exact .word 2 1
        · exact .text 2 _
        · exact isSections.fits inRange something

/-- What is given for some names, in their order. -/
def tabulate (names : List String) (contents : String → Option Content) :
    List (String × Content) :=
  names.filterMap fun name => (contents name).map (name, ·)

/-- What is given for some names is all that is given if it is given for no others. -/
theorem lists_tabulate
    {names : List String}
    (distinct : names.Nodup)
    {contents : String → Option Content}
    (known : ∀ name content, contents name = some content → name ∈ names) :
    Lists contents (tabulate names contents) := by
  refine ⟨?_, ?_⟩
  · rw [tabulate, List.map_filterMap]
    refine distinct.filterMap ?_
    intro first second name isFirst isSecond
    simp only [Option.mem_def, Option.map_map, Option.map_eq_some_iff, Function.comp_apply]
      at isFirst isSecond
    obtain ⟨_, _, rfl⟩ := isFirst
    obtain ⟨_, _, rfl⟩ := isSecond
    rfl
  · intro name content
    simp only [tabulate, List.mem_filterMap, Option.map_eq_some_iff, Prod.mk.injEq]
    constructor
    · rintro ⟨_, _, _, isGiven, rfl, rfl⟩
      exact isGiven
    · intro isGiven
      exact ⟨name, known name content isGiven, content, isGiven, rfl, rfl⟩

/-- The entries of a section, in the order of its settings. -/
def listed (given : Given) (part : String) : List (String × Content) :=
  tabulate (Setting.namesIn part) (given part)

/-- A section of what is given, if anything is. -/
def section? (given : Given) (part : String) : Option Content :=
  if (given.listed part).isEmpty then none else some (.group (given.listed part))

/-- A section holds what is given for it, and that is something. -/
theorem section?_eq_some_iff
    {part : String}
    {content : Content} :
    given.section? part = some content ↔
      given.listed part ≠ [] ∧ content = .group (given.listed part) := by
  rw [section?, Option.ite_none_left_eq_some, List.isEmpty_iff, Option.some.injEq]
  exact and_congr_right' eq_comm

/-- Sections that hold everything that is given. -/
theorem isSections_tabulate (inRange : given.IsInRange) :
    given.IsSections (tabulate partNames given.section?) := by
  have lists : ∀ part, part ∈ partNames → Lists (given part) (given.listed part) :=
    fun part isPart => lists_tabulate (Setting.nodup_namesIn part isPart)
      fun _ _ isGiven => (inRange.name_mem isGiven).2
  have isKnown : ∀ part content, given.section? part = some content → part ∈ partNames := by
    intro part content isSection
    have nonempty := (section?_eq_some_iff.mp isSection).1
    obtain ⟨entry, member⟩ := List.exists_mem_of_ne_nil _ nonempty
    obtain ⟨name, _, isEntry⟩ := List.mem_filterMap.mp member
    obtain ⟨content, isGiven, _⟩ := Option.map_eq_some_iff.mp isEntry
    exact (inRange.name_mem isGiven).1
  have sections := lists_tabulate (by decide) isKnown
  refine ⟨sections.distinct, ?_, ?_⟩
  · intro part content member
    have isSection := (sections.mem_iff part content).mp member
    obtain ⟨nonempty, isGroup⟩ := section?_eq_some_iff.mp isSection
    exact ⟨_, isGroup, nonempty, lists part (isKnown part content isSection)⟩
  · intro part name content isGiven
    have member := ((lists part (inRange.name_mem isGiven).1).mem_iff name content).mpr isGiven
    exact ⟨_, (sections.mem_iff part _).mpr
      (section?_eq_some_iff.mpr ⟨List.ne_nil_of_mem member, rfl⟩)⟩

/-- There is a document for everything that can be given. -/
theorem exists_isDocument
    (inRange : given.IsInRange)
    (preset : Preset) :
    ∃ entries, given.IsDocument preset entries := by
  have isPreset : Preset.ofText? preset.name = some preset := by
    cases preset <;> decide
  have isSections := isSections_tabulate inRange
  by_cases something : tabulate partNames given.section? = []
  · refine ⟨_, .plain isPreset ?_ (.refl _)⟩
    intro part name
    refine Option.eq_none_iff_forall_ne_some.mpr fun content isGiven => ?_
    obtain ⟨inner, member⟩ := isSections.complete part name content isGiven
    rw [something] at member
    simp at member
  · exact ⟨_, .overriding isPreset something isSections (.refl _)⟩

end Given

/-! ## Loading -/

namespace Settings

/-- Whatever is given, each in its range, a text that gives it is loaded as the settings of its
preset with just that replaced, in whatever order it is given. A text with a fault gives no
settings. -/
theorem ofYaml_replaces :
    (∀ (preset : Preset) (given : Given), given.IsInRange →
      ∃ settings, (∀ others, given.Replaces preset others ↔ others = settings) ∧
        (∃ entries, given.IsDocument preset entries) ∧
        ∀ entries, given.IsDocument preset entries →
          ofYaml (document entries) = .ok settings ∧
          ∀ text, parse? text = some (Content.group entries).value →
            ofYaml text = .ok settings) ∧
    ∀ text, (∀ document, parse? text = some document → IsFaulty document) →
      ∃ failure, ofYaml text = .error failure := by
  refine ⟨?_, ?_⟩
  · intro preset given inRange
    have printed : ∀ entries, given.IsDocument preset entries →
        parse? (document entries) = some (Content.group entries).value :=
      fun entries isDocument => parse?_document (isDocument.fits inRange) (by decide)
    have loads : ∀ entries, given.IsDocument preset entries → ∀ text,
        parse? text = some (Content.group entries).value →
        ∃ settings, ofYaml text = .ok settings ∧ given.Replaces preset settings := by
      intro entries isDocument text parsed
      rw [ofYaml, parsed]
      exact isDocument.holds.exists_ofValue inRange (isRead_of_parse? parsed)
    obtain ⟨first, isFirst⟩ := Given.exists_isDocument inRange preset
    obtain ⟨settings, _, replaces⟩ := loads first isFirst _ (printed first isFirst)
    have alike : ∀ entries, given.IsDocument preset entries → ∀ text,
        parse? text = some (Content.group entries).value → ofYaml text = .ok settings := by
      intro entries isDocument text parsed
      obtain ⟨others, areLoaded, othersReplace⟩ := loads entries isDocument text parsed
      rw [areLoaded, othersReplace.unique replaces]
    refine ⟨settings, ?_, ⟨first, isFirst⟩, ?_⟩
    · intro others
      constructor
      · intro othersReplace
        exact othersReplace.unique replaces
      · rintro rfl
        exact replaces
    · intro entries isDocument
      exact ⟨alike entries isDocument _ (printed entries isDocument), alike entries isDocument⟩
  · intro text isFaulty
    rw [ofYaml]
    cases parsed : parse? text with
    | none =>
        exact ⟨.malformed, rfl⟩
    | some document =>
        cases outcome : ofValue document with
        | error failure =>
            exact ⟨failure, outcome⟩
        | ok settings =>
            exact absurd outcome
              (ofValue_ne_ok (isRead_of_parse? parsed) (isFaulty document parsed) settings)

/-- Two bounds and the time that enrichments are kept for are replaced, whatever comes first. There
is no second version. -/
theorem ofYaml_replaces_someOfFast :
    ofYaml (document [
        ("overrides", .group [
          ("cache", .group [("ttl_seconds", .word 60)]),
          ("analysis", .group [("continue_on_error", .bool false), ("max_depth", .word 7)])]),
        ("version", .word 1), ("preset", .text "Fast")]) =
      .ok {
        preset := .fast
        analysis := {
          parseTimeoutMs := 5000
          maxDepth := 7
          maxNodes := 250000
          continueOnError := false }
        cache := { ttlSeconds := 60 } } ∧
    ∃ failure, ofYaml (document [("version", .word 2), ("preset", .text "fast")]) =
      .error failure := by
  let given : Given := fun part name =>
    if part = "analysis" then
      if name = "continue_on_error" then some (.bool false)
      else if name = "max_depth" then some (.word 7)
      else none
    else if part = "cache" ∧ name = "ttl_seconds" then some (.word 60)
    else none
  have inRange : given.IsInRange := by
    intro part name content isGiven
    simp only [given] at isGiven
    split_ifs at isGiven <;> cases isGiven <;>
      simp_all [Setting.all, Setting.analysis, Setting.cache, Setting.word, Setting.flag,
        Setting.text, Setting.enrichment, Setting.report, Range.Allows, le_largest]
  have isSections : given.IsSections [
      ("cache", .group [("ttl_seconds", .word 60)]),
      ("analysis", .group [("continue_on_error", .bool false), ("max_depth", .word 7)])] := by
    refine ⟨by simp, ?_, ?_⟩
    · intro part content member
      simp only [List.mem_cons, Prod.mk.injEq, List.not_mem_nil, or_false] at member
      rcases member with ⟨rfl, rfl⟩ | ⟨rfl, rfl⟩
      · refine ⟨_, rfl, by simp, by simp, ?_⟩
        intro name content
        simp [given, eq_comm]
      · refine ⟨_, rfl, by simp, by simp, ?_⟩
        intro name content
        simp only [List.mem_cons, Prod.mk.injEq, List.not_mem_nil, or_false, given, ↓reduceIte]
        grind
    · intro part name content isGiven
      simp only [given] at isGiven
      split_ifs at isGiven <;> simp_all
  have replaced : given.Replaces .fast {
      preset := .fast
      analysis := {
        parseTimeoutMs := 5000
        maxDepth := 7
        maxNodes := 250000
        continueOnError := false }
      cache := { ttlSeconds := 60 } } := by
    refine ⟨rfl, ?_⟩
    simp [Setting.all, Setting.analysis, Setting.cache, Setting.word, Setting.flag, Setting.text,
      Setting.enrichment, Setting.report, given, ofPreset, Preset.budget]
  obtain ⟨replaces, refuses⟩ := ofYaml_replaces
  refine ⟨?_, refuses _ ?_⟩
  · obtain ⟨settings, unique, _, loads⟩ := replaces .fast given inRange
    have isFast : Preset.ofText? "Fast" = some .fast := by decide
    have isDocument := Given.IsDocument.overriding isFast (by simp) isSections
      (List.perm_append_singleton _ [_, _]).symm
    rw [(loads _ isDocument).1, (unique _).mp replaced]
  · intro document parsed
    have fits : (Content.group [("version", .word 2), ("preset", .text "fast")]).Fits 1 :=
      .group (by simp) (by decide) (by simp) (by simp [Content.Fits.word, Content.Fits.text])
    rw [parse?_document fits (by decide)] at parsed
    cases parsed
    refine .version fun entries same => ?_
    cases same
    simp [Content.entryValues, Content.value, currentVersion]

end Settings

end SourceFacts.Config
