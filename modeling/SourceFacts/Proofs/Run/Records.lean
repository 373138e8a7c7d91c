import SourceFacts.Facts.Descriptor
import SourceFacts.Proofs.Cache.Entries
import SourceFacts.Proofs.Facts.Records
import SourceFacts.Run.Report

namespace SourceFacts

/-!
# Reports are read back

Outcomes and enrichments name their case in front of their fields. With them, everything
that a run tells about its files or keeps for later runs is read back.
-/

open Analysis Cache Facts Failures Hash Json Run

variable {arrangement : Arrangement}

/-! ## Outcomes -/

namespace Analysis.Outcome

/-- An outcome whose model, if there is one, holds its variables in order and each once. -/
def IsValid (outcome : Outcome) : Prop := ∀ model ∈ outcome.model?, model.IsValid

/-- An outcome is read back. -/
theorem ofJson?_toJson
    {outcome : Outcome}
    (valid : outcome.IsValid) :
    ofJson? (arrangement.of outcome.toJson) = some outcome := by
  cases outcome with
  | success model =>
      obtain ⟨content, record, isTagged, isRecord, finds⟩ :=
        arrangement.exists_tagged (rfl : (success model).toJson = _)
          (List.Sublist.refl ["model"]) (by decide)
      have isModel : Model.ofJson? (arrangement.of model.toJson) = some model :=
        Model.ofJson?_toJson (valid model rfl)
      simp [ofJson?, isTagged, status, isRecord, finds.field?, isModel]
  | incomplete model reasons =>
      obtain ⟨content, record, isTagged, isRecord, finds⟩ :=
        arrangement.exists_tagged (rfl : (incomplete model reasons).toJson = _)
          (List.Sublist.refl ["model", "reasons"]) (by decide)
      have isModel : Model.ofJson? (arrangement.of model.toJson) = some model :=
        Model.ofJson?_toJson (valid model rfl)
      simp [ofJson?, isTagged, status, isRecord, finds.field?, isModel]
  | failed category reason =>
      obtain ⟨content, record, isTagged, isRecord, finds⟩ :=
        arrangement.exists_tagged (rfl : (failed category reason).toJson = _)
          (List.Sublist.refl ["category", "reason"]) (by decide)
      simp [ofJson?, isTagged, status, isRecord, finds.field?]

/-- An outcome that is read has a model that holds its variables in order, if any. -/
theorem isValid_of_ofJson?
    {json : Json}
    {outcome : Outcome}
    (isRead : ofJson? json = some outcome) :
    outcome.IsValid := by
  have modelIsValid : ∀ {fields : List (String × Json)} {model : Model},
      field? Model.ofJson? "model" fields = some model → model.IsValid := by
    intro fields model isModel
    obtain ⟨value, -, isModel⟩ := Option.bind_eq_some_iff.mp isModel
    exact Model.isValid_of_ofJson? isModel
  obtain ⟨⟨status, content⟩, -, isRead⟩ := Option.bind_eq_some_iff.mp isRead
  dsimp only at isRead
  split at isRead
  · simp only [Option.bind_eq_bind, Option.bind_eq_some_iff] at isRead
    obtain ⟨fields, -, model, isModel, same⟩ := isRead
    obtain rfl := Option.some.inj same
    rintro _ ⟨rfl⟩
    exact modelIsValid isModel
  · simp only [Option.bind_eq_bind, Option.bind_eq_some_iff] at isRead
    obtain ⟨fields, -, model, isModel, reasons, -, same⟩ := isRead
    obtain rfl := Option.some.inj same
    rintro _ ⟨rfl⟩
    exact modelIsValid isModel
  · simp only [Option.bind_eq_bind, Option.bind_eq_some_iff] at isRead
    obtain ⟨fields, -, category, -, reason, -, same⟩ := isRead
    obtain rfl := Option.some.inj same
    rintro _ ⟨⟩
  · cases isRead

/-- Outcomes make the round trip. -/
theorem roundTrips : RoundTrips Outcome.toJson ofJson? IsValid [] :=
  .of (fun _ valid _ => ofJson?_toJson valid) (fun _ _ => isValid_of_ofJson?)
    (takesNullForMissing_nil ofJson?)

end Analysis.Outcome

/-! ## Enrichments and reports -/

namespace Run.Enrichment

/-- An enrichment whose payload, if there is one, is in canonical form. -/
def IsValid (enrichment : Enrichment) : Prop :=
  ∀ payload ∈ enrichment.payload?, payload.canonical = payload

/-- An enrichment is read back. -/
theorem ofJson?_toJson
    {enrichment : Enrichment}
    (valid : enrichment.IsValid) :
    ofJson? (arrangement.of enrichment.toJson) = some enrichment := by
  cases enrichment with
  | cached payload =>
      obtain ⟨content, record, isTagged, isRecord, finds⟩ :=
        arrangement.exists_tagged (rfl : (cached payload).toJson = _)
          (List.Sublist.refl ["payload"]) (by decide)
      simp [ofJson?, isTagged, state, payloadOf?, isRecord, finds.field?, valid payload rfl]
  | fresh payload =>
      obtain ⟨content, record, isTagged, isRecord, finds⟩ :=
        arrangement.exists_tagged (rfl : (fresh payload).toJson = _)
          (List.Sublist.refl ["payload"]) (by decide)
      simp [ofJson?, isTagged, state, payloadOf?, isRecord, finds.field?, valid payload rfl]
  | failed message =>
      obtain ⟨content, record, isTagged, isRecord, finds⟩ :=
        arrangement.exists_tagged (rfl : (failed message).toJson = _)
          (List.Sublist.refl ["message"]) (by decide)
      simp [ofJson?, isTagged, state, isRecord, finds.field?]
  | skipped =>
      obtain ⟨content, record, isTagged, isRecord, -⟩ :=
        arrangement.exists_tagged (rfl : skipped.toJson = _) (List.Sublist.refl []) (by decide)
      simp [ofJson?, isTagged, state, isRecord]
  | disabled =>
      obtain ⟨content, record, isTagged, isRecord, -⟩ :=
        arrangement.exists_tagged (rfl : disabled.toJson = _) (List.Sublist.refl []) (by decide)
      simp [ofJson?, isTagged, state, isRecord]

/-- An enrichment that is read has a payload in canonical form, if any. -/
theorem isValid_of_ofJson?
    {json : Json}
    {enrichment : Enrichment}
    (isRead : ofJson? json = some enrichment) :
    enrichment.IsValid := by
  have payloadIsValid : ∀ {content payload : Json},
      payloadOf? content = some payload → payload.canonical = payload := by
    intro content payload isPayload
    obtain ⟨fields, -, isPayload⟩ := Option.bind_eq_some_iff.mp isPayload
    obtain ⟨value, -, isPayload⟩ := Option.bind_eq_some_iff.mp isPayload
    obtain rfl := Option.some.inj isPayload
    exact canonical_canonical value
  obtain ⟨⟨state, content⟩, -, isRead⟩ := Option.bind_eq_some_iff.mp isRead
  dsimp only at isRead
  split at isRead
  · obtain ⟨payload, isPayload, rfl⟩ := Option.map_eq_some_iff.mp isRead
    rintro _ ⟨rfl⟩
    exact payloadIsValid isPayload
  · obtain ⟨payload, isPayload, rfl⟩ := Option.map_eq_some_iff.mp isRead
    rintro _ ⟨rfl⟩
    exact payloadIsValid isPayload
  · obtain ⟨fields, -, isRead⟩ := Option.bind_eq_some_iff.mp isRead
    obtain ⟨message, -, rfl⟩ := Option.map_eq_some_iff.mp isRead
    rintro _ ⟨⟩
  · obtain ⟨fields, -, rfl⟩ := Option.map_eq_some_iff.mp isRead
    rintro _ ⟨⟩
  · obtain ⟨fields, -, rfl⟩ := Option.map_eq_some_iff.mp isRead
    rintro _ ⟨⟩
  · cases isRead

/-- Enrichments make the round trip. -/
theorem roundTrips : RoundTrips Enrichment.toJson ofJson? IsValid [] :=
  .of (fun _ valid _ => ofJson?_toJson valid) (fun _ _ => isValid_of_ofJson?)
    (takesNullForMissing_nil ofJson?)

end Run.Enrichment

namespace Run.Report

/-- A report whose outcome and whose enrichment can be read back. -/
structure IsValid (report : Report) : Prop where
  outcome : report.outcome.IsValid
  enrichment : report.enrichment.IsValid

/-- A report is read back, with its key or without one, also among fields of other names. -/
theorem ofJson?_among
    {report : Report}
    (valid : report.IsValid)
    (others : List (String × Json))
    {json : Json}
    (isObject : json = .object (others ++ report.toFields))
    (othersDistinct : (others.map (·.1)).Nodup)
    (unexpected : ∀ name ∈ others.map (·.1), name ∉ fieldNames) :
    ofJson? (arrangement.of json) = some report := by
  have expected := ((List.Sublist.refl ["path", "outcome"]).append
    (names_present_sublist "cache_key" Fingerprint.toJson report.key?)).append
      (List.Sublist.refl ["enrichment"])
  have sameNames : report.toFields.map (·.1) = ["path", "outcome"] ++
      (present "cache_key" Fingerprint.toJson report.key?).map (·.1) ++ ["enrichment"] := by
    simp [toFields]
  have expectedNames : ["path", "outcome"] ++ ["cache_key"] ++ ["enrichment"] = fieldNames := rfl
  rw [← sameNames, expectedNames] at expected
  obtain ⟨record, isRecord, finds⟩ := arrangement.exists_record_among others isObject expected
    (by decide) othersDistinct unexpected
  have outcome : Outcome.ofJson? (arrangement.of report.outcome.toJson) = some report.outcome :=
    Outcome.ofJson?_toJson valid.outcome
  have enrichment : Enrichment.ofJson? (arrangement.of report.enrichment.toJson) =
      some report.enrichment :=
    Enrichment.ofJson?_toJson valid.enrichment
  have key : optionalField? Fingerprint.ofJson? "cache_key" record = some report.key? :=
    finds.optionalField?_of_lookup? Fingerprint.toJson report.key?
      (by simp [toFields, lookup?_append, lookup?_present, lookup?]) rfl
      fun key _ => ofJson?_toJson_fingerprint key
  simp [ofJson?, isRecord, finds.field?, toFields, key, outcome, enrichment, lookup?_append,
    lookup?_present]

/-- A report is read back. -/
theorem ofJson?_toJson
    {report : Report}
    (valid : report.IsValid) :
    ofJson? (arrangement.of report.toJson) = some report :=
  ofJson?_among valid [] rfl .nil (by simp)

/-- A report that is read has an outcome and an enrichment that can be read back. -/
theorem isValid_of_ofJson?
    {json : Json}
    {report : Report}
    (isRead : ofJson? json = some report) :
    report.IsValid := by
  simp only [ofJson?, Option.bind_eq_bind, Option.bind_eq_some_iff] at isRead
  obtain ⟨fields, -, path, -, outcome, isOutcome, key, -, enrichment, isEnrichment, same⟩ := isRead
  obtain rfl := Option.some.inj same
  obtain ⟨outcomeValue, -, isOutcome⟩ := Option.bind_eq_some_iff.mp isOutcome
  obtain ⟨enrichmentValue, -, isEnrichment⟩ := Option.bind_eq_some_iff.mp isEnrichment
  exact ⟨Outcome.isValid_of_ofJson? isOutcome, Enrichment.isValid_of_ofJson? isEnrichment⟩

/-- Reports make the round trip. -/
theorem roundTrips : RoundTrips Report.toJson ofJson? IsValid ["cache_key"] :=
  .of (fun _ valid _ => ofJson?_toJson valid) (fun _ _ => isValid_of_ofJson?)
    (takesNullForMissing_of_record fun record filled fills => by
      simp [fills.field?, fills.optionalField?])

end Run.Report

/-! ## Descriptors -/

namespace Facts

/-- Every language is told from its name. -/
@[simp] theorem SourceLanguage.ofName?_name (language : SourceLanguage) :
    SourceLanguage.ofName? language.name = some language := by
  cases language
  rfl

namespace Descriptor

/-- A descriptor with a moment of the calendar, if it has one. -/
def IsValid (descriptor : Descriptor) : Prop := ∀ moment ∈ descriptor.modified?, moment.IsValid

/-- A descriptor is read back. -/
theorem ofJson?_toJson
    {descriptor : Descriptor}
    (valid : descriptor.IsValid) :
    ofJson? (arrangement.of descriptor.toJson) = some descriptor := by
  obtain ⟨record, isRecord, finds⟩ :=
    arrangement.exists_record (rfl : descriptor.toJson = _) (List.Sublist.refl fieldNames)
      (by decide)
  have fingerprint :
      (arrangement.of (orNull Fingerprint.toJson descriptor.fingerprint?)).asOption?
        Fingerprint.ofJson? = some descriptor.fingerprint? :=
    asOption?_orNull rfl fun fingerprint _ => ofJson?_toJson_fingerprint fingerprint
  have modified :
      (arrangement.of (orNull instantJson descriptor.modified?)).asOption? asInstant? =
        some descriptor.modified? :=
    asOption?_orNull rfl fun moment isMoment =>
      Failures.asInstant?_instantJson arrangement (valid moment isMoment)
  simp [ofJson?, isRecord, finds.field?, finds.optionalField?, fingerprint, modified]

/-- A descriptor that is read has a moment of the calendar, if it has one. -/
theorem isValid_of_ofJson?
    {json : Json}
    {descriptor : Descriptor}
    (isRead : ofJson? json = some descriptor) :
    descriptor.IsValid := by
  simp only [ofJson?, Option.bind_eq_bind, Option.bind_eq_some_iff] at isRead
  obtain ⟨fields, -, path, -, size, -, fingerprint?, -, language, -, modified?, isModified,
    same⟩ := isRead
  obtain rfl := Option.some.inj same
  rintro moment ⟨rfl⟩
  obtain ⟨value, isMoment⟩ := exists_read_of_optionalField? isModified
  exact isValid_of_asInstant? isMoment

/-- Descriptors make the round trip. -/
theorem roundTrips :
    RoundTrips Descriptor.toJson ofJson? IsValid ["content_fingerprint", "modified_at"] :=
  .of (fun _ valid _ => ofJson?_toJson valid) (fun _ _ => isValid_of_ofJson?)
    (takesNullForMissing_of_record fun record filled fills => by
      simp [fills.field?, fills.optionalField?])

end Descriptor

end Facts

/-! ## Entries -/

namespace Cache

/-- What is known about sources makes the round trip. -/
theorem SourceMetadata.roundTrips :
    RoundTrips SourceMetadata.toJson SourceMetadata.ofJson? (fun _ => True) [] :=
  .of (fun source _ _ => ofJson?_toJson source) (fun _ _ _ => trivial)
    (takesNullForMissing_nil ofJson?)

namespace Entry

/-- An entry with a moment of the calendar and a payload in canonical form. -/
structure IsValid (entry : Entry) : Prop where
  createdAt : entry.createdAt.IsValid
  payload : entry.payload.canonical = entry.payload

/-- An entry that is read has a moment of the calendar and a payload in canonical form. -/
theorem isValid_of_ofJson?
    {json : Json}
    {entry : Entry}
    (isRead : ofJson? json = some entry) :
    entry.IsValid := by
  simp only [ofJson?, Option.bind_eq_bind, Option.bind_eq_some_iff] at isRead
  obtain ⟨fields, -, key, -, payload, isPayload, createdAt, isCreatedAt, ttl, -, version, -,
    source, -, same⟩ := isRead
  obtain rfl := Option.some.inj same
  obtain ⟨payloadValue, -, isPayload⟩ := Option.bind_eq_some_iff.mp isPayload
  obtain ⟨momentValue, -, isCreatedAt⟩ := Option.bind_eq_some_iff.mp isCreatedAt
  obtain rfl := Option.some.inj isPayload
  exact ⟨isValid_of_asInstant? isCreatedAt, canonical_canonical payloadValue⟩

/-- Entries make the round trip. -/
theorem roundTrips : RoundTrips Entry.toJson ofJson? IsValid [] := by
  refine .of ?_ (fun _ _ => isValid_of_ofJson?) (takesNullForMissing_nil ofJson?)
  intro entry valid arrangement
  rw [ofJson?_toJson arrangement entry valid.createdAt, valid.payload]

end Entry

end Cache

/-! ## The data model -/

/-- Everything that a run tells or keeps makes the round trip: what is written for it is read as it
was, whether the fields of objects stand as they were written or sorted by name; a field that is
left out or null when there is no value may be either; only values that can be read back are read,
so that what is read and written stays as it is when it is read and written again. -/
theorem dataModel_roundTrips :
    RoundTrips Span.toJson Span.ofJson? (fun _ => True) [] ∧
    RoundTrips Parameter.toJson Parameter.ofJson? (fun _ => True)
      ["type_annotation", "default_value"] ∧
    RoundTrips Function.toJson Function.ofJson? (fun _ => True)
      ["return_type_hint", "docstring"] ∧
    RoundTrips Attribute.toJson Attribute.ofJson? (fun _ => True)
      ["type_annotation", "default_value_text"] ∧
    RoundTrips Class.toJson Class.ofJson? (fun _ => True) ["docstring"] ∧
    RoundTrips ImportedName.toJson ImportedName.ofJson? (fun _ => True) ["alias"] ∧
    RoundTrips Import.toJson Import.ofJson? (fun _ => True) ["relative_level"] ∧
    RoundTrips ParseError.toJson ParseError.ofJson? (fun _ => True) [] ∧
    RoundTrips Model.toJson Model.ofJson? Model.IsValid ["docstring", "encoding"] ∧
    RoundTrips Outcome.toJson Outcome.ofJson? Outcome.IsValid [] ∧
    RoundTrips Enrichment.toJson Enrichment.ofJson? Enrichment.IsValid [] ∧
    RoundTrips Report.toJson Report.ofJson? Report.IsValid ["cache_key"] ∧
    RoundTrips Context.toJson Context.ofJson? (fun _ => True)
      ["file_size_bytes", "line_count", "encoding"] ∧
    RoundTrips Record.toJson Record.ofJson? Record.IsValid [] ∧
    RoundTrips Statistics.toJson Statistics.ofJson? Statistics.IsValid [] ∧
    RoundTrips Descriptor.toJson Descriptor.ofJson? Descriptor.IsValid
      ["content_fingerprint", "modified_at"] ∧
    RoundTrips SourceMetadata.toJson SourceMetadata.ofJson? (fun _ => True) [] ∧
    RoundTrips Entry.toJson Entry.ofJson? Entry.IsValid [] :=
  ⟨Span.roundTrips, Parameter.roundTrips, Function.roundTrips, Attribute.roundTrips,
    Class.roundTrips, ImportedName.roundTrips, Import.roundTrips, ParseError.roundTrips,
    Model.roundTrips, Outcome.roundTrips, Enrichment.roundTrips, Report.roundTrips,
    Context.roundTrips, Record.roundTrips, Statistics.roundTrips, Descriptor.roundTrips,
    SourceMetadata.roundTrips, Entry.roundTrips⟩

end SourceFacts
