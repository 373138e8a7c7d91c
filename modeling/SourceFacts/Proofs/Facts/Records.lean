import SourceFacts.Facts.Encoding
import SourceFacts.Proofs.Json.Records

namespace SourceFacts.Facts

/-!
# Facts are read back

Every fact is read back from its record. A model has its variables in order and each once,
and it is read with them so in whatever order they stand.
-/

open Json

variable {arrangement : Arrangement}

/-! ## Spans and parameters -/

/-- A span is read back. -/
@[simp] theorem Span.ofJson?_toJson (span : Span) :
    Span.ofJson? (arrangement.of span.toJson) = some span := by
  obtain ⟨record, isRecord, finds⟩ :=
    arrangement.exists_record (rfl : span.toJson = _) (List.Sublist.refl fieldNames) (by decide)
  simp [Span.ofJson?, isRecord, finds.field?]

/-- Every way to take arguments is told from its name. -/
@[simp] theorem ParameterKind.ofName?_name (kind : ParameterKind) :
    ParameterKind.ofName? kind.name = some kind := by
  cases kind <;> rfl

/-- A parameter is read back. -/
@[simp] theorem Parameter.ofJson?_toJson (parameter : Parameter) :
    Parameter.ofJson? (arrangement.of parameter.toJson) = some parameter := by
  obtain ⟨record, isRecord, finds⟩ :=
    arrangement.exists_record (rfl : parameter.toJson = _) (List.Sublist.refl fieldNames)
      (by decide)
  simp [Parameter.ofJson?, isRecord, finds.field?, finds.optionalField?]

/-! ## Functions and classes -/

/-- A function is read back. -/
@[simp] theorem Function.ofJson?_toJson (function : Function) :
    Function.ofJson? (arrangement.of function.toJson) = some function := by
  obtain ⟨record, isRecord, finds⟩ :=
    arrangement.exists_record (rfl : function.toJson = _) (List.Sublist.refl fieldNames)
      (by decide)
  have parameters := asList?_array arrangement function.parameters
    fun parameter _ => Parameter.ofJson?_toJson parameter
  refine goesOn isRecord <| goesOn ?_ <| goesOn ?_ <| goesOn ?_ <| goesOn ?_ <| goesOn ?_ <|
    goesOn ?_ <| goesOn ?_ <| goesOn ?_ <| goesOn ?_ <| goesOn ?_ <| goesOn ?_ <| rfl
  all_goals simp [finds.field?, finds.optionalField?, parameters]

/-- An attribute is read back. -/
@[simp] theorem Attribute.ofJson?_toJson (fact : Attribute) :
    Attribute.ofJson? (arrangement.of fact.toJson) = some fact := by
  obtain ⟨record, isRecord, finds⟩ :=
    arrangement.exists_record (rfl : fact.toJson = _) (List.Sublist.refl fieldNames) (by decide)
  simp [Attribute.ofJson?, isRecord, finds.field?, finds.optionalField?]

/-- A class is read back. -/
@[simp] theorem Class.ofJson?_toJson (cls : Class) :
    Class.ofJson? (arrangement.of cls.toJson) = some cls := by
  obtain ⟨record, isRecord, finds⟩ :=
    arrangement.exists_record (rfl : cls.toJson = _) (List.Sublist.refl fieldNames) (by decide)
  have methods := asList?_array arrangement cls.methods
    fun method _ => Function.ofJson?_toJson method
  have attributes := asList?_array arrangement cls.attributes
    fun fact _ => Attribute.ofJson?_toJson fact
  refine goesOn isRecord <| goesOn ?_ <| goesOn ?_ <| goesOn ?_ <| goesOn ?_ <| goesOn ?_ <|
    goesOn ?_ <| goesOn ?_ <| goesOn ?_ <| goesOn ?_ <| goesOn ?_ <| rfl
  all_goals simp [finds.field?, finds.optionalField?, methods, attributes]

/-! ## Imports -/

/-- An imported name is read back. -/
@[simp] theorem ImportedName.ofJson?_toJson (item : ImportedName) :
    ImportedName.ofJson? (arrangement.of item.toJson) = some item := by
  obtain ⟨record, isRecord, finds⟩ :=
    arrangement.exists_record (rfl : item.toJson = _) (List.Sublist.refl fieldNames) (by decide)
  simp [ImportedName.ofJson?, isRecord, finds.field?, finds.optionalField?]

/-- An import is read back. -/
@[simp] theorem Import.ofJson?_toJson (fact : Import) :
    Import.ofJson? (arrangement.of fact.toJson) = some fact := by
  obtain ⟨record, isRecord, finds⟩ :=
    arrangement.exists_record (rfl : fact.toJson = _) (List.Sublist.refl fieldNames) (by decide)
  have items := asList?_array arrangement fact.items
    fun item _ => ImportedName.ofJson?_toJson item
  have level : (arrangement.of (orNull .halfWord fact.relativeLevel)).asOption? asHalfWord? =
      some fact.relativeLevel :=
    asOption?_orNull rfl fun level _ => by simp
  simp [Import.ofJson?, isRecord, finds.field?, finds.optionalField?, items, level]

/-- A parse error is read back. -/
@[simp] theorem ParseError.ofJson?_toJson (error : ParseError) :
    ParseError.ofJson? (arrangement.of error.toJson) = some error := by
  obtain ⟨record, isRecord, finds⟩ :=
    arrangement.exists_record (rfl : error.toJson = _) (List.Sublist.refl fieldNames) (by decide)
  simp [ParseError.ofJson?, isRecord, finds.field?]

/-! ## Variables -/

/-- Fields without values, of these names. -/
def bareFields (names : List String) : List (String × Json) := names.map fun name => (name, .null)

/-- Fields without values have these names. -/
@[simp] theorem map_bareFields (names : List String) : (bareFields names).map (·.1) = names := by
  rw [bareFields, List.map_map]
  exact List.map_id' names

/-- A name is put in its place as a field of that name is. -/
theorem insertField_bareFields (name : String) (names : List String) :
    insertField name .null (bareFields names) = bareFields (insertName name names) := by
  induction names with
  | nil =>
      rfl
  | cons first rest inductionHypothesis =>
      rw [bareFields, List.map_cons, ← bareFields, insertField, insertName,
        inductionHypothesis]
      split
      · rename_i same
        rw [same, bareFields, bareFields, List.map_cons]
      · split <;> rfl

/-- Names are put in their places as fields of those names are. -/
theorem canonicalFields_bareFields (names done : List String) :
    canonicalFields (bareFields names) (bareFields done) =
      bareFields (names.foldl (fun known name => insertName name known) done) := by
  induction names generalizing done with
  | nil =>
      rfl
  | cons name rest inductionHypothesis =>
      have isNull : Json.null.canonical = .null := rfl
      rw [bareFields, List.map_cons, ← bareFields, canonicalFields, isNull,
        insertField_bareFields, inductionHypothesis, List.foldl_cons]

/-- Names are in order after each was put in its place. -/
theorem sorted_foldl_insertName (names : List String) :
    (names.foldl (fun known name => insertName name known) []).Pairwise (· < ·) := by
  have sorted : ((canonicalFields (bareFields names) (bareFields [])).map (·.1)).Pairwise (· < ·) :=
    sorted_canonicalFields (bareFields names) List.Pairwise.nil
  rwa [canonicalFields_bareFields, map_bareFields] at sorted

/-- Names that are in order stay as they are when each is put in its place. -/
theorem foldl_insertName_of_sorted
    {names : List String}
    (sorted : names.Pairwise (· < ·)) :
    names.foldl (fun known name => insertName name known) [] = names := by
  have inOrder : (Json.object (bareFields names)).canonical = .object (bareFields names) := by
    rw [canonical_object_iff, map_bareFields]
    refine ⟨sorted, fun field member => ?_⟩
    obtain ⟨name, -, rfl⟩ := List.mem_map.mp member
    rfl
  have sameFields : bareFields names =
      bareFields (names.foldl (fun known name => insertName name known) []) :=
    (Json.object.inj inOrder).symm.trans (canonicalFields_bareFields names [])
  rw [← map_bareFields (names.foldl _ []), ← sameFields, map_bareFields]

/-! ## Models -/

/-- A model that holds its variables in order and each once. -/
def Model.IsValid (model : Model) : Prop := model.globals.Pairwise (· < ·)

/-- A model is read back. -/
theorem Model.ofJson?_toJson
    {model : Model}
    (valid : model.IsValid) :
    Model.ofJson? (arrangement.of model.toJson) = some model := by
  obtain ⟨record, isRecord, finds⟩ :=
    arrangement.exists_record (rfl : model.toJson = _) (List.Sublist.refl fieldNames) (by decide)
  have functions := asList?_array arrangement model.functions
    fun function _ => Function.ofJson?_toJson function
  have classes := asList?_array arrangement model.classes
    fun cls _ => Class.ofJson?_toJson cls
  have imports := asList?_array arrangement model.imports
    fun fact _ => Import.ofJson?_toJson fact
  have parseErrors := asList?_array arrangement model.parseErrors
    fun error _ => ParseError.ofJson?_toJson error
  have sameModel : { model with
      globals := model.globals.foldl (fun known name => insertName name known) [] } = model := by
    rw [foldl_insertName_of_sorted valid]
  refine Eq.trans ?_ (congrArg some sameModel)
  refine goesOn isRecord <| goesOn ?_ <| goesOn ?_ <| goesOn ?_ <| goesOn ?_ <| goesOn ?_ <|
    goesOn ?_ <| goesOn ?_ <| goesOn ?_ <| goesOn ?_ <| goesOn ?_ <| goesOn ?_ <| goesOn ?_ <|
    goesOn ?_ <| rfl
  all_goals simp [finds.field?, finds.optionalField?, functions, classes, imports, parseErrors]

/-- A model that is read has its variables in order and each once. -/
theorem Model.isValid_of_ofJson?
    {json : Json}
    {model : Model}
    (isRead : Model.ofJson? json = some model) :
    model.IsValid := by
  obtain ⟨_, -, isRead⟩ := Option.bind_eq_some_iff.mp isRead
  obtain ⟨globals, -, isRead⟩ := Option.bind_eq_some_iff.mp isRead
  -- What the other twelve fields hold does not matter.
  iterate 12 obtain ⟨_, -, isRead⟩ := Option.bind_eq_some_iff.mp isRead
  obtain rfl := Option.some.inj isRead
  exact sorted_foldl_insertName globals

/-! ## Round trips -/

/-- Spans make the round trip. -/
theorem Span.roundTrips : RoundTrips Span.toJson Span.ofJson? (fun _ => True) [] :=
  .of (fun span _ _ => ofJson?_toJson span) (fun _ _ _ => trivial)
    (takesNullForMissing_nil _)

/-- Parameters make the round trip. -/
theorem Parameter.roundTrips :
    RoundTrips Parameter.toJson Parameter.ofJson? (fun _ => True) ["type_annotation", "default_value"] :=
  .of (fun value _ _ => ofJson?_toJson value) (fun _ _ _ => trivial)
    (takesNullForMissing_of_record fun record filled fills => by
      simp [fills.field?, fills.optionalField?])

/-- Functions make the round trip. -/
theorem Function.roundTrips :
    RoundTrips Function.toJson Function.ofJson? (fun _ => True) ["return_type_hint", "docstring"] := by
  refine .of (fun value _ _ => ofJson?_toJson value) (fun _ _ _ => trivial) ?_
  refine takesNullForMissing_of_record fun record filled fills => ?_
  repeat first
    | refine fills.bind_field? (by decide) fun _ => ?_
    | refine fills.bind_optionalField? fun _ => ?_
  rfl

/-- Attributes make the round trip. -/
theorem Attribute.roundTrips :
    RoundTrips Attribute.toJson Attribute.ofJson? (fun _ => True) ["type_annotation", "default_value_text"] :=
  .of (fun value _ _ => ofJson?_toJson value) (fun _ _ _ => trivial)
    (takesNullForMissing_of_record fun record filled fills => by
      simp [fills.field?, fills.optionalField?])

/-- Classes make the round trip. -/
theorem Class.roundTrips :
    RoundTrips Class.toJson Class.ofJson? (fun _ => True) ["docstring"] := by
  refine .of (fun value _ _ => ofJson?_toJson value) (fun _ _ _ => trivial) ?_
  refine takesNullForMissing_of_record fun record filled fills => ?_
  repeat first
    | refine fills.bind_field? (by decide) fun _ => ?_
    | refine fills.bind_optionalField? fun _ => ?_
  rfl

/-- Imported names make the round trip. -/
theorem ImportedName.roundTrips :
    RoundTrips ImportedName.toJson ImportedName.ofJson? (fun _ => True) ["alias"] :=
  .of (fun value _ _ => ofJson?_toJson value) (fun _ _ _ => trivial)
    (takesNullForMissing_of_record fun record filled fills => by
      simp [fills.field?, fills.optionalField?])

/-- Imports make the round trip. -/
theorem Import.roundTrips :
    RoundTrips Import.toJson Import.ofJson? (fun _ => True) ["relative_level"] :=
  .of (fun value _ _ => ofJson?_toJson value) (fun _ _ _ => trivial)
    (takesNullForMissing_of_record fun record filled fills => by
      simp [fills.field?, fills.optionalField?])

/-- Parse errors make the round trip. -/
theorem ParseError.roundTrips :
    RoundTrips ParseError.toJson ParseError.ofJson? (fun _ => True) [] :=
  .of (fun error _ _ => ofJson?_toJson error) (fun _ _ _ => trivial)
    (takesNullForMissing_nil _)

/-- Models whose variables are in order and each there once make the round trip. -/
theorem Model.roundTrips :
    RoundTrips Model.toJson Model.ofJson? Model.IsValid ["docstring", "encoding"] := by
  refine .of (fun _ valid _ => ofJson?_toJson valid) (fun _ _ => isValid_of_ofJson?) ?_
  refine takesNullForMissing_of_record fun record filled fills => ?_
  repeat first
    | refine fills.bind_field? (by decide) fun _ => ?_
    | refine fills.bind_optionalField? fun _ => ?_
  rfl

end SourceFacts.Facts
