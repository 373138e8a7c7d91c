import SourceFacts.Json.Fields
import SourceFacts.Proofs.Json.Canonical

namespace SourceFacts.Json

/-!
# Records are read back

What a record is read from does not depend on the order of its fields: they may stand as
they were written or sorted by name. A reader is given the fields with their values by a
look-up, and that finds the same in both.
-/

/-! ## Canonical forms are canonical -/

/-- What is among fields after one was put in its place is that one or was there before. -/
theorem mem_insertField
    {name : String}
    {value : Json}
    {field : String × Json}
    {done : List (String × Json)}
    (member : field ∈ insertField name value done) :
    field = (name, value) ∨ field ∈ done := by
  induction done with
  | nil =>
      exact Or.inl (List.mem_singleton.mp member)
  | cons first rest inductionHypothesis =>
      rw [insertField] at member
      split at member
      · exact (List.mem_cons.mp member).imp_right (List.mem_cons_of_mem _)
      · split at member
        · exact List.mem_cons.mp member
        · rcases List.mem_cons.mp member with isFirst | later
          · exact Or.inr (List.mem_cons.mpr (Or.inl isFirst))
          · exact (inductionHypothesis later).imp_right (List.mem_cons_of_mem _)

mutual

/-- The canonical form of a value is in canonical form. -/
theorem canonical_canonical (value : Json) : value.canonical.canonical = value.canonical := by
  cases value with
  | null | bool | integer | double | string =>
      rfl
  | array items =>
      rw [canonical, canonical, canonicalItems_canonicalItems items]
  | object fields =>
      rw [canonical, canonical_object_iff]
      refine ⟨sorted_canonicalFields fields List.Pairwise.nil, ?_⟩
      exact canonical_of_mem_canonicalFields fields fun field member =>
        absurd member List.not_mem_nil

/-- The canonical forms of values are in canonical form. -/
theorem canonicalItems_canonicalItems (items : List Json) :
    canonicalItems (canonicalItems items) = canonicalItems items := by
  cases items with
  | nil =>
      rfl
  | cons item rest =>
      rw [canonicalItems, canonicalItems, canonical_canonical item,
        canonicalItems_canonicalItems rest]

/-- The values of fields that were put in their places are in canonical form. -/
theorem canonical_of_mem_canonicalFields
    (fields : List (String × Json))
    {done : List (String × Json)}
    (areCanonical : ∀ field ∈ done, field.2.canonical = field.2) :
    ∀ field ∈ canonicalFields fields done, field.2.canonical = field.2 := by
  cases fields with
  | nil =>
      exact areCanonical
  | cons field rest =>
      obtain ⟨name, value⟩ := field
      rw [canonicalFields]
      refine canonical_of_mem_canonicalFields rest ?_
      intro other member
      rcases mem_insertField member with rfl | before
      · exact canonical_canonical value
      · exact areCanonical other before

end

/-! ## Looking up -/

/-- A name is found exactly if there is a field of that name. -/
theorem lookup?_eq_none_iff
    {name : String}
    {fields : List (String × Json)} :
    lookup? name fields = none ↔ name ∉ fields.map (·.1) := by
  induction fields with
  | nil =>
      simp [lookup?]
  | cons field rest inductionHypothesis =>
      rw [lookup?, List.map_cons, List.mem_cons, not_or]
      split
      · rename_i same
        simp [same]
      · rename_i differs
        rw [inductionHypothesis]
        exact ⟨fun missing => ⟨Ne.symm differs, missing⟩, fun missing => missing.2⟩

/-- Every field is found if all names are different. -/
theorem lookup?_of_mem
    {field : String × Json}
    {fields : List (String × Json)}
    (distinct : (fields.map (·.1)).Nodup)
    (member : field ∈ fields) :
    lookup? field.1 fields = some field.2 := by
  induction fields with
  | nil =>
      cases member
  | cons first rest inductionHypothesis =>
      rw [List.map_cons, List.nodup_cons] at distinct
      rcases List.mem_cons.mp member with rfl | later
      · rw [lookup?, if_pos rfl]
      · have differs : first.1 ≠ field.1 := fun same =>
          distinct.1 (same ▸ List.mem_map_of_mem later)
        rw [lookup?, if_neg differs, inductionHypothesis distinct.2 later]

/-- What is found in two lists is found in the first of them, or else in the second. -/
theorem lookup?_append
    (name : String)
    (before after : List (String × Json)) :
    lookup? name (before ++ after) = (lookup? name before).or (lookup? name after) := by
  induction before with
  | nil =>
      rfl
  | cons field rest inductionHypothesis =>
      rw [List.cons_append, lookup?, lookup?]
      split
      · rfl
      · exact inductionHypothesis

/-- A field that is left out unless it has a value is found if it has one. -/
theorem lookup?_present
    (name other : String)
    (write : α → Json)
    (value? : Option α) :
    lookup? name (present other write value?) =
      if other = name then value?.map write else none := by
  cases value? <;> simp [present, lookup?]

/-- Under the name of a field that was put in its place that one is found, and under other
names what was found before. -/
theorem lookup?_insertField
    (name other : String)
    (value : Json)
    (done : List (String × Json)) :
    lookup? name (insertField other value done) =
      if other = name then some value else lookup? name done := by
  induction done with
  | nil =>
      rfl
  | cons first rest inductionHypothesis =>
      rw [insertField]
      split
      · rename_i same
        rw [lookup?, lookup?, ← same]
        split <;> rfl
      · rename_i differs
        split
        · rw [lookup?]
        · rw [lookup?, inductionHypothesis, lookup?]
          by_cases isFirst : first.1 = name
          · have notOther : other ≠ name := fun same => differs (same.trans isFirst.symm)
            rw [if_pos isFirst, if_neg notOther, if_pos isFirst]
          · rw [if_neg isFirst, if_neg isFirst]

/-- In fields that were put in their places the canonical forms of their values are found. -/
theorem lookup?_canonicalFields
    (name : String)
    {fields : List (String × Json)}
    (done : List (String × Json))
    (distinct : (fields.map (·.1)).Nodup) :
    lookup? name (canonicalFields fields done) =
      ((lookup? name fields).map canonical).or (lookup? name done) := by
  induction fields generalizing done with
  | nil =>
      rfl
  | cons field rest inductionHypothesis =>
      obtain ⟨fieldName, value⟩ := field
      rw [List.map_cons, List.nodup_cons] at distinct
      rw [canonicalFields, inductionHypothesis _ distinct.2, lookup?_insertField, lookup?]
      by_cases isField : fieldName = name
      · have notLater : lookup? name rest = none :=
          lookup?_eq_none_iff.mpr (isField ▸ distinct.1)
        rw [notLater, if_pos isField, if_pos isField]
        rfl
      · rw [if_neg isField, if_neg isField]

/-- Where only the fields of some names are kept, these are found as before. -/
theorem lookup?_filter
    (keep : String → Bool)
    (name : String)
    (fields : List (String × Json)) :
    lookup? name (fields.filter fun field => keep field.1) =
      if keep name then lookup? name fields else none := by
  induction fields with
  | nil =>
      simp [lookup?]
  | cons field rest inductionHypothesis =>
      rw [List.filter_cons, lookup?]
      by_cases isName : field.1 = name
      · rw [isName]
        cases isKept : keep name with
        | true =>
            rw [if_pos rfl, lookup?, if_pos isName, if_pos rfl, if_pos rfl]
        | false =>
            simp [inductionHypothesis, isKept]
      · rw [if_neg isName]
        split
        · rw [lookup?, if_neg isName, inductionHypothesis]
        · exact inductionHypothesis

/-- Without the fields of one name, the others are found as before. -/
theorem lookup?_filter_ne
    (name tag : String)
    (fields : List (String × Json)) :
    lookup? name (fields.filter (·.1 ≠ tag)) =
      if name = tag then none else lookup? name fields := by
  rw [lookup?_filter fun other => decide (other ≠ tag)]
  by_cases isTag : name = tag <;> simp [isTag]

/-- Fields of one name are there once if all names are different. -/
theorem filter_eq_singleton
    {tag : String}
    {value : Json}
    {fields : List (String × Json)}
    (distinct : (fields.map (·.1)).Nodup)
    (found : lookup? tag fields = some value) :
    fields.filter (·.1 = tag) = [(tag, value)] := by
  induction fields with
  | nil =>
      cases found
  | cons field rest inductionHypothesis =>
      obtain ⟨name, first⟩ := field
      rw [List.map_cons, List.nodup_cons] at distinct
      rw [lookup?] at found
      rw [List.filter_cons]
      split at found
      · rename_i isTag
        have noneLater : rest.filter (·.1 = tag) = [] := by
          rw [List.filter_eq_nil_iff]
          intro other member same
          refine distinct.1 (List.mem_map.mpr ⟨other, member, ?_⟩)
          exact (of_decide_eq_true same).trans isTag.symm
        obtain rfl := Option.some.inj found
        rw [if_pos (decide_eq_true isTag), noneLater, isTag]
      · rename_i notTag
        rw [if_neg (by simp [notTag]), inductionHypothesis distinct.2 found]

/-! ## Arrangements -/

/-- How the fields of objects stand. -/
inductive Arrangement where
  /-- In the order in which they were written. -/
  | written
  /-- Sorted by name, in every object. -/
  | sorted

namespace Arrangement

variable (arrangement : Arrangement)

/-- A value in an arrangement. -/
def of : Arrangement → Json → Json
  | .written, value => value
  | .sorted, value => value.canonical

/-- The absence of a value is the same in every arrangement. -/
@[simp] theorem of_null : arrangement.of .null = .null := by
  cases arrangement <;> rfl

/-- Truth values are the same in every arrangement. -/
@[simp] theorem of_bool (value : Bool) : arrangement.of (.bool value) = .bool value := by
  cases arrangement <;> rfl

/-- Whole numbers are the same in every arrangement. -/
@[simp] theorem of_integer (value : Integer) :
    arrangement.of (.integer value) = .integer value := by
  cases arrangement <;> rfl

/-- Numbers are the same in every arrangement. -/
@[simp] theorem of_double (value : Number.Double) :
    arrangement.of (.double value) = .double value := by
  cases arrangement <;> rfl

/-- Texts are the same in every arrangement. -/
@[simp] theorem of_string (text : String) : arrangement.of (.string text) = .string text := by
  cases arrangement <;> rfl

/-- Words are the same in every arrangement. -/
@[simp] theorem of_word (value : UInt64) : arrangement.of (.word value) = .word value :=
  arrangement.of_integer _

/-- Words of 32 bits are the same in every arrangement. -/
@[simp] theorem of_halfWord (value : UInt32) :
    arrangement.of (.halfWord value) = .halfWord value :=
  arrangement.of_integer _

/-- Natural numbers are the same in every arrangement. -/
@[simp] theorem of_natural (value : Nat) : arrangement.of (.natural value) = .natural value :=
  arrangement.of_integer _

/-- An array is arranged item by item. -/
theorem of_array (items : List Json) :
    arrangement.of (.array items) = .array (items.map arrangement.of) := by
  have areItems : ∀ items : List Json, canonicalItems items = items.map canonical := by
    intro items
    induction items with
    | nil =>
        rfl
    | cons item rest inductionHypothesis =>
        rw [canonicalItems, inductionHypothesis, List.map_cons]
  cases arrangement with
  | written =>
      exact congrArg Json.array (List.map_id items).symm
  | sorted =>
      exact congrArg Json.array (areItems items)

/-- Texts in an array are the same in every arrangement. -/
@[simp] theorem of_strings (texts : List String) :
    arrangement.of (.strings texts) = .strings texts := by
  simp [strings, of_array]

/-- The canonical form is the same in every arrangement. -/
@[simp] theorem canonical_of (value : Json) : (arrangement.of value).canonical = value.canonical := by
  cases arrangement with
  | written =>
      rfl
  | sorted =>
      exact canonical_canonical value

/-- In a record the arranged values of fields are found under their names. -/
def Finds (fields record : List (String × Json)) : Prop :=
  ∀ name, lookup? name record = (lookup? name fields).map arrangement.of

/-- A record that shows fields: each name is there once, and their values are found. -/
structure Shows (fields record : List (String × Json)) : Prop where
  distinct : (record.map (·.1)).Nodup
  finds : arrangement.Finds fields record

variable {arrangement}

/-- An object is arranged to a record that shows its fields. -/
theorem exists_shows
    (arrangement : Arrangement)
    {fields : List (String × Json)}
    (distinct : (fields.map (·.1)).Nodup) :
    ∃ record, arrangement.of (.object fields) = .object record ∧
      arrangement.Shows fields record := by
  cases arrangement with
  | written =>
      refine ⟨fields, rfl, distinct, fun name => ?_⟩
      exact (Option.map_id' (x := lookup? name fields)).symm
  | sorted =>
      have sorted : ((canonicalFields fields []).map (·.1)).Pairwise (· < ·) :=
        sorted_canonicalFields fields List.Pairwise.nil
      have differs : ∀ {first second : String}, first < second → first ≠ second := by
        rintro first _ before rfl
        exact String.lt_irrefl first before
      refine ⟨canonicalFields fields [], rfl, sorted.imp differs, fun name => ?_⟩
      rw [lookup?_canonicalFields name [] distinct]
      exact Option.or_none

/-- A record that shows fields has no names but theirs. -/
theorem Shows.mem_names
    {fields record : List (String × Json)}
    (isShown : arrangement.Shows fields record)
    {field : String × Json}
    (member : field ∈ record) :
    field.1 ∈ fields.map (·.1) := by
  refine Classical.byContradiction fun missing => ?_
  have notFound : lookup? field.1 record = none := by
    rw [isShown.finds, lookup?_eq_none_iff.mpr missing]
    rfl
  exact lookup?_eq_none_iff.mp notFound (List.mem_map_of_mem member)

/-- A record whose names are expected is taken as it is. -/
theorem Shows.asRecord?
    {names : List String}
    {fields record : List (String × Json)}
    (isShown : arrangement.Shows fields record)
    (expected : ∀ name ∈ fields.map (·.1), name ∈ names) :
    (Json.object record).asRecord? names = some record := by
  have allKnown : record.filter (fun field => names.contains field.1) = record := by
    rw [List.filter_eq_self]
    intro field member
    exact List.contains_iff_mem.mpr (expected _ (isShown.mem_names member))
  rw [Json.asRecord?]
  simp only [allKnown]
  rw [if_pos isShown.distinct]

/-- What an arranged object with further fields is taken for, as far as look-ups show it. -/
theorem exists_record_among
    (arrangement : Arrangement)
    {json : Json}
    {names : List String}
    {fields : List (String × Json)}
    (others : List (String × Json))
    (isObject : json = .object (others ++ fields))
    (expected : (fields.map (·.1)).Sublist names)
    (distinct : names.Nodup)
    (othersDistinct : (others.map (·.1)).Nodup)
    (unexpected : ∀ name ∈ others.map (·.1), name ∉ names) :
    ∃ record, (arrangement.of json).asRecord? names = some record ∧
      arrangement.Finds fields record := by
  subst isObject
  have allDistinct : ((others ++ fields).map (·.1)).Nodup := by
    rw [List.map_append, List.nodup_append]
    refine ⟨othersDistinct, distinct.sublist expected, ?_⟩
    rintro name isOther _ isField rfl
    exact unexpected name isOther (expected.subset isField)
  obtain ⟨all, isAll, isShown⟩ := arrangement.exists_shows allDistinct
  refine ⟨all.filter fun field => names.contains field.1, ?_, fun name => ?_⟩
  · rw [isAll, asRecord?, if_pos (isShown.distinct.sublist (List.filter_sublist.map _))]
  · rw [lookup?_filter fun name => names.contains name]
    by_cases isName : name ∈ names
    · have notOther : name ∉ others.map (·.1) := fun isOther => unexpected name isOther isName
      rw [if_pos (List.contains_iff_mem.mpr isName), isShown.finds, lookup?_append,
        lookup?_eq_none_iff.mpr notOther, Option.none_or]
    · have notField : name ∉ fields.map (·.1) := fun isField =>
        isName (expected.subset isField)
      rw [if_neg (mt List.contains_iff_mem.mp isName), lookup?_eq_none_iff.mpr notField]
      rfl

/-- What an arranged object is taken for, as far as look-ups show it. -/
theorem exists_record
    (arrangement : Arrangement)
    {json : Json}
    {names : List String}
    {fields : List (String × Json)}
    (isObject : json = .object fields)
    (expected : (fields.map (·.1)).Sublist names)
    (distinct : names.Nodup) :
    ∃ record, (arrangement.of json).asRecord? names = some record ∧
      arrangement.Finds fields record :=
  arrangement.exists_record_among [] isObject expected distinct .nil (by simp)

/-- The case that an arranged record names, and what the rest of it is taken for. -/
theorem exists_tagged
    (arrangement : Arrangement)
    {tag name : String}
    {json : Json}
    {names : List String}
    {fields : List (String × Json)}
    (isObject : json = .object ((tag, .string name) :: fields))
    (expected : (fields.map (·.1)).Sublist names)
    (distinct : (tag :: names).Nodup) :
    ∃ content record,
      (arrangement.of json).tagged? tag = some (name, content) ∧
      content.asRecord? names = some record ∧
      arrangement.Finds fields record := by
  subst isObject
  have notTag : tag ∉ fields.map (·.1) := fun member =>
    (List.nodup_cons.mp distinct).1 (expected.subset member)
  have fieldsDistinct : (((tag, Json.string name) :: fields).map (·.1)).Nodup :=
    distinct.sublist (expected.cons_cons tag)
  obtain ⟨all, isAll, isShown⟩ := arrangement.exists_shows fieldsDistinct
  have tagFound : lookup? tag all = some (.string name) := by
    rw [isShown.finds, lookup?, if_pos rfl, Option.map_some, of_string]
  have rest : arrangement.Shows fields (all.filter (·.1 ≠ tag)) := by
    refine ⟨isShown.distinct.sublist (List.filter_sublist.map _), fun other => ?_⟩
    rw [lookup?_filter_ne, isShown.finds, lookup?]
    by_cases isTag : other = tag
    · subst isTag
      rw [if_pos rfl, lookup?_eq_none_iff.mpr notTag]
      rfl
    · rw [if_neg isTag, if_neg (Ne.symm isTag)]
  refine ⟨.object (all.filter (·.1 ≠ tag)), all.filter (·.1 ≠ tag), ?_, ?_, rest.finds⟩
  · rw [isAll, tagged?, filter_eq_singleton isShown.distinct tagFound]
  · exact rest.asRecord? fun other member => expected.subset member

/-- What is read of a field is read of the arranged value of its name. -/
theorem Finds.field?
    {fields record : List (String × Json)}
    (finds : arrangement.Finds fields record)
    (read : Json → Option α)
    (name : String) :
    Json.field? read name record =
      (lookup? name fields).bind fun value => read (arrangement.of value) := by
  rw [Json.field?, finds name]
  cases lookup? name fields <;> rfl

/-- What is read of an optional field is read of the arranged value of its name, if there
is one. -/
theorem Finds.optionalField?
    {fields record : List (String × Json)}
    (finds : arrangement.Finds fields record)
    (read : Json → Option α)
    (name : String) :
    Json.optionalField? read name record =
      (lookup? name fields).elim (some none) fun value =>
        (arrangement.of value).asOption? read := by
  rw [Json.optionalField?, finds name]
  cases lookup? name fields <;> rfl

end Arrangement

/-- What is done with the value of a name, field by field. -/
@[simp] theorem bind_lookup?_cons
    (name other : String)
    (value : Json)
    (rest : List (String × Json))
    (read : Json → Option α) :
    (lookup? name ((other, value) :: rest)).bind read =
      if other = name then read value else (lookup? name rest).bind read := by
  rw [lookup?]
  split <;> rfl

/-- What is done with the value of a name if there is one, field by field. -/
@[simp] theorem elim_lookup?_cons
    (name other : String)
    (value : Json)
    (rest : List (String × Json))
    (missing : β)
    (read : Json → β) :
    (lookup? name ((other, value) :: rest)).elim missing read =
      if other = name then read value else (lookup? name rest).elim missing read := by
  rw [lookup?]
  split <;> rfl

/-- Reading goes on with what was read first. -/
theorem goesOn
    {value? : Option α}
    {value : α}
    {next : α → Option β}
    {result : Option β}
    (isRead : value? = some value)
    (isResult : next value = result) :
    (value? >>= next) = result := by
  rw [isRead, Option.bind_eq_bind, Option.bind_some, isResult]

/-! ## Values that are read back -/

variable {arrangement : Arrangement}

/-- A natural number below a bound is read as such. -/
theorem asNatBelow?_of_lt
    {bound value : Nat}
    {number : Integer}
    (isValue : number.value = value)
    (below : value < bound) :
    (Json.integer number).asNatBelow? bound = some value := by
  simp [asNatBelow?, asInt?, isValue, below]

/-- A word is read back. -/
@[simp] theorem asWord?_word (value : UInt64) : (Json.word value).asWord? = some value := by
  have natural : (Json.word value).asNatBelow? UInt64.size = some value.toNat :=
    asNatBelow?_of_lt rfl value.toNat_lt_size
  rw [asWord?, natural, Option.map_some, UInt64.ofNat_toNat]

/-- A word of 32 bits is read back. -/
@[simp] theorem asHalfWord?_halfWord (value : UInt32) :
    (Json.halfWord value).asHalfWord? = some value := by
  have natural : (Json.halfWord value).asNatBelow? UInt32.size = some value.toNat :=
    asNatBelow?_of_lt (congrArg Int.ofNat value.toNat_toUInt64) value.toNat_lt_size
  rw [asHalfWord?, natural, Option.map_some, UInt32.ofNat_toNat]

/-- A text is read back. -/
@[simp] theorem asString?_string (text : String) : (Json.string text).asString? = some text := rfl

/-- A truth value is read back. -/
@[simp] theorem asBool?_bool (value : Bool) : (Json.bool value).asBool? = some value := rfl

/-- A number is read back. -/
@[simp] theorem asDouble?_double (value : Number.Double) :
    (Json.double value).asDouble? = some value := rfl

/-- A text names a case. -/
@[simp] theorem asCase?_string (text : String) : (Json.string text).asCase? = some text := rfl

/-- Items are read back if each of them is. -/
theorem asList?_array
    (arrangement : Arrangement)
    {read : Json → Option α}
    {write : α → Json}
    (values : List α)
    (back : ∀ value ∈ values, read (arrangement.of (write value)) = some value) :
    (arrangement.of (.array (values.map write))).asList? read = some values := by
  rw [Arrangement.of_array, asList?]
  induction values with
  | nil =>
      rfl
  | cons value rest inductionHypothesis =>
      rw [List.forall_mem_cons] at back
      rw [List.map_cons, List.map_cons, List.mapM_cons, back.1, inductionHypothesis back.2]
      rfl

/-- Texts are read back. -/
@[simp] theorem asList?_strings (texts : List String) :
    (Json.strings texts).asList? asString? = some texts :=
  asList?_array .written texts fun text _ => asString?_string text

/-- A value that may be null is read as what it is read as if it is not null. -/
theorem asOption?_of_some
    {read : Json → Option α}
    {json : Json}
    {value : α}
    (rejectsNull : read .null = none)
    (isRead : read json = some value) :
    json.asOption? read = some (some value) := by
  cases json with
  | null =>
      rw [rejectsNull] at isRead
      cases isRead
  | bool | integer | double | string | array | object =>
      rw [asOption?, isRead, Option.map_some]
      exact Json.noConfusion

/-- A value that may be absent is read back if it is when it is there. -/
theorem asOption?_orNull
    {read : Json → Option α}
    {write : α → Json}
    {value? : Option α}
    (rejectsNull : read .null = none)
    (back : ∀ value, value? = some value → read (arrangement.of (write value)) = some value) :
    (arrangement.of (orNull write value?)).asOption? read = some value? := by
  cases value? with
  | none =>
      rw [orNull, Arrangement.of_null, asOption?]
  | some value =>
      exact asOption?_of_some rejectsNull (back value rfl)

/-- A text that may be absent is read back. -/
@[simp] theorem asOption?_orNull_string (text? : Option String) :
    (arrangement.of (orNull .string text?)).asOption? asString? = some text? :=
  asOption?_orNull rfl fun text _ => by rw [Arrangement.of_string, asString?_string]

/-- A field that is left out unless it has a value is read back if the value is. -/
theorem Arrangement.Finds.optionalField?_of_lookup?
    {fields record : List (String × Json)}
    (finds : arrangement.Finds fields record)
    {read : Json → Option α}
    {name : String}
    (write : α → Json)
    (value? : Option α)
    (found : lookup? name fields = value?.map write)
    (rejectsNull : read .null = none)
    (back : ∀ value, value? = some value → read (arrangement.of (write value)) = some value) :
    Json.optionalField? read name record = some value? := by
  rw [finds.optionalField?, found]
  cases value? with
  | none =>
      rfl
  | some value =>
      exact asOption?_of_some rejectsNull (back value rfl)

/-- An optional field that has a value was read from one. -/
theorem exists_read_of_optionalField?
    {read : Json → Option α}
    {name : String}
    {fields : List (String × Json)}
    {value : α}
    (isRead : optionalField? read name fields = some (some value)) :
    ∃ json, read json = some value := by
  rw [optionalField?] at isRead
  split at isRead
  · cases isRead
  · rename_i json _
    rw [asOption?.eq_def] at isRead
    split at isRead
    · cases isRead
    · obtain ⟨other, isOther, same⟩ := Option.map_eq_some_iff.mp isRead
      exact ⟨json, isOther.trans same⟩

/-! ## Fields that are null -/

/-- A record in which some optional fields that are missing in another are there and null. -/
def Fills (optional : List String) (record filled : List (String × Json)) : Prop :=
  ∀ name, lookup? name filled = lookup? name record ∨
    (name ∈ optional ∧ lookup? name record = none ∧ lookup? name filled = some .null)

/-- A field that must be there is not filled in. -/
theorem Fills.field?
    {optional : List String}
    {record filled : List (String × Json)}
    (fills : Fills optional record filled)
    (read : Json → Option α)
    {name : String}
    (required : name ∉ optional) :
    Json.field? read name filled = Json.field? read name record := by
  rcases fills name with same | ⟨isOptional, -, -⟩
  · rw [Json.field?, Json.field?, same]
  · exact absurd isOptional required

/-- An optional field is read alike, whether it is missing or null. -/
theorem Fills.optionalField?
    {optional : List String}
    {record filled : List (String × Json)}
    (fills : Fills optional record filled)
    (read : Json → Option α)
    (name : String) :
    Json.optionalField? read name filled = Json.optionalField? read name record := by
  rcases fills name with same | ⟨-, missing, isNull⟩
  · rw [Json.optionalField?, Json.optionalField?, same]
  · rw [Json.optionalField?, Json.optionalField?, missing, isNull]
    rfl

/-- Reading goes on alike after a field that must be there. -/
theorem Fills.bind_field?
    {optional : List String}
    {record filled : List (String × Json)}
    (fills : Fills optional record filled)
    {read : Json → Option α}
    {name : String}
    {next other : α → Option β}
    (required : name ∉ optional)
    (alike : ∀ value, next value = other value) :
    (Json.field? read name filled >>= next) = (Json.field? read name record >>= other) := by
  rw [fills.field? read required, funext alike]

/-- Reading goes on alike after an optional field. -/
theorem Fills.bind_optionalField?
    {optional : List String}
    {record filled : List (String × Json)}
    (fills : Fills optional record filled)
    {read : Json → Option α}
    {name : String}
    {next other : Option α → Option β}
    (alike : ∀ value, next value = other value) :
    (Json.optionalField? read name filled >>= next) =
      (Json.optionalField? read name record >>= other) := by
  rw [fills.optionalField? read name, funext alike]

/-- A field that is null among others fills in the one that is missing there. -/
theorem fills_insert_null
    {optional : List String}
    {name : String}
    {before after : List (String × Json)}
    (isOptional : name ∈ optional)
    (missing : name ∉ (before ++ after).map (·.1)) :
    Fills optional (before ++ after) (before ++ (name, .null) :: after) := by
  intro other
  rw [lookup?_append, lookup?_append, lookup?]
  rw [List.map_append, List.mem_append, not_or] at missing
  by_cases isName : name = other
  · subst isName
    right
    rw [if_pos rfl, lookup?_eq_none_iff.mpr missing.1, lookup?_eq_none_iff.mpr missing.2]
    exact ⟨isOptional, rfl, rfl⟩
  · left
    rw [if_neg isName]

/-- A reader that takes an optional field that is null for one that is missing. -/
def TakesNullForMissing (read : Json → Option α) (optional : List String) : Prop :=
  ∀ name ∈ optional, ∀ before after : List (String × Json),
    name ∉ (before ++ after).map (·.1) →
      read (.object (before ++ (name, .null) :: after)) = read (.object (before ++ after))

/-- A reader without optional fields has none that could be null. -/
theorem takesNullForMissing_nil (read : Json → Option α) : TakesNullForMissing read [] :=
  fun _ member => absurd member List.not_mem_nil

/-- A reader of records does so if what it builds does not depend on such fields. -/
theorem takesNullForMissing_of_record
    {names optional : List String}
    {build : List (String × Json) → Option α}
    (same : ∀ record filled, Fills optional record filled → build filled = build record) :
    TakesNullForMissing (fun json => (json.asRecord? names).bind build) optional := by
  intro name isOptional before after missing
  have notKept : name ∉ ((before ++ after).filter fun field =>
      names.contains field.1).map (·.1) :=
    fun member => missing ((List.filter_sublist.map _).subset member)
  simp only [asRecord?, List.filter_append, List.filter_cons] at notKept ⊢
  generalize before.filter (fun field => names.contains field.1) = keptBefore at notKept ⊢
  generalize after.filter (fun field => names.contains field.1) = keptAfter at notKept ⊢
  by_cases isExpected : names.contains name = true
  · have alsoDistinct : ((keptBefore ++ (name, Json.null) :: keptAfter).map (·.1)).Nodup ↔
        ((keptBefore ++ keptAfter).map (·.1)).Nodup := by
      rw [(List.perm_middle.map _).nodup_iff, List.map_cons, List.nodup_cons]
      exact and_iff_right notKept
    rw [if_pos isExpected]
    by_cases distinct : ((keptBefore ++ keptAfter).map (·.1)).Nodup
    · rw [if_pos distinct, if_pos (alsoDistinct.mpr distinct)]
      exact same _ _ (fills_insert_null isOptional notKept)
    · rw [if_neg distinct, if_neg (mt alsoDistinct.mp distinct)]
  · rw [if_neg isExpected]

/-! ## Round trips -/

/-- What is written is read back, in every arrangement, and only such values are read. So
what is read and written again stays as it is then. -/
structure RoundTrips
    (write : α → Json)
    (read : Json → Option α)
    (IsValid : α → Prop)
    (optional : List String) : Prop where
  back : ∀ value, IsValid value →
    ∀ arrangement : Arrangement, read (arrangement.of (write value)) = some value
  accepted : ∀ json value, read json = some value → IsValid value
  idempotent : ∀ json written, (read json).map write = some written →
    ∀ arrangement : Arrangement, (read (arrangement.of written)).map write = some written
  nulls : TakesNullForMissing read optional

/-- What is read and written again stays so if what is written is read back and only such
values are read. -/
theorem RoundTrips.of
    {write : α → Json}
    {read : Json → Option α}
    {IsValid : α → Prop}
    {optional : List String}
    (back : ∀ value, IsValid value →
      ∀ arrangement : Arrangement, read (arrangement.of (write value)) = some value)
    (accepted : ∀ json value, read json = some value → IsValid value)
    (nulls : TakesNullForMissing read optional) :
    RoundTrips write read IsValid optional := by
  refine ⟨back, accepted, ?_, nulls⟩
  intro json written isWritten arrangement
  obtain ⟨value, isRead, rfl⟩ := Option.map_eq_some_iff.mp isWritten
  rw [back value (accepted json value isRead), Option.map_some]

end SourceFacts.Json
