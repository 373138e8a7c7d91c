import Mathlib.Data.List.Nodup
import SourceFacts.Config.Document
import SourceFacts.Yaml.Value

namespace SourceFacts.Yaml

/-!
# Records in documents

The keys of the mappings that are read from a text, and the fields of records that they name.
-/

/-!
## Keys of mappings that are read

No mapping that is read from a text has two entries with the same key.
-/

/-- A value that was read from a text. -/
inductive IsRead : Value → Prop where
  /-- The value of no document at all. -/
  | nothing : IsRead .null
  | node {node : Node} {nesting : Nat} {value : Value}
      (hasValue : node.value? nesting = some value) : IsRead value

/-- The value of a text was read from it. -/
theorem isRead_of_parse?
    {text : String}
    {value : Value}
    (parsed : parse? text = some value) :
    IsRead value := by
  rw [parse?, Option.bind_eq_bind, Option.bind_eq_some_iff] at parsed
  obtain ⟨tokens, _, parsed⟩ := parsed
  rw [Option.bind_eq_bind, Option.bind_eq_some_iff] at parsed
  obtain ⟨node?, _, parsed⟩ := parsed
  cases node? with
  | none =>
      cases parsed
      exact .nothing
  | some node =>
      exact .node parsed

/-! ### Scalars -/

/-- A value that holds other values. -/
def Value.IsCollection : Value → Prop
  | .sequence _ | .mapping _ => True
  | _ => False

/-- A plain scalar is no collection, whatever it looks like. -/
theorem PlainKind.not_isCollection
    {kind : PlainKind}
    {text : String}
    {value : Value}
    (hasValue : kind.value? text = some value) :
    ¬ value.IsCollection := by
  cases kind with
  | wideInteger =>
      simp [PlainKind.value?] at hasValue
  | _ =>
      cases hasValue
      exact id

/-- A scalar with a tag is no collection. -/
theorem not_isCollection_of_taggedValue?
    {text tag : String}
    {isPlain : Bool}
    {value : Value}
    (hasValue : taggedValue? text isPlain tag = some value) :
    ¬ value.IsCollection := by
  rw [taggedValue?] at hasValue
  split at hasValue
  · obtain ⟨flag, _, rfl⟩ := Option.map_eq_some_iff.mp hasValue
    exact id
  split at hasValue
  · split at hasValue
    · exact PlainKind.not_isCollection hasValue
    · simp at hasValue
  split at hasValue
  · obtain ⟨_, isScalar⟩ := Option.ite_none_right_eq_some.mp hasValue
    cases isScalar
    exact id
  split at hasValue
  · obtain ⟨_, isScalar⟩ := Option.ite_none_right_eq_some.mp hasValue
    cases isScalar
    exact id
  split at hasValue
  · exact PlainKind.not_isCollection hasValue
  · cases hasValue
    exact id

/-- A scalar is no collection. -/
theorem not_isCollection_scalar
    {text : String}
    {isPlain : Bool}
    {tag? : Option String}
    {nesting : Nat}
    {value : Value}
    (hasValue : (Node.scalar text isPlain tag?).value? nesting = some value) :
    ¬ value.IsCollection := by
  cases tag? with
  | some tag =>
      rw [Node.value?] at hasValue
      exact not_isCollection_of_taggedValue? hasValue
  | none =>
      rw [Node.value?] at hasValue
      split at hasValue
      · exact PlainKind.not_isCollection hasValue
      · cases hasValue
        exact id

/-! ### Collections -/

/-- Entries that were read, each with its own key. -/
structure AreKeyed (entries : List (Value × Value)) : Prop where
  distinct : entries.Pairwise fun first second => first.1.same second.1 = false
  areRead : ∀ entry ∈ entries, IsRead entry.2

/-- Entries are read after others, with other keys than these. -/
theorem areKeyed_of_entryValues?
    {nodes : List (Node × Node)}
    {nesting : Nat}
    {done entries : List (Value × Value)}
    (isRead : entryValues? nodes nesting done = some entries)
    (keyed : AreKeyed done) :
    AreKeyed entries := by
  induction nodes generalizing done with
  | nil =>
      rw [entryValues?] at isRead
      cases isRead
      exact keyed
  | cons entry rest inductionHypothesis =>
      obtain ⟨keyNode, valueNode⟩ := entry
      rw [entryValues?, Option.bind_eq_bind, Option.bind_eq_some_iff] at isRead
      obtain ⟨key, _, isRead⟩ := isRead
      split at isRead
      · simp at isRead
      · rename_i isNew
        rw [Option.bind_eq_some_iff] at isRead
        obtain ⟨value, hasValue, isRead⟩ := isRead
        refine inductionHypothesis isRead ⟨?_, ?_⟩
        · rw [List.pairwise_append]
          refine ⟨keyed.distinct, List.pairwise_singleton _ _, ?_⟩
          intro earlier member last isLast
          rw [List.mem_singleton] at isLast
          subst isLast
          rw [List.any_eq_true, not_exists] at isNew
          exact Bool.eq_false_iff.mpr fun same => isNew earlier ⟨member, same⟩
        · intro other member
          rcases List.mem_append.mp member with earlier | isLast
          · exact keyed.areRead other earlier
          · rw [List.mem_singleton] at isLast
            subst isLast
            exact .node hasValue

/-- The entries of a mapping that was read have their own keys. -/
theorem IsRead.areKeyed
    {entries : List (Value × Value)}
    (isRead : IsRead (.mapping entries)) :
    AreKeyed entries := by
  cases isRead with
  | @node node nesting _ hasValue =>
      cases node with
      | scalar text isPlain tag? =>
          exact absurd trivial (not_isCollection_scalar hasValue)
      | sequence items =>
          cases nesting with
          | zero =>
              simp [Node.value?] at hasValue
          | succ nesting =>
              rw [Node.value?, Option.map_eq_some_iff] at hasValue
              obtain ⟨_, _, isMapping⟩ := hasValue
              simp at isMapping
      | mapping nodes =>
          cases nesting with
          | zero =>
              simp [Node.value?] at hasValue
          | succ nesting =>
              rw [Node.value?, Option.map_eq_some_iff] at hasValue
              obtain ⟨values, areRead, isMapping⟩ := hasValue
              cases isMapping
              exact areKeyed_of_entryValues? areRead ⟨.nil, by simp⟩

/-- The items of a sequence were read. -/
theorem isRead_of_itemValues?
    {nodes : List Node}
    {nesting : Nat}
    {items : List Value}
    (areRead : itemValues? nodes nesting = some items) :
    ∀ item ∈ items, IsRead item := by
  induction nodes generalizing items with
  | nil =>
      rw [itemValues?] at areRead
      cases areRead
      simp
  | cons node rest inductionHypothesis =>
      rw [itemValues?, Option.bind_eq_bind, Option.bind_eq_some_iff] at areRead
      obtain ⟨first, hasValue, areRead⟩ := areRead
      rw [Option.bind_eq_bind, Option.bind_eq_some_iff] at areRead
      obtain ⟨others, othersRead, isAll⟩ := areRead
      cases isAll
      rw [List.forall_mem_cons]
      exact ⟨.node hasValue, inductionHypothesis othersRead⟩

/-- The items of a sequence that was read were read. -/
theorem IsRead.items
    {items : List Value}
    (isRead : IsRead (.sequence items)) :
    ∀ item ∈ items, IsRead item := by
  cases isRead with
  | @node node nesting _ hasValue =>
      cases node with
      | scalar text isPlain tag? =>
          exact absurd trivial (not_isCollection_scalar hasValue)
      | sequence nodes =>
          cases nesting with
          | zero =>
              simp [Node.value?] at hasValue
          | succ nesting =>
              rw [Node.value?, Option.map_eq_some_iff] at hasValue
              obtain ⟨values, areRead, isSequence⟩ := hasValue
              cases isSequence
              exact isRead_of_itemValues? areRead
      | mapping nodes =>
          cases nesting with
          | zero =>
              simp [Node.value?] at hasValue
          | succ nesting =>
              rw [Node.value?, Option.map_eq_some_iff] at hasValue
              obtain ⟨_, _, isSequence⟩ := hasValue
              simp at isSequence

/-- A key is the same as a text if it is that text. -/
theorem same_string_iff
    {key : Value}
    {text : String} :
    key.same (.string text) = true ↔ key = .string text := by
  cases key <;> simp [Value.same]

/-- An entry that is found by a text has it as its key. -/
theorem exists_of_find?_same
    {entries : List (Value × Value)}
    {text : String}
    {entry : Value × Value}
    (found : entries.find? (fun entry => entry.1.same (.string text)) = some entry) :
    ∃ value, entry = (.string text, value) ∧ (.string text, value) ∈ entries := by
  have member := List.mem_of_find?_eq_some found
  have same : entry.1.same (.string text) = true := by
    simpa using List.find?_some found
  obtain ⟨key, value⟩ := entry
  obtain rfl := same_string_iff.mp same
  exact ⟨value, rfl, member⟩

end SourceFacts.Yaml

namespace SourceFacts.Config

/-!
## Fields that are taken from records

What a record of a document holds in a field is taken over as it is, unless it is null, which
says as little as a missing field.
-/

open Yaml

/-! ### Records -/

/-- A record has a field: an entry of a mapping, or an item of a sequence of all values in
order. -/
inductive HasField (names : List String) : Value → String → Value → Prop where
  | entry
      {entries : List (Value × Value)}
      {name : String}
      {value : Value}
      (member : (.string name, value) ∈ entries) :
      HasField names (.mapping entries) name value
  | item
      {items : List Value}
      {name : String}
      {value : Value}
      (complete : items.length = names.length)
      (member : (name, value) ∈ names.zip items) :
      HasField names (.sequence items) name value

/-- Null has no fields. -/
theorem not_hasField_null
    {names : List String}
    {name : String}
    {value : Value} :
    ¬ HasField names .null name value := by
  rintro ⟨⟩

/-- The fields of a record are found by their names. -/
structure IsRecord (names : List String) (record : Value) (fields : List (String × Value)) :
    Prop where
  value?_iff : ∀ name value, value? name fields = some value ↔ HasField names record name value
  areRead : ∀ name value, HasField names record name value → IsRead value
  /-- There are no others. -/
  areKnown : ∀ entries, record = .mapping entries → ∀ entry ∈ entries,
    ∃ name ∈ names, entry.1 = .string name

/-- Entries are fields if their keys are among the names. -/
theorem fieldsOfEntries?_eq_some
    {names : List String}
    {entries : List (Value × Value)}
    {fields : List (String × Value)}
    (areFields : fieldsOfEntries? names entries = some fields) :
    entries = fields.map (fun field => (.string field.1, field.2)) ∧
      ∀ field ∈ fields, field.1 ∈ names := by
  induction entries generalizing fields with
  | nil =>
      cases areFields
      simp
  | cons entry rest inductionHypothesis =>
      obtain ⟨key, value⟩ := entry
      cases key with
      | string name =>
          rw [fieldsOfEntries?, Option.ite_none_right_eq_some, Option.map_eq_some_iff]
            at areFields
          obtain ⟨isKnown, others, othersRead, rfl⟩ := areFields
          obtain ⟨rfl, areKnown⟩ := inductionHypothesis othersRead
          rw [List.forall_mem_cons]
          exact ⟨rfl, List.contains_iff_mem.mp isKnown, areKnown⟩
      | _ =>
          simp [fieldsOfEntries?] at areFields

/-- A field is found if it is there, where no name comes twice. -/
theorem value?_eq_some_iff
    {fields : List (String × Value)}
    (distinct : (fields.map (·.1)).Nodup)
    {name : String}
    {value : Value} :
    value? name fields = some value ↔ (name, value) ∈ fields := by
  induction fields with
  | nil =>
      simp [value?]
  | cons field rest inductionHypothesis =>
      obtain ⟨other, otherValue⟩ := field
      rw [List.map_cons, List.nodup_cons] at distinct
      have ofRest := inductionHypothesis distinct.2
      by_cases same : other = name
      · subst same
        have absent : (other, value) ∉ rest :=
          fun member => distinct.1 (List.mem_map.mpr ⟨_, member, rfl⟩)
        simp [value?, absent, eq_comm]
      · have goesOn : value? name ((other, otherValue) :: rest) = value? name rest := by
          simp [value?, same]
        rw [goesOn, ofRest, List.mem_cons]
        simp [Ne.symm same]

/-- The fields that are read from a record are all that it has. -/
theorem isRecord_of_recordFields?
    {names : List String}
    (distinct : names.Nodup)
    {record : Value}
    (isRead : IsRead record)
    {fields : List (String × Value)}
    (areFields : recordFields? names record = some fields) :
    IsRecord names record fields := by
  cases record with
  | mapping entries =>
      obtain ⟨rfl, areKnown⟩ := fieldsOfEntries?_eq_some areFields
      have keyed := isRead.areKeyed
      have distinctNames : (fields.map (·.1)).Nodup := by
        rw [List.Nodup, List.pairwise_map]
        refine (List.pairwise_map.mp keyed.distinct).imp ?_
        intro first second differ same
        rw [same] at differ
        simp [Value.same] at differ
      refine ⟨?_, ?_, ?_⟩
      · intro name value
        rw [value?_eq_some_iff distinctNames]
        constructor
        · intro member
          exact .entry (List.mem_map.mpr ⟨_, member, rfl⟩)
        · rintro ⟨member⟩
          obtain ⟨field, isField, same⟩ := List.mem_map.mp member
          obtain ⟨isName, isValue⟩ := Prod.mk.inj same
          rwa [← Value.string.inj isName, ← isValue]
      · rintro name value ⟨member⟩
        exact keyed.areRead _ member
      · intro entries same entry member
        cases same
        obtain ⟨field, isField, rfl⟩ := List.mem_map.mp member
        exact ⟨field.1, areKnown field isField, rfl⟩
  | sequence items =>
      obtain ⟨complete, isZip⟩ := Option.ite_none_right_eq_some.mp areFields
      cases isZip
      have distinctNames : ((names.zip items).map (·.1)).Nodup := by
        rw [List.map_fst_zip (Nat.le_of_eq complete.symm)]
        exact distinct
      refine ⟨?_, ?_, nofun⟩
      · intro name value
        rw [value?_eq_some_iff distinctNames]
        constructor
        · exact .item complete
        · rintro (_ | ⟨_, member⟩)
          exact member
      · rintro name value (_ | ⟨_, member⟩)
        exact isRead.items value (List.of_mem_zip member).2
  | _ =>
      simp [recordFields?] at areFields

/-- A mapping without unknown keys has fields. -/
theorem exists_fieldsOfEntries?
    {names : List String}
    {entries : List (Value × Value)}
    (areKnown : ∀ entry ∈ entries, ∃ name ∈ names, entry.1 = .string name) :
    ∃ fields, fieldsOfEntries? names entries = some fields := by
  induction entries with
  | nil =>
      exact ⟨[], rfl⟩
  | cons entry rest inductionHypothesis =>
      rw [List.forall_mem_cons] at areKnown
      obtain ⟨⟨name, isKnown, isName⟩, othersKnown⟩ := areKnown
      obtain ⟨others, othersRead⟩ := inductionHypothesis othersKnown
      obtain ⟨key, value⟩ := entry
      subst isName
      refine ⟨(name, value) :: others, ?_⟩
      rw [fieldsOfEntries?, if_pos (List.contains_iff_mem.mpr isKnown), othersRead]
      rfl

/-! ### What is taken over -/

/-- What is taken over from a place is what it holds, unless that is null. -/
structure Takes (holds : Value → Prop) (taken? : Option Content) : Prop where
  complete : ∀ value, holds value → value ≠ .null →
    ∃ content, taken? = some content ∧ content.value = value
  sound : ∀ content, taken? = some content → holds content.value

variable {names : List String} {record : Value} {fields : List (String × Value)} {name : String}

/-- What an optional field holds is null or can be read. -/
theorem of_optional?
    {read : Value → Option α}
    (isRecord : IsRecord names record fields)
    {result? : Option α}
    (isRead : optional? read name fields = some result?)
    {value : Value}
    (holds : HasField names record name value) :
    value = .null ∨ ∃ result, read value = some result ∧ result? = some result := by
  rw [optional?, (isRecord.value?_iff name value).mpr holds] at isRead
  split at isRead
  · rename_i isMissing
    simp at isMissing
  · rename_i isNull
    exact .inl (Option.some.inj isNull)
  · rename_i other _ same
    cases same
    obtain ⟨result, isResult, rfl⟩ := Option.map_eq_some_iff.mp isRead
    exact .inr ⟨result, isResult, rfl⟩

/-- What is read from an optional field is what it holds. -/
theorem holds_of_optional?
    {read : Value → Option α}
    (isRecord : IsRecord names record fields)
    {result : α}
    (isRead : optional? read name fields = some (some result)) :
    ∃ value, HasField names record name value ∧ read value = some result := by
  rw [optional?] at isRead
  split at isRead
  · simp at isRead
  · simp at isRead
  · rename_i value _ isThere
    obtain ⟨other, isResult, same⟩ := Option.map_eq_some_iff.mp isRead
    cases same
    exact ⟨value, (isRecord.value?_iff name value).mp isThere, isResult⟩

/-- What is read from an optional field is taken over. -/
theorem takes_optional?
    {read : Value → Option α}
    {contentOf : α → Content}
    (isReader : ∀ value result, read value = some result → (contentOf result).value = value)
    (isRecord : IsRecord names record fields)
    {result? : Option α}
    (isRead : optional? read name fields = some result?) :
    Takes (HasField names record name) (result?.map contentOf) := by
  refine ⟨?_, ?_⟩
  · intro value holds notNull
    rcases of_optional? isRecord isRead holds with isNull | ⟨result, isResult, rfl⟩
    · exact absurd isNull notNull
    · exact ⟨contentOf result, rfl, isReader value result isResult⟩
  · intro content isTaken
    obtain ⟨result, rfl, rfl⟩ := Option.map_eq_some_iff.mp isTaken
    obtain ⟨value, holds, isResult⟩ := holds_of_optional? isRecord isRead
    rw [isReader value result isResult]
    exact holds

/-- What is read from a field that must be there is taken over. -/
theorem takes_required?
    {read : Value → Option α}
    {contentOf : α → Content}
    (isReader : ∀ value result, read value = some result → (contentOf result).value = value)
    (isRecord : IsRecord names record fields)
    {result : α}
    (isRead : required? read name fields = some result) :
    Takes (HasField names record name) (some (contentOf result)) := by
  rw [required?, Option.bind_eq_bind, Option.bind_eq_some_iff] at isRead
  obtain ⟨value, isThere, isResult⟩ := isRead
  have isValue := isReader value result isResult
  refine ⟨?_, ?_⟩
  · intro other holds _
    rw [← isRecord.value?_iff, isThere, Option.some.injEq] at holds
    exact ⟨contentOf result, rfl, isValue.trans holds⟩
  · rintro content ⟨⟩
    rw [isValue, ← isRecord.value?_iff]
    exact isThere

/-- What is read from the fields of an optional record is taken over. -/
theorem takes_section
    {read : Value → Option α}
    {inner : Value → Value → Prop}
    (takenFrom? : Option α → Option Content)
    (isRecord : IsRecord names record fields)
    (fromNull : ∀ value, ¬ inner .null value)
    (fromNothing : takenFrom? none = none)
    (takes : ∀ part result, IsRead part → read part = some result →
      Takes (inner part) (takenFrom? (some result)))
    {result? : Option α}
    (isRead : optional? read name fields = some result?) :
    Takes (fun value => ∃ part, HasField names record name part ∧ inner part value)
      (takenFrom? result?) := by
  refine ⟨?_, ?_⟩
  · rintro value ⟨part, isPart, holds⟩ notNull
    rcases of_optional? isRecord isRead isPart with rfl | ⟨result, isResult, rfl⟩
    · exact absurd holds (fromNull value)
    · have partTakes := takes part result (isRecord.areRead name part isPart) isResult
      exact partTakes.complete value holds notNull
  · intro content isTaken
    cases result? with
    | none =>
        rw [fromNothing] at isTaken
        simp at isTaken
    | some result =>
        obtain ⟨part, isPart, isResult⟩ := holds_of_optional? isRecord isRead
        have partTakes := takes part result (isRecord.areRead name part isPart) isResult
        exact ⟨part, isPart, partTakes.sound content isTaken⟩

/-! ### What can be read -/

/-- An optional field can be read if it is null or holds what can be read. -/
theorem exists_optional?
    {read : Value → Option α}
    (isRecord : IsRecord names record fields)
    (canBeRead : ∀ value, HasField names record name value →
      value = .null ∨ ∃ result, read value = some result) :
    ∃ result?, optional? read name fields = some result? := by
  rw [optional?]
  split
  · exact ⟨none, rfl⟩
  · exact ⟨none, rfl⟩
  · rename_i value notNull isThere
    rcases canBeRead value ((isRecord.value?_iff name value).mp isThere) with
      isNull | ⟨result, isResult⟩
    · exact absurd isNull notNull
    · exact ⟨some result, by rw [isResult]; rfl⟩

/-! ### Scalars -/

/-- A word is read from the integer that it is. -/
theorem value_of_word?
    (value : Value)
    (word : UInt64)
    (isRead : word? value = some word) :
    (Content.word word).value = value := by
  cases value with
  | integer number =>
      obtain ⟨inRange, isWord⟩ := Option.ite_none_right_eq_some.mp isRead
      cases isWord
      rw [Bool.and_eq_true, decide_eq_true_eq, decide_eq_true_eq] at inRange
      have isSame : (UInt64.ofNat number.toNat).toNat = number.toNat :=
        UInt64.toNat_ofNat_of_lt' (by omega)
      rw [Content.value, isSame, Int.toNat_of_nonneg inRange.1]
  | _ =>
      simp [word?] at isRead

/-- A truth value is read from itself. -/
theorem value_of_flag?
    (value : Value)
    (flag : Bool)
    (isRead : flag? value = some flag) :
    (Content.bool flag).value = value := by
  cases value with
  | bool other =>
      cases isRead
      rfl
  | _ =>
      simp [flag?] at isRead

/-- A text is read from itself. -/
theorem value_of_text?
    (value : Value)
    (text : String)
    (isRead : text? value = some text) :
    (Content.text text).value = value := by
  cases value with
  | string other =>
      cases isRead
      rfl
  | _ =>
      simp [text?] at isRead

end SourceFacts.Config
