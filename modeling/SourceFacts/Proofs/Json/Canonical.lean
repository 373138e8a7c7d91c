import SourceFacts.Proofs.Json.Legible

namespace SourceFacts.Json

/-!
# Values in canonical form

A value is in canonical form if the fields of its objects are in order, each there
once. Together with a bound on its depth and with numbers that are read back this is
built up from the parts of a value.
-/

/-- A value in canonical form that is nested so many times at most and whose numbers are
read back from their texts. -/
structure Plain (bound : Nat) (value : Json) : Prop where
  canonical : value.canonical = value
  shallow : value.depth ≤ bound
  readsBack : value.ReadsBack

variable {bound : Nat}

/-- A plain value is legible. -/
theorem Plain.legible
    {value : Json}
    (plain : Plain bound value) :
    Legible bound value :=
  ⟨plain.shallow, plain.readsBack⟩

/-! ## Scalars -/

/-- The absence of a value is plain. -/
theorem plain_null : Plain bound .null := ⟨rfl, Nat.zero_le bound, trivial⟩

/-- Truth values are plain. -/
theorem plain_bool (value : Bool) : Plain bound (.bool value) :=
  ⟨rfl, Nat.zero_le bound, trivial⟩

/-- Whole numbers are plain. -/
theorem plain_integer (value : Integer) : Plain bound (.integer value) :=
  ⟨rfl, Nat.zero_le bound, trivial⟩

/-- Texts are plain. -/
theorem plain_string (value : String) : Plain bound (.string value) :=
  ⟨rfl, Nat.zero_le bound, trivial⟩

/-- A value that may be absent is plain if it is plain when it is there. -/
theorem plain_orNull
    {encode : α → Json}
    (plain : ∀ value, Plain bound (encode value))
    (value? : Option α) :
    Plain bound (orNull encode value?) := by
  cases value? with
  | none =>
      exact plain_null
  | some value =>
      exact plain value

/-! ## Arrays -/

/-- An array of plain values is plain. -/
theorem plain_array
    {items : List Json}
    (plain : ∀ item ∈ items, Plain bound item) :
    Plain (bound + 1) (.array items) := by
  have areCanonical : canonicalItems items = items := by
    induction items with
    | nil =>
        rfl
    | cons item rest inductionHypothesis =>
        rw [List.forall_mem_cons] at plain
        rw [canonicalItems, plain.1.canonical, inductionHypothesis plain.2]
  have legible := legible_array fun item member => (plain item member).legible
  exact ⟨congrArg _ areCanonical, legible.shallow, legible.readsBack⟩

/-- An array of texts is plain. -/
theorem plain_strings (texts : List String) : Plain (bound + 1) (strings texts) := by
  refine plain_array ?_
  intro item member
  obtain ⟨text, _, rfl⟩ := List.mem_map.mp member
  exact plain_string text

/-! ## Objects -/

/-- A field whose name comes after all others is put last. -/
theorem insertField_of_last
    {name : String}
    {value : Json}
    {fields : List (String × Json)}
    (isLast : ∀ field ∈ fields, field.1 < name) :
    insertField name value fields = fields ++ [(name, value)] := by
  induction fields with
  | nil =>
      rfl
  | cons first rest inductionHypothesis =>
      rw [List.forall_mem_cons] at isLast
      have differs : name ≠ first.1 := by
        rintro rfl
        exact String.lt_irrefl _ isLast.1
      have notBefore : ¬ name < first.1 := String.lt_asymm isLast.1
      rw [insertField, if_neg differs, if_neg notBefore, inductionHypothesis isLast.2]
      rfl

/-- Fields in order stay in it, with their values in canonical form. -/
theorem canonicalFields_of_sorted
    {fields done : List (String × Json)}
    (sorted : (done ++ fields).Pairwise fun first second => first.1 < second.1) :
    canonicalFields fields done =
      done ++ fields.map fun field => (field.1, field.2.canonical) := by
  induction fields generalizing done with
  | nil =>
      rw [canonicalFields, List.map_nil, List.append_nil]
  | cons field rest inductionHypothesis =>
      have isLast : ∀ other ∈ done, other.1 < field.1 := by
        intro other member
        exact (List.pairwise_append.mp sorted).2.2 other member field List.mem_cons_self
      have stillSorted : ((done ++ [(field.1, field.2.canonical)]) ++ rest).Pairwise
          fun first second => first.1 < second.1 := by
        have sameNames : (done ++ [(field.1, field.2.canonical)] ++ rest).map (·.1) =
            (done ++ field :: rest).map (·.1) := by
          simp
        rw [← List.pairwise_map (f := Prod.fst) (R := (· < ·))] at sorted ⊢
        rwa [sameNames]
      rw [canonicalFields, insertField_of_last isLast, inductionHypothesis stillSorted,
        List.map_cons, List.append_assoc, List.singleton_append]

/-- Names that are in order stay so when a field is put in its place. -/
theorem sorted_insertField
    (name : String)
    (value : Json)
    {done : List (String × Json)}
    (sorted : (done.map (·.1)).Pairwise (· < ·)) :
    ((insertField name value done).map (·.1)).Pairwise (· < ·) ∧
      ∀ other ∈ (insertField name value done).map (·.1), other = name ∨ other ∈ done.map (·.1) := by
  induction done with
  | nil =>
      simp [insertField]
  | cons first rest inductionHypothesis =>
      obtain ⟨firstName, firstValue⟩ := first
      rw [List.map_cons, List.pairwise_cons] at sorted
      obtain ⟨restSorted, known⟩ := inductionHypothesis sorted.2
      rw [insertField]
      split
      · rename_i same
        subst same
        exact ⟨List.pairwise_cons.mpr sorted, by simp⟩
      · rename_i differs
        split
        · rename_i isFirst
          refine ⟨List.pairwise_cons.mpr ⟨?_, List.pairwise_cons.mpr sorted⟩, by simp⟩
          intro other member
          rcases List.mem_cons.mp member with rfl | later
          · exact isFirst
          · exact String.lt_trans isFirst (sorted.1 other later)
        · rename_i notFirst
          have isLater : firstName < name :=
            String.not_le.mp fun atMost =>
              differs (String.le_antisymm atMost (String.not_lt.mp notFirst))
          refine ⟨List.pairwise_cons.mpr ⟨?_, restSorted⟩, ?_⟩
          · intro other member
            rcases known other member with rfl | before
            · exact isLater
            · exact sorted.1 other before
          · intro other member
            rw [List.map_cons, List.mem_cons] at member ⊢
            rcases member with isFirst | later
            · exact Or.inr (Or.inl isFirst)
            · exact (known other later).imp_right Or.inr

/-- Fields are in order after each of them was put in its place. -/
theorem sorted_canonicalFields
    (fields : List (String × Json))
    {done : List (String × Json)}
    (sorted : (done.map (·.1)).Pairwise (· < ·)) :
    ((canonicalFields fields done).map (·.1)).Pairwise (· < ·) := by
  induction fields generalizing done with
  | nil =>
      exact sorted
  | cons field rest inductionHypothesis =>
      rw [canonicalFields]
      exact inductionHypothesis (sorted_insertField _ _ sorted).1

/-- Fields stay as they are exactly if their values are in canonical form. -/
theorem map_canonical_eq_self_iff
    {fields : List (String × Json)} :
    (fields.map fun field => (field.1, field.2.canonical)) = fields ↔
      ∀ field ∈ fields, field.2.canonical = field.2 := by
  induction fields with
  | nil =>
      simp
  | cons field rest inductionHypothesis =>
      rw [List.map_cons, List.cons.injEq, inductionHypothesis, List.forall_mem_cons]
      simp [Prod.ext_iff]

/-- An object is in canonical form exactly if its names are in order and its values are in
canonical form. -/
theorem canonical_object_iff
    {fields : List (String × Json)} :
    (Json.object fields).canonical = .object fields ↔
      (fields.map (·.1)).Pairwise (· < ·) ∧ ∀ field ∈ fields, field.2.canonical = field.2 := by
  have inOrder : (fields.map (·.1)).Pairwise (· < ·) →
      canonicalFields fields [] = fields.map fun field => (field.1, field.2.canonical) :=
    fun sorted => canonicalFields_of_sorted (List.pairwise_map.mp sorted)
  rw [canonical, Json.object.injEq]
  constructor
  · intro same
    have sorted : (fields.map (·.1)).Pairwise (· < ·) :=
      same ▸ sorted_canonicalFields fields List.Pairwise.nil
    rw [inOrder sorted] at same
    exact ⟨sorted, map_canonical_eq_self_iff.mp same⟩
  · rintro ⟨sorted, areCanonical⟩
    rw [inOrder sorted]
    exact map_canonical_eq_self_iff.mpr areCanonical

/-- An object of plain values whose names are in order is plain. -/
theorem plain_object
    {fields : List (String × Json)}
    (sorted : (fields.map (·.1)).Pairwise (· < ·))
    (plain : ∀ field ∈ fields, Plain bound field.2) :
    Plain (bound + 1) (.object fields) := by
  have isCanonical := canonical_object_iff.mpr
    ⟨sorted, fun field member => (plain field member).canonical⟩
  have legible := legible_object fun field member => (plain field member).legible
  exact ⟨isCanonical, legible.shallow, legible.readsBack⟩

/-! ## Numbers that are read -/

/-- What is read of fields has their names. -/
theorem names_of_rereadFields?
    {fields read : List (String × Json)}
    (areRead : rereadFields? fields = some read) :
    read.map (·.1) = fields.map (·.1) := by
  induction fields generalizing read with
  | nil =>
      obtain rfl := Option.some.inj areRead
      rfl
  | cons field rest inductionHypothesis =>
      obtain ⟨other, isRead, restRead⟩ := Option.bind_eq_some_iff.mp areRead
      obtain ⟨others, othersRead, rfl⟩ := Option.map_eq_some_iff.mp restRead
      rw [List.map_cons, List.map_cons, inductionHypothesis othersRead]

mutual

/-- What is read of a value in canonical form is in it, too. -/
theorem canonical_of_reread?
    {value read : Json}
    (isCanonical : value.canonical = value)
    (isRead : value.reread? = some read) :
    read.canonical = read := by
  cases value with
  | null | bool | integer | string =>
      obtain rfl := Option.some.inj isRead
      rfl
  | double number =>
      rcases isNumber_of_number? isRead with ⟨other, rfl⟩ | ⟨other, rfl⟩ <;> rfl
  | array items =>
      obtain ⟨others, areRead, rfl⟩ := Option.map_eq_some_iff.mp isRead
      rw [canonical, canonicalItems_of_rereadItems? (Json.array.inj isCanonical) areRead]
  | object fields =>
      obtain ⟨others, areRead, rfl⟩ := Option.map_eq_some_iff.mp isRead
      rw [canonical_object_iff] at isCanonical ⊢
      rw [names_of_rereadFields? areRead]
      exact ⟨isCanonical.1, canonical_of_rereadFields? isCanonical.2 areRead⟩

/-- What is read of items in canonical form is in it, too. -/
theorem canonicalItems_of_rereadItems?
    {items read : List Json}
    (areCanonical : canonicalItems items = items)
    (areRead : rereadItems? items = some read) :
    canonicalItems read = read := by
  cases items with
  | nil =>
      obtain rfl := Option.some.inj areRead
      rfl
  | cons item rest =>
      obtain ⟨other, isRead, restRead⟩ := Option.bind_eq_some_iff.mp areRead
      obtain ⟨others, othersRead, rfl⟩ := Option.map_eq_some_iff.mp restRead
      rw [canonicalItems, List.cons.injEq] at areCanonical
      rw [canonicalItems, canonical_of_reread? areCanonical.1 isRead,
        canonicalItems_of_rereadItems? areCanonical.2 othersRead]

/-- What is read of fields whose values are in canonical form has values that are in it. -/
theorem canonical_of_rereadFields?
    {fields read : List (String × Json)}
    (areCanonical : ∀ field ∈ fields, field.2.canonical = field.2)
    (areRead : rereadFields? fields = some read) :
    ∀ field ∈ read, field.2.canonical = field.2 := by
  cases fields with
  | nil =>
      obtain rfl := Option.some.inj areRead
      exact fun field member => absurd member List.not_mem_nil
  | cons field rest =>
      obtain ⟨name, value⟩ := field
      obtain ⟨other, isRead, restRead⟩ := Option.bind_eq_some_iff.mp areRead
      obtain ⟨others, othersRead, rfl⟩ := Option.map_eq_some_iff.mp restRead
      rw [List.forall_mem_cons] at areCanonical ⊢
      exact ⟨canonical_of_reread? areCanonical.1 isRead,
        canonical_of_rereadFields? areCanonical.2 othersRead⟩

end

end SourceFacts.Json
