import SourceFacts.Failures.Statistics
import SourceFacts.Proofs.Json.Records
import SourceFacts.Proofs.Time.Instants

namespace SourceFacts.Failures

/-!
# Failures are read back

The record of a failure is read back with its context, and so are the statistics of a run.
The counts of the categories are in the order of the categories, each there once at most.
-/

open Json Time

variable {arrangement : Arrangement}

/-! ## Moments and categories -/

/-- A moment of the calendar is read back. -/
theorem asInstant?_instantJson
    (arrangement : Arrangement)
    {moment : Instant}
    (valid : moment.IsValid) :
    asInstant? (arrangement.of (instantJson moment)) = some moment := by
  rw [instantJson, Arrangement.of_string, asInstant?, asString?_string, Option.bind_some,
    Instant.ofText?_toText valid]

/-- What is read as a moment is one of the calendar. -/
theorem isValid_of_asInstant?
    {json : Json}
    {moment : Instant}
    (isRead : asInstant? json = some moment) :
    moment.IsValid := by
  obtain ⟨text, -, isRead⟩ := Option.bind_eq_some_iff.mp isRead
  exact Instant.isValid_of_ofText? isRead

/-- Every category is told from its name. -/
@[simp] theorem Category.ofName?_name (category : Category) :
    Category.ofName? category.name = some category := by
  cases category <;> rfl

/-- A category is read back. -/
@[simp] theorem Category.ofJson?_toJson (category : Category) :
    Category.ofJson? (arrangement.of category.toJson) = some category := by
  simp [Category.ofJson?, Category.toJson]

/-- Different categories have different names. -/
theorem Category.name_inj
    {first second : Category} :
    first.name = second.name ↔ first = second := by
  refine ⟨fun same => ?_, congrArg _⟩
  exact Option.some.inj ((ofName?_name first).symm.trans (same ▸ ofName?_name second))

/-! ## Records of failures -/

/-- The name of a field that is left out unless it has a value. -/
theorem names_present_sublist
    (name : String)
    (write : α → Json)
    (value? : Option α) :
    ((present name write value?).map (·.1)).Sublist [name] := by
  cases value? with
  | none =>
      exact List.nil_sublist _
  | some value =>
      exact List.Sublist.refl _

/-- A context is read back, without what is absent. -/
@[simp] theorem Context.ofJson?_toJson (context : Context) :
    Context.ofJson? (arrangement.of context.toJson) = some context := by
  have expected := ((names_present_sublist "file_size_bytes" .word context.sizeBytes).append
    (names_present_sublist "line_count" .word context.lineCount)).append
      (names_present_sublist "encoding" .string context.encoding)
  rw [← List.map_append, ← List.map_append] at expected
  obtain ⟨record, isRecord, finds⟩ :=
    arrangement.exists_record (rfl : context.toJson = _) expected (by decide)
  have sizeBytes : optionalField? asWord? "file_size_bytes" record = some context.sizeBytes :=
    finds.optionalField?_of_lookup? .word context.sizeBytes
      (by simp [lookup?_append, lookup?_present]) rfl fun size _ => by simp
  have lineCount : optionalField? asWord? "line_count" record = some context.lineCount :=
    finds.optionalField?_of_lookup? .word context.lineCount
      (by simp [lookup?_append, lookup?_present]) rfl fun count _ => by simp
  have encoding : optionalField? asString? "encoding" record = some context.encoding :=
    finds.optionalField?_of_lookup? .string context.encoding
      (by simp [lookup?_append, lookup?_present]) rfl fun text _ => by simp
  have sameNames : ["file_size_bytes"] ++ ["line_count"] ++ ["encoding"] = fieldNames := rfl
  rw [sameNames] at isRecord
  simp [Context.ofJson?, isRecord, sizeBytes, lineCount, encoding]

/-- The record of a failure at a moment of the calendar. -/
def Record.IsValid (record : Record) : Prop := record.timestamp.IsValid

/-- The record of a failure is read back. -/
theorem Record.ofJson?_toJson
    {record : Record}
    (valid : record.IsValid) :
    Record.ofJson? (arrangement.of record.toJson) = some record := by
  obtain ⟨fields, isRecord, finds⟩ :=
    arrangement.exists_record (rfl : record.toJson = _) (List.Sublist.refl fieldNames) (by decide)
  have timestamp := asInstant?_instantJson arrangement valid
  simp [Record.ofJson?, isRecord, finds.field?, timestamp]

/-- The record of a failure that is read has a moment of the calendar. -/
theorem Record.isValid_of_ofJson?
    {json : Json}
    {record : Record}
    (isRead : Record.ofJson? json = some record) :
    record.IsValid := by
  simp only [Record.ofJson?, Option.bind_eq_bind, Option.bind_eq_some_iff] at isRead
  obtain ⟨fields, -, _, -, _, -, _, -, _, -, moment, isMoment, _, -, same⟩ := isRead
  obtain rfl := Option.some.inj same
  obtain ⟨value, -, isMoment⟩ := Option.bind_eq_some_iff.mp isMoment
  exact isValid_of_asInstant? isMoment

/-! ## Counts of categories -/

namespace Statistics

/-- The counts of the categories that have one, in the order of the categories. -/
def tabulate (count? : Category → Option Nat) : List (Category × Nat) :=
  Category.all.filterMap fun category => (count? category).map (category, ·)

/-- In such a list the count of a category is found. -/
theorem find?_tabulate
    (count? : Category → Option Nat)
    (category : Category) :
    (tabulate count?).find? (·.1 = category) = (count? category).map (category, ·) := by
  have amongSome : ∀ candidates : List Category,
      (candidates.filterMap fun candidate => (count? candidate).map (candidate, ·)).find?
          (·.1 = category) =
        if category ∈ candidates then (count? category).map (category, ·) else none := by
    intro candidates
    induction candidates with
    | nil =>
        rfl
    | cons first rest inductionHypothesis =>
        rw [List.filterMap_cons]
        by_cases isFirst : first = category
        · subst isFirst
          rw [if_pos List.mem_cons_self]
          cases isCount : count? first with
          | none =>
              simp [inductionHypothesis, isCount]
          | some count =>
              simp
        · have sameMembers : category ∈ first :: rest ↔ category ∈ rest := by
            simp [Ne.symm isFirst]
          simp only [sameMembers]
          rw [← inductionHypothesis]
          cases count? first <;> simp [isFirst]
  have isCategory : category ∈ Category.all := by
    cases category <;> decide
  rw [tabulate, amongSome, if_pos isCategory]

/-- Another count of a category takes its place among the counts. -/
theorem insertCount_tabulate
    (count? : Category → Option Nat)
    (category : Category)
    (count : Nat) :
    insertCount (tabulate count?) category count =
      tabulate fun candidate => if candidate = category then some count else count? candidate := by
  simp only [insertCount, find?_tabulate]
  rw [tabulate]
  congr 1
  funext candidate
  split <;> rfl

/-- Counts in the order of the categories are those that are found in them. -/
theorem tabulate_of_sublist
    {counts : List (Category × Nat)}
    (ordered : (counts.map (·.1)).Sublist Category.all) :
    (tabulate fun category => (counts.find? (·.1 = category)).map (·.2)) = counts := by
  have among : ∀ candidates : List Category, candidates.Nodup →
      ∀ (counts : List (Category × Nat)) (count? : Category → Option Nat),
        (counts.map (·.1)).Sublist candidates →
        (∀ candidate ∈ candidates,
          count? candidate = (counts.find? (·.1 = candidate)).map (·.2)) →
        candidates.filterMap (fun candidate => (count? candidate).map (candidate, ·)) = counts := by
    intro candidates distinct
    induction candidates with
    | nil =>
        intro counts count? ordered _
        rw [List.map_eq_nil_iff.mp (List.sublist_nil.mp ordered), List.filterMap_nil]
    | cons first rest inductionHypothesis =>
        intro counts count? ordered isCount
        rw [List.nodup_cons] at distinct
        rw [List.forall_mem_cons] at isCount
        rcases List.sublist_cons_iff.mp ordered with skipped | ⟨names, isNames, later⟩
        · have notCounted : counts.find? (·.1 = first) = none := by
            rw [List.find?_eq_none]
            intro entry member isFirst
            refine distinct.1 (skipped.subset (List.mem_map.mpr ⟨entry, member, ?_⟩))
            exact of_decide_eq_true isFirst
          rw [List.filterMap_cons, isCount.1, notCounted]
          exact inductionHypothesis distinct.2 counts count? skipped isCount.2
        · obtain ⟨⟨category, count⟩, others, rfl, isCategory, rfl⟩ :=
            List.map_eq_cons_iff.mp isNames
          obtain rfl : category = first := isCategory
          have isLaterCount : ∀ candidate ∈ rest,
              count? candidate = (others.find? (·.1 = candidate)).map (·.2) := by
            intro candidate member
            have differs : category ≠ candidate := by
              rintro rfl
              exact distinct.1 member
            rw [isCount.2 candidate member, List.find?_cons_of_neg (by simp [differs])]
          have isFirst : count? category = some count := by
            rw [isCount.1, List.find?_cons_of_pos (by simp), Option.map_some]
          rw [List.filterMap_cons, isFirst, Option.map_some,
            inductionHypothesis distinct.2 others count? later isLaterCount]
  exact among Category.all (by decide) counts _ ordered fun _ _ => rfl

/-- What the counts in some fields come to, with counts from before. -/
theorem foldlM_counts
    {fields : List (String × Json)}
    (count? : Category → Option Nat)
    (distinct : (fields.map (·.1)).Nodup)
    (areCounts : ∀ field ∈ fields, ∃ category : Category, ∃ count,
      field.1 = category.name ∧ asCount? field.2 = some count) :
    fields.foldlM (fun counts (name, value) => do
        return insertCount counts (← Category.ofName? name) (← asCount? value))
        (tabulate count?) =
      some (tabulate fun category =>
        ((lookup? category.name fields).bind asCount?).or (count? category)) := by
  induction fields generalizing count? with
  | nil =>
      rfl
  | cons field rest inductionHypothesis =>
      obtain ⟨name, value⟩ := field
      rw [List.map_cons, List.nodup_cons] at distinct
      rw [List.forall_mem_cons] at areCounts
      obtain ⟨⟨category, count, rfl, isCount⟩, areCounts⟩ := areCounts
      have continued := inductionHypothesis
        (fun candidate => if candidate = category then some count else count? candidate)
        distinct.2 areCounts
      simp only [List.foldlM_cons, Category.ofName?_name, isCount, Option.bind_eq_bind,
        Option.bind_some, insertCount_tabulate, Option.pure_def] at continued ⊢
      rw [continued]
      congr 2
      funext candidate
      rw [lookup?]
      by_cases isCategory : candidate = category
      · subst isCategory
        rw [lookup?_eq_none_iff.mpr distinct.1, if_pos rfl, if_pos rfl, Option.bind_some, isCount]
        rfl
      · have differs : category.name ≠ candidate.name := fun same =>
          isCategory (Category.name_inj.mp same).symm
        rw [if_neg isCategory, if_neg differs]

/-- Statistics whose numbers fit into words, with the counts in the order of the categories. -/
structure IsValid (statistics : Statistics) : Prop where
  total : statistics.total < UInt64.size
  successful : statistics.successful < UInt64.size
  failed : statistics.failed < UInt64.size
  elapsedMilliseconds : statistics.elapsedMilliseconds < UInt64.size
  counts : ∀ entry ∈ statistics.byCategory, entry.2 < UInt64.size
  ordered : (statistics.byCategory.map (·.1)).Sublist Category.all

/-- A number that fits into a word is read back. -/
theorem asCount?_natural
    {count : Nat}
    (fits : count < UInt64.size) :
    asCount? (.natural count) = some count :=
  asNatBelow?_of_lt (congrArg Int.ofNat (UInt64.toNat_ofNat_of_lt fits)) fits

/-- A number that is read fits into a word. -/
theorem fits_of_asCount?
    {json : Json}
    {count : Nat}
    (isRead : asCount? json = some count) :
    count < UInt64.size := by
  obtain ⟨value, -, isRead⟩ := Option.bind_eq_some_iff.mp isRead
  rw [Option.ite_none_right_eq_some, Bool.and_eq_true, decide_eq_true_eq, decide_eq_true_eq]
    at isRead
  obtain ⟨⟨positive, below⟩, same⟩ := isRead
  obtain rfl := Option.some.inj same
  omega

/-- The fields that counts are written as. -/
def countFields (counts : List (Category × Nat)) : List (String × Json) :=
  counts.map fun (category, count) => (category.name, .natural count)

/-- Among the fields the count of a category is found under its name. -/
theorem lookup?_countFields
    (category : Category)
    (counts : List (Category × Nat)) :
    lookup? category.name (countFields counts) =
      (counts.find? (·.1 = category)).map fun entry => .natural entry.2 := by
  induction counts with
  | nil =>
      rfl
  | cons entry rest inductionHypothesis =>
      rw [countFields, List.map_cons, ← countFields, lookup?, inductionHypothesis]
      by_cases isCategory : entry.1 = category
      · rw [if_pos (congrArg _ isCategory), List.find?_cons_of_pos (by simp [isCategory])]
        rfl
      · rw [if_neg (mt Category.name_inj.mp isCategory),
          List.find?_cons_of_neg (by simp [isCategory])]

/-- The counts of the categories are read back. -/
theorem countsOfFields?_of_ordered
    (arrangement : Arrangement)
    {counts : List (Category × Nat)}
    (fits : ∀ entry ∈ counts, entry.2 < UInt64.size)
    (ordered : (counts.map (·.1)).Sublist Category.all) :
    ∃ fields, (arrangement.of (.object (countFields counts))).asFields? = some fields ∧
      countsOfFields? fields = some counts := by
  have distinct : ((countFields counts).map (·.1)).Nodup := by
    have distinctCategories : (counts.map (·.1)).Nodup :=
      List.Nodup.sublist ordered (by decide)
    rw [countFields, List.map_map]
    rw [List.Nodup, List.pairwise_map] at distinctCategories ⊢
    exact distinctCategories.imp fun differs => mt Category.name_inj.mp differs
  obtain ⟨fields, isObject, isShown⟩ := arrangement.exists_shows distinct
  have isFound : ∀ category : Category, (lookup? category.name fields).bind asCount? =
      (counts.find? (·.1 = category)).map (·.2) := by
    intro category
    rw [isShown.finds, lookup?_countFields]
    cases isCounted : counts.find? (·.1 = category) with
    | none =>
        rfl
    | some entry =>
        rw [Option.map_some, Option.map_some, Option.bind_some, Arrangement.of_natural,
          asCount?_natural (fits entry (List.mem_of_find?_eq_some isCounted)), Option.map_some]
  have areCounts : ∀ field ∈ fields, ∃ category : Category, ∃ count,
      field.1 = category.name ∧ asCount? field.2 = some count := by
    intro field member
    obtain ⟨other, isOther, isName⟩ := List.mem_map.mp (isShown.mem_names member)
    obtain ⟨⟨category, count⟩, isEntry, rfl⟩ := List.mem_map.mp isOther
    replace isName : category.name = field.1 := isName
    have found := isFound category
    rw [isName, lookup?_of_mem isShown.distinct member, Option.bind_some] at found
    cases isCounted : counts.find? (·.1 = category) with
    | none =>
        exact absurd (decide_eq_true rfl) (List.find?_eq_none.mp isCounted _ isEntry)
    | some entry =>
        exact ⟨category, entry.2, isName.symm, found.trans (congrArg _ isCounted)⟩
  refine ⟨fields, by rw [isObject, asFields?], ?_⟩
  have counted := foldlM_counts (fun _ => none) isShown.distinct areCounts
  simp only [isFound, Option.or_none, tabulate_of_sublist ordered] at counted
  exact counted

/-- Counts stay in the order of the categories when one is put in its place. -/
theorem ordered_insertCount
    (counts : List (Category × Nat))
    (category : Category)
    (count : Nat) :
    ((insertCount counts category count).map (·.1)).Sublist Category.all := by
  have among : ∀ candidates : List Category,
      ((candidates.filterMap fun candidate =>
        if candidate = category then some (candidate, count)
        else counts.find? (·.1 = candidate)).map (·.1)).Sublist candidates := by
    intro candidates
    induction candidates with
    | nil =>
        exact List.Sublist.refl _
    | cons first rest inductionHypothesis =>
        rw [List.filterMap_cons]
        split
        · exact inductionHypothesis.cons first
        · rename_i entry isEntry
          have isFirst : entry.1 = first := by
            split at isEntry
            · exact congrArg Prod.fst (Option.some.inj isEntry).symm
            · have satisfies := List.find?_some isEntry
              exact of_decide_eq_true satisfies
          rw [List.map_cons, isFirst]
          exact inductionHypothesis.cons_cons first
  exact among Category.all

/-- A count that is put in its place is among the counts with those from before. -/
theorem mem_insertCount
    {counts : List (Category × Nat)}
    {category : Category}
    {count : Nat}
    {entry : Category × Nat}
    (member : entry ∈ insertCount counts category count) :
    entry = (category, count) ∨ entry ∈ counts := by
  obtain ⟨candidate, -, isEntry⟩ := List.mem_filterMap.mp member
  split at isEntry
  · rename_i isCategory
    exact Or.inl (isCategory ▸ (Option.some.inj isEntry).symm)
  · exact Or.inr (List.mem_of_find?_eq_some isEntry)

/-- Counts that are read fit into words and are in the order of the categories. -/
theorem ordered_of_countsOfFields?
    {fields : List (String × Json)}
    {counts : List (Category × Nat)}
    (areRead : countsOfFields? fields = some counts) :
    (∀ entry ∈ counts, entry.2 < UInt64.size) ∧ (counts.map (·.1)).Sublist Category.all := by
  have continued : ∀ (fields : List (String × Json)) (done : List (Category × Nat)),
      (∀ entry ∈ done, entry.2 < UInt64.size) →
      (done.map (·.1)).Sublist Category.all →
      fields.foldlM (fun counts (name, value) => do
        return insertCount counts (← Category.ofName? name) (← asCount? value)) done =
          some counts →
      (∀ entry ∈ counts, entry.2 < UInt64.size) ∧
        (counts.map (·.1)).Sublist Category.all := by
    intro fields
    induction fields with
    | nil =>
        intro done fits ordered same
        obtain rfl := Option.some.inj same
        exact ⟨fits, ordered⟩
    | cons field rest inductionHypothesis =>
        intro done fits ordered areRead
        simp only [List.foldlM_cons, Option.bind_eq_bind, Option.bind_eq_some_iff] at areRead
        obtain ⟨_, ⟨category, -, count, isCount, same⟩, restRead⟩ := areRead
        obtain rfl := Option.some.inj same
        refine inductionHypothesis _ ?_ (ordered_insertCount done category count) restRead
        intro entry member
        rcases mem_insertCount member with rfl | before
        · exact fits_of_asCount? isCount
        · exact fits entry before
  exact continued fields [] (fun entry member => absurd member List.not_mem_nil)
    (List.nil_sublist _) areRead

/-- Statistics are read back, also among fields of other names. -/
theorem ofJson?_among
    {statistics : Statistics}
    (valid : statistics.IsValid)
    (others : List (String × Json))
    {json : Json}
    (isObject : json = .object (others ++ statistics.toFields))
    (othersDistinct : (others.map (·.1)).Nodup)
    (unexpected : ∀ name ∈ others.map (·.1), name ∉ fieldNames) :
    ofJson? (arrangement.of json) = some statistics := by
  obtain ⟨record, isRecord, finds⟩ := arrangement.exists_record_among others isObject
    (List.Sublist.refl fieldNames) (by decide) othersDistinct unexpected
  obtain ⟨fields, areFields, areCounts⟩ :=
    countsOfFields?_of_ordered arrangement valid.counts valid.ordered
  rw [countFields] at areFields
  simp [ofJson?, isRecord, finds.field?, toFields, areFields, areCounts,
    asCount?_natural valid.total, asCount?_natural valid.successful,
    asCount?_natural valid.failed, asCount?_natural valid.elapsedMilliseconds]

/-- Statistics are read back. -/
theorem ofJson?_toJson
    {statistics : Statistics}
    (valid : statistics.IsValid) :
    ofJson? (arrangement.of statistics.toJson) = some statistics :=
  ofJson?_among valid [] rfl .nil (by simp)

/-- Statistics that are read have numbers that fit into words and their counts in order. -/
theorem isValid_of_ofJson?
    {json : Json}
    {statistics : Statistics}
    (isRead : ofJson? json = some statistics) :
    statistics.IsValid := by
  have fits : ∀ {name : String} {fields : List (String × Json)} {count : Nat},
      field? asCount? name fields = some count → count < UInt64.size := by
    intro name fields count isRead
    obtain ⟨value, -, isCount⟩ := Option.bind_eq_some_iff.mp isRead
    exact fits_of_asCount? isCount
  simp only [ofJson?, Option.bind_eq_bind, Option.bind_eq_some_iff] at isRead
  obtain ⟨fields, -, total, isTotal, successful, isSuccessful, failed, isFailed, rate, -,
    counts, -, byCategory, areCounts, elapsed, isElapsed, same⟩ := isRead
  obtain rfl := Option.some.inj same
  obtain ⟨countsFit, ordered⟩ := ordered_of_countsOfFields? areCounts
  exact ⟨fits isTotal, fits isSuccessful, fits isFailed, fits isElapsed, countsFit, ordered⟩

end Statistics

/-! ## Round trips -/

/-- Contexts make the round trip. -/
theorem Context.roundTrips :
    RoundTrips Context.toJson Context.ofJson? (fun _ => True)
      ["file_size_bytes", "line_count", "encoding"] :=
  .of (fun context _ _ => ofJson?_toJson context) (fun _ _ _ => trivial)
    (takesNullForMissing_of_record fun record filled fills => by
      simp [fills.optionalField?])

/-- Records of failures at moments of the calendar make the round trip. -/
theorem Record.roundTrips :
    RoundTrips Record.toJson Record.ofJson? Record.IsValid [] :=
  .of (fun _ valid _ => ofJson?_toJson valid) (fun _ _ => isValid_of_ofJson?)
    (takesNullForMissing_nil _)

/-- Statistics whose numbers fit into words make the round trip. -/
theorem Statistics.roundTrips :
    RoundTrips Statistics.toJson Statistics.ofJson? Statistics.IsValid [] :=
  .of (fun _ valid _ => ofJson?_toJson valid) (fun _ _ => isValid_of_ofJson?)
    (takesNullForMissing_nil _)

end SourceFacts.Failures
