import SourceFacts.Proofs.Failures.Tallies
import SourceFacts.Proofs.Number.Rounding

namespace SourceFacts.Failures

/-!
# The books of a run

A log is kept by calls that tell of a failure, of a success or of the number of files. Whatever
these calls are and however they follow each other, the statistics count them: the failures by
their categories, the successes, and the files, of which there are no fewer than have been told of.
-/

open Number Time

/-! ## Calls -/

/-- A call that is entered into a log. -/
inductive Log.Call where
  | failure (path message : String) (context : Context) (now : Instant)
  | success
  | total (declared : Nat)
deriving Repr, DecidableEq

namespace Log.Call

/-- The log after a call. -/
def perform (log : Log) : Call → Log
  | .failure path message context now =>
      log.addRecord (Record.ofMessage path message context now)
  | .success => log.addSuccess
  | .total declared => log.declareTotal declared

/-- The log after calls. -/
def performAll (calls : List Call) (log : Log) : Log := calls.foldl perform log

/-- Whether a call tells of a failure. -/
def isFailure : Call → Bool
  | .failure .. => true
  | _ => false

/-- The record that a call adds. -/
def record? : Call → Option Record
  | .failure path message context now => some (Record.ofMessage path message context now)
  | _ => none

/-- The number of files that a call declares. -/
def declared? : Call → Option Nat
  | .total declared => some declared
  | _ => none

/-- The number of files that was declared last, nothing if none was. -/
def lastDeclared (calls : List Call) : Nat := (calls.filterMap declared?).getLast?.getD 0

/-- Calls leave the records and the successes that they tell of, and the number of files that
was declared last. -/
theorem performAll_eq (calls : List Call) (log : Log) :
    performAll calls log = {
      records := log.records ++ calls.filterMap record?
      successful := log.successful + calls.count .success
      declaredTotal := (calls.filterMap declared?).getLast?.getD log.declaredTotal } := by
  induction calls generalizing log with
  | nil =>
      simp [performAll]
  | cons call rest inductionHypothesis =>
      have step : performAll (call :: rest) log = performAll rest (perform log call) := rfl
      rw [step, inductionHypothesis]
      cases call with
      | failure path message context now =>
          simp [perform, addRecord, record?, declared?, List.filterMap_cons]
      | success =>
          simp [perform, addSuccess, record?, declared?, List.filterMap_cons, Nat.add_assoc,
            Nat.add_comm 1]
      | total declared =>
          simp [perform, declareTotal, record?, declared?, List.filterMap_cons, List.getLast?_cons]

/-- There is one record for each call that tells of a failure. -/
theorem length_filterMap_record? (calls : List Call) :
    (calls.filterMap record?).length = calls.countP isFailure := by
  induction calls with
  | nil =>
      rfl
  | cons call rest inductionHypothesis =>
      cases call <;>
        simpa [record?, isFailure, List.filterMap_cons, List.countP_cons]
          using inductionHypothesis

end Log.Call

/-! ## Rates -/

/-- A rate is a part of a whole, as near as numbers of double precision come. A word may be too
long for such a number, and is rounded to one before it is divided. -/
structure IsRate (part whole : Nat) (rate : Double) : Prop where
  noSign : rate.negative = false
  nonneg : 0 ≤ rate.value
  le_one : rate.value ≤ 1
  nothing : whole = 0 → rate = .zero false
  rounded : 0 < whole → whole < UInt64.size → ∃ left right : Double,
    left.IsNearest part ∧ right.IsNearest whole ∧ rate.IsNearest (left.value / right.value)
  exact : 0 < whole → whole < 2 * leadingBit → rate.IsNearest (part / whole)

namespace Statistics

/-- A rate is a quotient of rounded numbers, or zero where there is none. -/
theorem rate_cases (part whole : Nat) :
    rate part whole = .zero false ∨
      ∃ left right, Double.ofNat? part = some left ∧ Double.ofNat? whole = some right ∧
        left.div? right = some (rate part whole) := by
  rw [rate]
  cases isLeft : Double.ofNat? part with
  | none =>
      exact .inl rfl
  | some left =>
      cases isRight : Double.ofNat? whole with
      | none =>
          exact .inl rfl
      | some right =>
          cases isQuotient : left.div? right with
          | none =>
              left
              simp [isQuotient]
          | some quotient =>
              right
              exact ⟨left, right, rfl, rfl, by simp [isQuotient]⟩

/-- The rate of a part of a word is a quotient of rounded numbers, unless the word is zero. -/
theorem exists_rate
    {part whole : Nat}
    (isPart : part ≤ whole)
    (positive : 0 < whole)
    (isWord : whole < UInt64.size) :
    ∃ left right, Double.ofNat? part = some left ∧ Double.ofNat? whole = some right ∧
      left.div? right = some (rate part whole) := by
  obtain ⟨left, isLeft⟩ := Double.exists_ofNat? (Nat.lt_of_le_of_lt isPart isWord)
  obtain ⟨right, isRight⟩ := Double.exists_ofNat? isWord
  have noSign := (Double.isNearest_of_ofNat? isLeft).1
  have noSignToo := (Double.isNearest_of_ofNat? isRight).1
  have atLeastOne : 1 ≤ right.value := Double.one_le_value_of_ofNat? positive isRight
  have atMost : left.value ≤ right.value := Double.value_le_of_ofNat? isLeft isRight isPart
  obtain ⟨quotient, isQuotient⟩ := Double.exists_div? noSign noSignToo
    (Double.isZero_eq_false (by linarith)) (by
      calc left.value / right.value ≤ 1 := div_le_one_of_le₀ atMost (by linarith)
        _ < 2 ^ 64 := by norm_num)
  refine ⟨left, right, isLeft, isRight, ?_⟩
  simp [rate, isLeft, isRight, isQuotient]

/-- The rate of a part is a rate. -/
theorem isRate_rate
    {part whole : Nat}
    (isPart : part ≤ whole) :
    IsRate part whole (rate part whole) := by
  have noSign : (rate part whole).negative = false := by
    rcases rate_cases part whole with isZero | ⟨left, right, isLeft, isRight, isQuotient⟩
    · rw [isZero]
      rfl
    · exact (Double.isNearest_of_div? (Double.isNearest_of_ofNat? isLeft).1
        (Double.isNearest_of_ofNat? isRight).1 isQuotient).1
  have nonneg : 0 ≤ (rate part whole).value := by
    rw [Double.value_eq noSign]
    exact Double.magnitudeValue_nonneg _
  refine { noSign, nonneg, le_one := ?_, nothing := ?_, rounded := ?_, exact := ?_ }
  · rcases rate_cases part whole with isZero | ⟨left, right, isLeft, isRight, isQuotient⟩
    · rw [isZero, Double.value_zero]
      exact zero_le_one
    · obtain ⟨noSignRight, isNearestRight⟩ := Double.isNearest_of_ofNat? isRight
      have isNearest := (Double.isNearest_of_div? (Double.isNearest_of_ofNat? isLeft).1
        noSignRight isQuotient).2
      have atMost : left.value ≤ right.value := Double.value_le_of_ofNat? isLeft isRight isPart
      have notNegative : 0 ≤ right.value := by
        rw [Double.value_eq noSignRight]
        exact Double.magnitudeValue_nonneg _
      rw [← Double.value_one]
      refine isNearest.le_of_le ?_
      rw [Double.value_one]
      exact div_le_one_of_le₀ atMost notNegative
  · rintro rfl
    obtain rfl : part = 0 := Nat.le_zero.mp isPart
    decide
  · intro positive isWord
    obtain ⟨left, right, isLeft, isRight, isQuotient⟩ := exists_rate isPart positive isWord
    obtain ⟨noSignLeft, isNearestLeft⟩ := Double.isNearest_of_ofNat? isLeft
    obtain ⟨noSignRight, isNearestRight⟩ := Double.isNearest_of_ofNat? isRight
    exact ⟨left, right, isNearestLeft, isNearestRight,
      (Double.isNearest_of_div? noSignLeft noSignRight isQuotient).2⟩
  · intro positive fits
    have isWord : whole < UInt64.size := by
      rw [leadingBit] at fits
      rw [UInt64.size]
      omega
    obtain ⟨left, right, isLeft, isRight, isQuotient⟩ := exists_rate isPart positive isWord
    have isNearest := (Double.isNearest_of_div? (Double.isNearest_of_ofNat? isLeft).1
      (Double.isNearest_of_ofNat? isRight).1 isQuotient).2
    rwa [Double.value_of_ofNat? (by omega) isLeft, Double.value_of_ofNat? fits isRight]
      at isNearest

/-! ## Categories that are listed -/

/-- What is listed adds up to all that there is. -/
theorem sum_ofCategories (categories : List Category) :
    ((ofCategories categories).map (·.2)).sum = categories.length := by
  have listed : ∀ entries : List (Category × Nat),
      ((entries.filter (·.2 ≠ 0)).map (·.2)).sum = (entries.map (·.2)).sum := by
    intro entries
    induction entries with
    | nil =>
        rfl
    | cons entry rest inductionHypothesis =>
        by_cases isZero : entry.2 = 0
        · simpa [isZero] using inductionHypothesis
        · simpa [isZero] using inductionHypothesis
  rw [ofCategories, listed, List.map_map]
  induction categories with
  | nil =>
      rfl
  | cons category rest inductionHypothesis =>
      cases category <;>
        simp [Category.all] at inductionHypothesis ⊢ <;>
        omega

/-- No category is listed twice. -/
theorem nodup_ofCategories (categories : List Category) :
    ((ofCategories categories).map (·.1)).Nodup := by
  have isSublist : ((ofCategories categories).map (·.1)).Sublist Category.all := by
    have listed := (List.filter_sublist (p := (·.2 ≠ 0))
      (l := Category.all.map fun category => (category, categories.count category))).map (·.1)
    rwa [List.map_map, show (Prod.fst ∘ fun category => (category, categories.count category)) =
      id from rfl, List.map_id] at listed
  exact isSublist.nodup (by decide)

end Statistics

/-! ## Statistics of calls -/

open Log

/-- What the books show of the calls that have been entered. -/
structure Log.Reflects (log : Log) (elapsed : Nat) (calls : List Call) : Prop where
  failed : (log.statistics elapsed).failed = calls.countP (·.isFailure)
  failedByCategory :
    (log.statistics elapsed).failed = ((log.statistics elapsed).byCategory.map (·.2)).sum
  successful : (log.statistics elapsed).successful = calls.count .success
  total : (log.statistics elapsed).total = max (Call.lastDeclared calls)
    ((log.statistics elapsed).successful + (log.statistics elapsed).failed)
  successRate : IsRate (log.statistics elapsed).successful (log.statistics elapsed).total
    (log.statistics elapsed).successRate
  count : ∀ category, (log.statistics elapsed).count category = (log.recordsIn category).length
  occurs : ∀ category count, (category, count) ∈ (log.statistics elapsed).byCategory → count ≠ 0
  listedOnce : ((log.statistics elapsed).byCategory.map (·.1)).Nodup
  records : log.records = calls.filterMap (·.record?)
  retryable : log.retryable = log.records.filter (·.category ≠ .syntaxError)

/-- Only the failures to parse a text are not worth another attempt. -/
theorem isRetryable_iff
    {call : Call}
    {record : Record}
    (isRecord : call.record? = some record) :
    record.isRetryable = true ↔ record.category ≠ .syntaxError := by
  cases call with
  | failure path message context now =>
      cases isRecord
      simp [Record.ofMessage, Category.isRetryable]
  | success | total _ =>
      cases isRecord

/-- Whatever calls are entered into an empty log, its books show them, and records that are
there stay where they are. -/
theorem Log.reflects_performAll (calls : List Call) :
    (∀ elapsed, (Call.performAll calls {}).Reflects elapsed calls) ∧
      ∀ more,
        (Call.performAll calls {}).records <+: (Call.performAll (calls ++ more) {}).records := by
  obtain ⟨log, isLog⟩ : ∃ log, log = Call.performAll calls {} := ⟨_, rfl⟩
  have records : log.records = calls.filterMap (·.record?) := by
    rw [isLog, Call.performAll_eq]
    exact List.nil_append _
  have successful : log.successful = calls.count .success := by
    rw [isLog, Call.performAll_eq]
    exact Nat.zero_add _
  have declared : log.declaredTotal = Call.lastDeclared calls := by
    rw [isLog, Call.performAll_eq]
    rfl
  have categories : log.categories.length = calls.countP (·.isFailure) := by
    rw [categories, List.length_map, records, Call.length_filterMap_record?]
  rw [← isLog]
  refine ⟨fun elapsed => ?_, fun more => ?_⟩
  · have isStatistics := Statistics.statistics_eq log elapsed
    exact {
      failed := by
        rw [isStatistics]
        exact categories
      failedByCategory := by
        rw [isStatistics]
        exact (Statistics.sum_ofCategories _).symm
      successful := by
        rw [isStatistics]
        exact successful
      total := by
        rw [isStatistics, ← declared]
      successRate := by
        rw [isStatistics]
        exact Statistics.isRate_rate (by dsimp only; omega)
      count := fun category => by
        rw [Statistics.count_of_byCategory (by rw [isStatistics]), Log.categories, List.count,
          List.countP_map, recordsIn, ← List.countP_eq_length_filter]
        rfl
      occurs := fun category count isListed => by
        rw [isStatistics] at isListed
        exact (Statistics.mem_ofCategories.mp isListed).2
      listedOnce := by
        rw [isStatistics]
        exact Statistics.nodup_ofCategories _
      records
      retryable := by
        rw [retryable]
        refine List.filter_congr fun record isRecord => ?_
        rw [records] at isRecord
        obtain ⟨call, _, isCall⟩ := List.mem_filterMap.mp isRecord
        rw [Bool.eq_iff_iff, isRetryable_iff isCall, decide_eq_true_iff] }
  · rw [records, Call.performAll_eq, List.filterMap_append]
    exact List.prefix_append _ _

-- More files are told of than were declared.
example : ((Call.performAll [.total 1, .success, .success] {}).statistics 0).total = 2 := rfl

end SourceFacts.Failures
