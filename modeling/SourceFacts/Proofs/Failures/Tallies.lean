import SourceFacts.Failures.Log
import SourceFacts.Json.Printer
import SourceFacts.Proofs.Analysis.Verdicts

namespace SourceFacts.Failures

/-!
# What is told of failures

Statistics count the failures of a log by their categories, and the text of a report shows
whether there were any.
-/

/-!
## What statistics count

The statistics of a log count its failures by their categories, whatever else their records
tell. So a log that has counted the outcomes of files has statistics that depend on these
outcomes and on nothing else.
-/

open Analysis

/-- The categories of the failures of a log. -/
def Log.categories (log : Log) : List Category := log.records.map (·.category)

@[simp] theorem Log.categories_addRecord (log : Log) (record : Record) :
    (log.addRecord record).categories = log.categories ++ [record.category] :=
  List.map_append

@[simp] theorem Log.categories_addSuccess (log : Log) :
    log.addSuccess.categories = log.categories :=
  rfl

namespace Statistics

/-- How often each category occurs that does, in order. -/
def ofCategories (categories : List Category) : List (Category × Nat) :=
  (Category.all.map fun category => (category, categories.count category)).filter (·.2 ≠ 0)

/-- What is listed for a category is how often it occurs. -/
theorem mem_ofCategories
    {categories : List Category}
    {category : Category}
    {count : Nat} :
    (category, count) ∈ ofCategories categories ↔
      count = categories.count category ∧ count ≠ 0 := by
  have isListed : category ∈ Category.all := by
    cases category <;> decide
  simp only [ofCategories, List.mem_filter, List.mem_map, Prod.mk.injEq, decide_eq_true_eq]
  constructor
  · rintro ⟨⟨_, _, rfl, rfl⟩, occurs⟩
    exact ⟨rfl, occurs⟩
  · rintro ⟨rfl, occurs⟩
    exact ⟨⟨category, isListed, rfl, rfl⟩, occurs⟩

/-- The statistics of a log do not depend on more than categories. -/
theorem statistics_eq
    (log : Log)
    (elapsed : Nat) :
    log.statistics elapsed = {
      total := max log.declaredTotal (log.successful + log.categories.length)
      successful := log.successful
      failed := log.categories.length
      successRate :=
        rate log.successful (max log.declaredTotal (log.successful + log.categories.length))
      byCategory := ofCategories log.categories
      elapsedMilliseconds := elapsed } := by
  have sameCount : ∀ category,
      log.records.countP (·.category = category) = log.categories.count category := by
    intro category
    rw [Log.categories, List.count, List.countP_map]
    rfl
  simp only [Log.statistics, compute, tally, ofCategories, sameCount, Log.categories,
    List.length_map]

/-- Statistics that list how often each category occurs count that. -/
theorem count_of_byCategory
    {statistics : Statistics}
    {categories : List Category}
    (isListed : statistics.byCategory = ofCategories categories)
    (category : Category) :
    statistics.count category = categories.count category := by
  rw [count, isListed]
  cases found : (ofCategories categories).find? (·.1 = category) with
  | none =>
      refine Eq.symm (Classical.byContradiction fun occurs => ?_)
      have member : (category, categories.count category) ∈ ofCategories categories :=
        mem_ofCategories.mpr ⟨rfl, occurs⟩
      simpa using List.find?_eq_none.mp found _ member
  | some entry =>
      obtain ⟨listed, count⟩ := entry
      obtain rfl : listed = category := by simpa using List.find?_some found
      exact (mem_ofCategories.mp (List.mem_of_find?_eq_some found)).1

end Statistics

/-! ### Counting outcomes -/

/-- A log has counted the outcomes of files since it was another one. -/
structure Log.Counts (before after : Log) (outcomes : List Outcome) : Prop where
  sameTotal : after.declaredTotal = before.declaredTotal
  successful : after.successful = before.successful + outcomes.countP (!·.isFailed)
  categories : after.categories = before.categories ++ outcomes.filterMap (·.failureCategory?)

namespace Log.Counts

variable {log after last : Log} {outcomes others : List Outcome}

theorem refl (log : Log) : Log.Counts log log [] where
  sameTotal := rfl
  successful := rfl
  categories := (List.append_nil _).symm

/-- Outcomes that are counted one after another are counted together. -/
theorem append
    (first : Log.Counts log after outcomes)
    (second : Log.Counts after last others) :
    Log.Counts log last (outcomes ++ others) where
  sameTotal := second.sameTotal.trans first.sameTotal
  successful := by
    rw [second.successful, first.successful, List.countP_append, Nat.add_assoc]
  categories := by
    rw [second.categories, first.categories, List.filterMap_append, List.append_assoc]

theorem addRecord
    {failure : Analysis.Failure}
    {record : Record}
    (log : Log)
    (isCategory : record.category = Category.classify failure.message) :
    Log.Counts log (log.addRecord record) [.ofFailure failure] where
  sameTotal := rfl
  successful := rfl
  categories := by
    rw [categories_addRecord, isCategory]
    rfl

theorem addSuccess
    {outcome : Outcome}
    {model : Facts.Model}
    (log : Log)
    (isModel : outcome.model? = some model) :
    Log.Counts log log.addSuccess [outcome] := by
  cases outcome with
  | failed category reason =>
      exact absurd isModel (by simp [Outcome.model?])
  | success _ | incomplete _ _ =>
      exact ⟨rfl, rfl, (List.append_nil _).symm⟩

end Log.Counts

namespace Statistics

/-- The statistics of a run that took some milliseconds and whose files have these
outcomes. -/
def ofOutcomes (outcomes : List Outcome) (elapsed : Nat) : Statistics where
  total := outcomes.length
  successful := outcomes.countP (!·.isFailed)
  failed := outcomes.countP (·.isFailed)
  successRate := rate (outcomes.countP (!·.isFailed)) outcomes.length
  byCategory := ofCategories (outcomes.filterMap (·.failureCategory?))
  elapsedMilliseconds := elapsed

theorem length_failureCategories (outcomes : List Outcome) :
    (outcomes.filterMap (·.failureCategory?)).length = outcomes.countP (·.isFailed) := by
  induction outcomes with
  | nil =>
      rfl
  | cons outcome rest inductionHypothesis =>
      cases outcome <;> simpa [Outcome.failureCategory?, Outcome.isFailed]

/-- Every outcome is a failure or is not. -/
theorem countP_isFailed (outcomes : List Outcome) :
    outcomes.countP (!·.isFailed) + outcomes.countP (·.isFailed) = outcomes.length := by
  rw [Nat.add_comm, List.length_eq_countP_add_countP (·.isFailed)]
  simp

/-- A log that has counted the outcomes of all files that it was announced to have counts
nothing else. -/
theorem statistics_of_counts
    {outcomes : List Outcome}
    {log : Log}
    {total : Nat}
    (counts : Log.Counts (Log.declareTotal {} total) log outcomes)
    (isTotal : total = outcomes.length)
    (elapsed : Nat) :
    log.statistics elapsed = ofOutcomes outcomes elapsed := by
  have successful : log.successful = outcomes.countP (!·.isFailed) :=
    counts.successful.trans (Nat.zero_add _)
  have categories : log.categories = outcomes.filterMap (·.failureCategory?) :=
    counts.categories
  have declared : log.declaredTotal = outcomes.length := counts.sameTotal.trans isTotal
  simp only [statistics_eq, successful, categories, declared, length_failureCategories,
    countP_isFailed, Nat.max_self]
  rfl

/-- Statistics but for the time. -/
def untimed (statistics : Statistics) : Statistics :=
  { statistics with elapsedMilliseconds := 0 }

/-- Logs that have counted the same have the same statistics but for the time. -/
theorem untimed_statistics
    {start log other : Log}
    {outcomes : List Outcome}
    (counts : Log.Counts start log outcomes)
    (countsToo : Log.Counts start other outcomes)
    (elapsed later : Nat) :
    (log.statistics elapsed).untimed = (other.statistics later).untimed := by
  have sameTotal := counts.sameTotal.trans countsToo.sameTotal.symm
  have successful := counts.successful.trans countsToo.successful.symm
  have categories := counts.categories.trans countsToo.categories.symm
  rw [statistics_eq, statistics_eq, sameTotal, successful, categories]
  rfl

/-- Statistics account for a number of files with these outcomes. -/
structure Accounts (statistics : Statistics) (files : Nat) (outcomes : List Outcome) : Prop where
  total : statistics.total = files
  /-- Every file succeeded or failed. -/
  split : statistics.successful + statistics.failed = files
  successful : statistics.successful =
    outcomes.countP fun outcome => outcome.isSuccess || outcome.isIncomplete
  failed : statistics.failed = outcomes.countP (·.isFailed)
  successRate : statistics.successRate = rate statistics.successful statistics.total
  /-- Each category has the number of its failures. -/
  count : ∀ category, statistics.count category =
    outcomes.countP (·.failureCategory? = some category)
  /-- The categories that are listed are those with failures. -/
  listed : ∀ category count, (category, count) ∈ statistics.byCategory ↔
    count = outcomes.countP (·.failureCategory? = some category) ∧ count ≠ 0

/-- The categories of outcomes are those of the failures among them. -/
theorem count_failureCategories
    (outcomes : List Outcome)
    (category : Category) :
    (outcomes.filterMap (·.failureCategory?)).count category =
      outcomes.countP (·.failureCategory? = some category) := by
  rw [List.count, List.countP_filterMap]
  refine List.countP_congr fun outcome _ => ?_
  cases outcome.failureCategory? <;> simp

/-- The statistics of outcomes account for them. -/
theorem accounts_ofOutcomes
    (outcomes : List Outcome)
    (elapsed : Nat) :
    Accounts (ofOutcomes outcomes elapsed) outcomes.length outcomes where
  total := rfl
  split := countP_isFailed outcomes
  successful := by
    refine List.countP_congr fun outcome _ => ?_
    cases outcome <;> simp [Outcome.isFailed, Outcome.isSuccess, Outcome.isIncomplete]
  failed := rfl
  successRate := rfl
  count category := by
    rw [count_of_byCategory rfl, count_failureCategories]
  listed category count := by
    rw [ofOutcomes, mem_ofCategories, count_failureCategories]

/-- Statistics that count one more failure of a category than others, and are else the same but
for the time. -/
structure OneMore (category : Category) (fewer more : Statistics) : Prop where
  total : more.total = fewer.total + 1
  successful : more.successful = fewer.successful
  failed : more.failed = fewer.failed + 1
  successRate : more.successRate = rate fewer.successful (fewer.total + 1)
  count : ∀ other, more.count other = fewer.count other + if other = category then 1 else 0
  listed : ∀ other count, (other, count) ∈ more.byCategory ↔
    (count = fewer.count other + if other = category then 1 else 0) ∧ count ≠ 0

/-- One more failure among outcomes is one more in their statistics. -/
theorem oneMore_ofOutcomes
    (before after : List Outcome)
    (failure : Analysis.Failure)
    (elapsed later : Nat) :
    OneMore (Category.classify failure.message) (ofOutcomes (before ++ after) elapsed)
      (ofOutcomes (before ++ .ofFailure failure :: after) later) := by
  let category := Category.classify failure.message
  let categories (outcomes : List Outcome) := outcomes.filterMap (·.failureCategory?)
  have isCount : ∀ outcomes elapsed other,
      (ofOutcomes outcomes elapsed).count other = (categories outcomes).count other :=
    fun _ _ other => count_of_byCategory rfl other
  have counts : ∀ other,
      (categories (before ++ .ofFailure failure :: after)).count other =
        (categories (before ++ after)).count other + if other = category then 1 else 0 := by
    intro other
    have isCategory : categories (.ofFailure failure :: after) = category :: categories after := rfl
    have split : ∀ outcomes, categories (before ++ outcomes) =
        categories before ++ categories outcomes :=
      fun _ => List.filterMap_append
    rw [split, split, isCategory, List.count_append, List.count_append, List.count_cons,
      Nat.add_assoc]
    simp only [beq_iff_eq, @eq_comm _ category other]
  exact {
    total := by simp [ofOutcomes, Nat.add_assoc]
    successful := by simp [ofOutcomes, Outcome.ofFailure, Outcome.isFailed]
    failed := by simp [ofOutcomes, Outcome.ofFailure, Outcome.isFailed, Nat.add_assoc]
    successRate := by
      simp [ofOutcomes, Outcome.ofFailure, Outcome.isFailed, Nat.add_assoc]
    count := fun other => by
      rw [isCount, isCount, counts]
    listed := fun other count => by
      rw [isCount, ← counts]
      exact mem_ofCategories }

end Statistics

end SourceFacts.Failures

namespace SourceFacts

/-!
## What a written report shows

A value that is written over many lines ends with what is last in it. So the text of a report on
failures shows whether there were any.
-/

namespace Json

/-- The last field of a record is written last. -/
theorem suffix_prettyFields
    (level : Nat)
    (fields : List (String × Json))
    (name : String)
    (value : Json)
    (isFirst : Bool) :
    prettyChars level value <:+ prettyFields level (fields ++ [(name, value)]) isFirst := by
  induction fields generalizing isFirst with
  | nil =>
      rw [List.nil_append, prettyFields, prettyFields, List.append_nil]
      exact (List.suffix_append [':', ' '] _).trans (List.suffix_append _ _)
  | cons field rest inductionHypothesis =>
      rw [List.cons_append, prettyFields]
      exact (inductionHypothesis false).trans (List.suffix_append _ _)

/-- What stands before the bracket at the end of a list. -/
def beforeEnd (items : List Json) : Char := if items.isEmpty then '[' else ' '

/-- A list that is written on more than one line ends with a bracket on a line of its own. -/
theorem suffix_prettyChars_array
    (level : Nat)
    (items : List Json) :
    [beforeEnd items, ']'] <:+ prettyChars (level + 1) (.array items) := by
  cases items with
  | nil =>
      rw [prettyChars]
      exact List.suffix_rfl
  | cons item rest =>
      have isLine : [' ', ']'] <:+ newLine (level + 1) ++ [']'] := by
        rw [newLine, Nat.mul_succ, ← List.replicate_append_replicate]
        exact ⟨'\n' :: List.replicate (2 * level) ' ' ++ [' '], by simp [List.replicate]⟩
      rw [prettyChars]
      · rw [List.append_assoc]
        exact isLine.trans ((List.suffix_append _ _).trans (List.suffix_cons _ _))
      · simp

end Json

namespace Failures

open Json Time

/-- A report ends with the bracket after its failures and with its own. -/
theorem Log.suffix_pretty_report
    (log : Log)
    (project : String)
    (now : Instant)
    (elapsed : Nat) :
    [beforeEnd (log.records.map Record.toJson), ']', '\n', '\x7d'] <:+
      prettyChars 0 (log.report project now elapsed) := by
  let fields : List (String × Json) := [
    ("timestamp", instantJson now),
    ("project_path", .string project),
    ("summary", (log.statistics elapsed).toJson),
    ("errors", .array (log.records.map Record.toJson))]
  obtain ⟨front, isFront⟩ : [beforeEnd (log.records.map Record.toJson), ']'] <:+
      prettyFields 1 fields true :=
    (suffix_prettyChars_array 0 _).trans (suffix_prettyFields 1 fields.dropLast "errors" _ true)
  show _ <:+ prettyChars 0 (.object fields)
  rw [prettyChars]
  · refine ⟨'\x7b' :: front, ?_⟩
    rw [Nat.zero_add, ← isFront]
    simp [newLine]
  · simp

/-- The text of a report shows whether there were failures. -/
theorem Log.hasFailures_of_pretty_report
    {log other : Log}
    {project otherProject : String}
    {now later : Instant}
    {elapsed otherElapsed : Nat}
    (sameText : (log.report project now elapsed).pretty =
      (other.report otherProject later otherElapsed).pretty) :
    log.hasFailures = other.hasFailures := by
  have sameChars := String.ofList_inj.mp sameText
  have ends := log.suffix_pretty_report project now elapsed
  rw [sameChars] at ends
  have sameEnd := (List.suffix_of_suffix_length_le ends
    (other.suffix_pretty_report otherProject later otherElapsed) (Nat.le_refl _)).eq_of_length rfl
  have sameChar := (List.cons.inj sameEnd).1
  simp only [beforeEnd, List.isEmpty_map] at sameChar
  rw [hasFailures, hasFailures]
  cases isEmpty : log.records.isEmpty <;> cases isEmptyToo : other.records.isEmpty <;>
    simp [isEmpty, isEmptyToo] at sameChar ⊢

end Failures

end SourceFacts
