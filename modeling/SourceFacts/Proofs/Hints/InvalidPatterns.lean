import Mathlib.Data.List.Forall2
import SourceFacts.Proofs.Hints.Independence

namespace SourceFacts.Hints

/-!
# Rules with invalid patterns

A rule with an invalid pattern is recorded when it is added. A class is asked for the parts of a
condition from the first to the last, until it is settled, so that the rule comes to no answer
where an invalid pattern is reached. Where the condition is settled before, the rule applies as any
other: only a condition that cannot hold without an invalid pattern is never met.
-/

open Facts

/-- Whether a pattern is an expression. -/
def isValid (pattern : String) : Bool := (Regex.ofText? pattern).isSome

namespace Condition

/-! ## What is reached -/

mutual

/-- Whether a class meets a condition, if an invalid pattern matches nothing. -/
def holds (cls : Facts.Class) : Condition → Bool
  | .methodNamePattern pattern =>
      (Regex.ofText? pattern).any fun regex => cls.methods.any fun m => regex.occursIn m.name
  | .all conditions => holdAll cls conditions
  | .any conditions => holdsAny cls conditions
  | condition => (condition.evaluateWith {} cls).toOption.getD false

/-- Whether a class meets all of some conditions. -/
def holdAll (cls : Facts.Class) : List Condition → Bool
  | [] => true
  | condition :: rest => condition.holds cls && holdAll cls rest

/-- Whether a class meets one of some conditions. -/
def holdsAny (cls : Facts.Class) : List Condition → Bool
  | [] => false
  | condition :: rest => condition.holds cls || holdsAny cls rest

end

mutual

/-- The patterns that are reached until a condition is settled for a class. -/
def reached (cls : Facts.Class) : Condition → List String
  | .methodNamePattern pattern => [pattern]
  | .all conditions => reachedByAll cls conditions
  | .any conditions => reachedByAny cls conditions
  | _ => []

/-- The patterns that are reached up to the first condition that a class does not meet. -/
def reachedByAll (cls : Facts.Class) : List Condition → List String
  | [] => []
  | condition :: rest =>
      condition.reached cls ++ if condition.holds cls then reachedByAll cls rest else []

/-- The patterns that are reached up to the first condition that a class meets. -/
def reachedByAny (cls : Facts.Class) : List Condition → List String
  | [] => []
  | condition :: rest =>
      condition.reached cls ++ if condition.holds cls then [] else reachedByAny cls rest

end

/-- The answer of a condition that holds or not, by the patterns that are reached. -/
def answer (reached : List String) (holds : Bool) : Except HintError Bool :=
  match reached.find? (!isValid ·) with
  | some pattern => .error (.invalidPattern pattern)
  | none => .ok holds

@[simp] theorem answer_nil (holds : Bool) : answer [] holds = .ok holds := rfl

/-- What is reached later does not matter if an invalid pattern was reached before. -/
theorem answer_append_of_error
    {first : List String}
    {holds : Bool}
    {error : HintError}
    (fails : answer first holds = .error error)
    (later : List String)
    (other : Bool) :
    answer (first ++ later) other = .error error := by
  rw [answer] at fails ⊢
  rw [List.find?_append]
  cases found : first.find? (!isValid ·) with
  | none =>
      rw [found] at fails
      cases fails
  | some pattern =>
      rw [found] at fails
      exact fails

/-- What is reached first does not matter if it is valid. -/
theorem answer_append_of_ok
    {first : List String}
    {holds holds' : Bool}
    (comes : answer first holds = .ok holds')
    (later : List String)
    (other : Bool) :
    answer (first ++ later) other = answer later other := by
  rw [answer] at comes
  rw [answer, List.find?_append]
  cases found : first.find? (!isValid ·) with
  | none =>
      rfl
  | some pattern =>
      rw [found] at comes
      cases comes

/-- An answer is what holds, if there is one. -/
theorem eq_of_answer_eq_ok
    {reached : List String}
    {holds holds' : Bool}
    (comes : answer reached holds = .ok holds') :
    holds' = holds := by
  rw [answer] at comes
  split at comes
  · cases comes
  · exact (Except.ok.inj comes).symm

/-- A condition is met if it holds and what is reached is valid. -/
theorem answer_eq_true_iff
    {reached : List String}
    {holds : Bool} :
    answer reached holds = .ok true ↔
      holds = true ∧ ∀ pattern ∈ reached, isValid pattern = true := by
  rw [answer]
  split
  next pattern found =>
    have isReached := List.mem_of_find?_eq_some found
    have isInvalid : isValid pattern = false := by
      simpa using List.find?_some found
    refine iff_of_false nofun fun valid => ?_
    rw [valid.2 pattern isReached] at isInvalid
    cases isInvalid
  next none =>
    have valid : ∀ pattern ∈ reached, isValid pattern = true := by
      simpa using none
    exact ⟨fun comes => ⟨Except.ok.inj comes, valid⟩, fun met => congrArg Except.ok met.1⟩

variable {compiled : CompiledPatterns} {cls : Facts.Class}

mutual

/-- By a table that says of its patterns what their texts say, a condition is answered by what is
reached. -/
theorem evaluateWith_eq_answer
    {condition : Condition}
    (agree : ∀ pattern ∈ condition.patterns,
      compiled.regex pattern = CompiledPatterns.regexOfText pattern) :
    condition.evaluateWith compiled cls = answer (condition.reached cls) (condition.holds cls) := by
  cases condition with
  | methodNamePattern pattern =>
      rw [evaluateWith, agree pattern (by simp [patterns]), CompiledPatterns.regexOfText, reached,
        holds, answer]
      cases compiles : Regex.ofText? pattern with
      | none =>
          simp [isValid, compiles, Except.map]
      | some regex =>
          simp [isValid, compiles, Except.map]
  | all conditions =>
      rw [patterns] at agree
      rw [evaluateWith, allOf_eq_answer agree, reached, holds]
  | any conditions =>
      rw [patterns] at agree
      rw [evaluateWith, anyOf_eq_answer agree, reached, holds]
  | _ =>
      simp [evaluateWith, reached, holds, Except.toOption]

/-- So are all of some conditions. -/
theorem allOf_eq_answer
    {conditions : List Condition}
    (agree : ∀ pattern ∈ patternsOfList conditions,
      compiled.regex pattern = CompiledPatterns.regexOfText pattern) :
    allOf compiled cls conditions =
      answer (reachedByAll cls conditions) (holdAll cls conditions) := by
  cases conditions with
  | nil =>
      rw [allOf, reachedByAll, holdAll, answer_nil]
  | cons condition rest =>
      rw [patternsOfList, List.forall_mem_append] at agree
      rw [allOf, evaluateWith_eq_answer agree.1, reachedByAll, holdAll]
      cases comes : answer (condition.reached cls) (condition.holds cls) with
      | error error =>
          rw [answer_append_of_error comes]
      | ok holds =>
          rw [answer_append_of_ok comes, ← eq_of_answer_eq_ok comes]
          cases holds with
          | false =>
              rfl
          | true =>
              exact allOf_eq_answer agree.2

/-- So is any of some conditions. -/
theorem anyOf_eq_answer
    {conditions : List Condition}
    (agree : ∀ pattern ∈ patternsOfList conditions,
      compiled.regex pattern = CompiledPatterns.regexOfText pattern) :
    anyOf compiled cls conditions =
      answer (reachedByAny cls conditions) (holdsAny cls conditions) := by
  cases conditions with
  | nil =>
      rw [anyOf, reachedByAny, holdsAny, answer_nil]
  | cons condition rest =>
      rw [patternsOfList, List.forall_mem_append] at agree
      rw [anyOf, evaluateWith_eq_answer agree.1, reachedByAny, holdsAny]
      cases comes : answer (condition.reached cls) (condition.holds cls) with
      | error error =>
          rw [answer_append_of_error comes]
      | ok holds =>
          rw [answer_append_of_ok comes, ← eq_of_answer_eq_ok comes]
          cases holds with
          | true =>
              rfl
          | false =>
              exact anyOf_eq_answer agree.2

end

/-! ## What cannot hold without a pattern -/

/-- A condition cannot hold before a pattern is reached, whatever part of it settles it. -/
inductive Requires (pattern : String) : Condition → Prop where
  | pattern : Requires pattern (.methodNamePattern pattern)
  | all {conditions : List Condition} (condition : Condition) :
      condition ∈ conditions → Requires pattern condition → Requires pattern (.all conditions)
  | any {conditions : List Condition} :
      (∀ condition ∈ conditions, Requires pattern condition) → Requires pattern (.any conditions)

/-- If all conditions hold, what each of them reaches is reached. -/
theorem mem_reachedByAll
    {conditions : List Condition}
    {condition : Condition}
    {pattern : String}
    (member : condition ∈ conditions)
    (hold : holdAll cls conditions = true)
    (reaches : condition.holds cls = true → pattern ∈ condition.reached cls) :
    pattern ∈ reachedByAll cls conditions := by
  induction conditions with
  | nil =>
      cases member
  | cons first rest inductionHypothesis =>
      rw [holdAll, Bool.and_eq_true] at hold
      rw [reachedByAll, if_pos hold.1, List.mem_append]
      rcases List.mem_cons.mp member with rfl | later
      · exact .inl (reaches hold.1)
      · exact .inr (inductionHypothesis later hold.2)

/-- If one condition holds, what the first of these reaches is reached. -/
theorem mem_reachedByAny
    {conditions : List Condition}
    {pattern : String}
    (holds : holdsAny cls conditions = true)
    (reaches : ∀ condition ∈ conditions, condition.holds cls = true →
      pattern ∈ condition.reached cls) :
    pattern ∈ reachedByAny cls conditions := by
  induction conditions with
  | nil =>
      rw [holdsAny] at holds
      cases holds
  | cons first rest inductionHypothesis =>
      rw [List.forall_mem_cons] at reaches
      rw [reachedByAny, List.mem_append]
      cases holdsFirst : first.holds cls with
      | true =>
          exact .inl (reaches.1 holdsFirst)
      | false =>
          rw [holdsAny, holdsFirst, Bool.false_or] at holds
          exact .inr (inductionHypothesis holds reaches.2)

/-- A pattern that a condition requires is reached where the condition holds. -/
theorem Requires.mem_reached
    {condition : Condition}
    {pattern : String}
    (requires : condition.Requires pattern)
    (holds : condition.holds cls = true) :
    pattern ∈ condition.reached cls := by
  induction requires with
  | pattern =>
      rw [reached]
      exact List.mem_singleton_self pattern
  | all condition member _ inductionHypothesis =>
      rw [Condition.holds] at holds
      rw [reached]
      exact mem_reachedByAll member holds inductionHypothesis
  | any _ inductionHypothesis =>
      rw [Condition.holds] at holds
      rw [reached]
      exact mem_reachedByAny holds inductionHypothesis

end Condition

/-! ## Engines -/

namespace Engine

variable {engine : Engine} {rule : PatternRule}

/-- A rule of an engine applies to the classes that meet its condition before an invalid pattern
is reached. -/
theorem IsBuilt.applies_iff
    (isBuilt : engine.IsBuilt)
    (isRule : rule ∈ engine.patternRules)
    (cls : Facts.Class) :
    engine.applies cls rule = true ↔
      rule.condition.holds cls = true ∧
        ∀ pattern ∈ rule.condition.reached cls, isValid pattern = true := by
  have agree : ∀ pattern ∈ rule.condition.patterns,
      engine.compiled.regex pattern = CompiledPatterns.regexOfText pattern :=
    fun pattern member =>
      isBuilt.servesRules.regex_eq (List.mem_flatMap.mpr ⟨rule, isRule, member⟩)
  rw [applies, Condition.evaluateWith_eq_answer agree, ← Condition.answer_eq_true_iff]
  cases Condition.answer (rule.condition.reached cls) (rule.condition.holds cls) with
  | error error =>
      simp
  | ok holds =>
      cases holds <;> simp

/-- Rules that are there apply as before when another one is added. -/
theorem IsBuilt.applies_addPatternRule
    (isBuilt : engine.IsBuilt)
    {other : PatternRule}
    (isRule : other ∈ engine.patternRules)
    (rule : PatternRule)
    (cls : Facts.Class) :
    (engine.addPatternRule rule).applies cls other = engine.applies cls other := by
  have isRuleStill : other ∈ (engine.addPatternRule rule).patternRules :=
    List.mem_append_left _ isRule
  rw [Bool.eq_iff_iff, (IsBuilt.addPatternRule _ rule isBuilt).applies_iff isRuleStill,
    isBuilt.applies_iff isRule]

/-- A rule that does not apply to a class changes none of its hints. -/
theorem IsBuilt.patternsOf_addPatternRule
    (isBuilt : engine.IsBuilt)
    {cls : Facts.Class}
    (appliesNot : (engine.addPatternRule rule).applies cls rule = false) :
    (engine.addPatternRule rule).patternsOf cls = engine.patternsOf cls := by
  have sameRules :
      (engine.addPatternRule rule).patternRules.filter ((engine.addPatternRule rule).applies cls) =
        engine.patternRules.filter (engine.applies cls) := by
    have added : (engine.addPatternRule rule).patternRules = engine.patternRules ++ [rule] := rfl
    rw [added, List.filter_append, List.filter_singleton, appliesNot,
      List.filter_congr fun other isRule => isBuilt.applies_addPatternRule isRule rule cls]
    exact List.append_nil _
  rw [patternsOf, patternsOf, sameRules]

/-- What becomes of a rule with an invalid pattern that is added to an engine. -/
structure TakesInvalid (engine : Engine) (rule : PatternRule) : Prop where
  /-- The rule is recorded with its first invalid pattern. -/
  recorded : ∃ pattern, rule.condition.patterns.find? (!isValid ·) = some pattern ∧
    (engine.addPatternRule rule).errors = engine.errors ++ [(rule.hint, .invalidPattern pattern)]
  /-- Also in the company of later rules, it applies to the classes that meet its condition before
  an invalid pattern is reached. -/
  applies_iff : ∀ later : Engine, later.IsBuilt → rule ∈ later.patternRules → ∀ cls,
    later.applies cls rule = true ↔
      rule.condition.holds cls = true ∧
        ∀ pattern ∈ rule.condition.reached cls, isValid pattern = true
  /-- So it applies to no class if its condition requires an invalid pattern. -/
  never : ∀ pattern, rule.condition.Requires pattern → isValid pattern = false →
    ∀ later : Engine, later.IsBuilt → rule ∈ later.patternRules → ∀ cls,
      later.applies cls rule = false
  /-- The classes to which it does not apply are given the hints that they are given without
  it. -/
  hints : ∀ model, List.Forall₂
    (fun before after => (engine.addPatternRule rule).applies before rule = false →
      after.patterns = engine.patternsOf before)
    model.classes ((engine.addPatternRule rule).apply model).classes

/-- Every engine takes rules with invalid patterns in this way. -/
theorem IsBuilt.takesInvalid
    (isBuilt : engine.IsBuilt)
    (hasInvalid : ∃ pattern ∈ rule.condition.patterns, isValid pattern = false) :
    engine.TakesInvalid rule where
  recorded := by
    have isThere : (rule.condition.patterns.find? (!isValid ·)).isSome = true := by
      simpa [List.find?_isSome] using hasInvalid
    obtain ⟨pattern, found⟩ := Option.isSome_iff_exists.mp isThere
    have isFirst : rule.condition.invalidPattern? = some pattern := by
      simpa [Condition.invalidPattern?, isValid] using found
    refine ⟨pattern, found, ?_⟩
    simp [Engine.addPatternRule, Condition.compile, isFirst]
  applies_iff := fun _ laterIsBuilt isRule => laterIsBuilt.applies_iff isRule
  never := by
    intro pattern requires isInvalid later laterIsBuilt isRule cls
    refine Bool.eq_false_iff.mpr fun appliesTo => ?_
    obtain ⟨holds, valid⟩ := (laterIsBuilt.applies_iff isRule cls).mp appliesTo
    rw [valid pattern (requires.mem_reached holds)] at isInvalid
    cases isInvalid
  hints := by
    intro model
    rw [Engine.apply, List.forall₂_map_right_iff, List.forall₂_same]
    exact fun cls _ appliesNot => isBuilt.patternsOf_addPatternRule appliesNot

/-- A rule with an alternative to an invalid pattern. -/
def brokenAlternative : PatternRule where
  hint := "Broken"
  condition := .any [.isAbstract, .methodNamePattern "([unclosed"]

/-- A rule with an invalid pattern is taken by the engine with the rules that are built in. -/
theorem IsBuilt.takesInvalid_brokenAlternative :
    Engine.builtin.IsBuilt ∧
      (∃ pattern ∈ brokenAlternative.condition.patterns, isValid pattern = false) ∧
      Engine.builtin.TakesInvalid brokenAlternative := by
  have hasInvalid : ∃ pattern ∈ brokenAlternative.condition.patterns, isValid pattern = false :=
    ⟨"([unclosed", by simp [brokenAlternative, Condition.patterns, Condition.patternsOfList],
      by decide +kernel⟩
  exact ⟨.builtin, hasInvalid, IsBuilt.builtin.takesInvalid hasInvalid⟩

/-- A file with a class that is abstract. -/
def abstractModel : Model where
  path := "m.py"
  classes := [{ name := "A", bases := ["ABC"], isAbstract := true }]

/-- A rule that is recorded for its invalid pattern applies to a class all the same. -/
theorem exists_invalid_rule_applied :
    isValid "([unclosed" = false ∧ "([unclosed" ∈ brokenAlternative.condition.patterns ∧
      (empty.addPatternRule brokenAlternative).errors =
        [("Broken", .invalidPattern "([unclosed")] ∧
      ((empty.addPatternRule brokenAlternative).apply abstractModel).classes.map (·.patterns) =
        [["Broken"]] := by
  have isReached : "([unclosed" ∈ brokenAlternative.condition.patterns := by
    simp [brokenAlternative, Condition.patterns, Condition.patternsOfList]
  exact ⟨by decide +kernel, isReached, by decide +kernel, by decide +kernel⟩

end Engine

end SourceFacts.Hints
