import SourceFacts.Hints.Engine

namespace SourceFacts.Hints

/-!
# Rules are evaluated on their own

An engine keeps the patterns of all its rules in one table. What a pattern means there depends on
its text alone, and every pattern of a rule is in the table, whatever rules were added before or
after it, and whether they are valid. So a rule comes to what its condition comes to on its own.
-/

open Facts

/-! ## Tables of patterns -/

namespace CompiledPatterns

variable {compiled : CompiledPatterns} {pattern : String}

/-- The expression of a pattern by its text alone. -/
def regexOfText (pattern : String) : Except HintError Regex :=
  match Regex.ofText? pattern with
  | none => .error (.invalidPattern pattern)
  | some regex => .ok regex

/-- Every entry of a table says of its pattern what the text says. -/
def IsFaithful (compiled : CompiledPatterns) : Prop :=
  ∀ entry ∈ compiled.entries, entry.2 = Regex.ofText? entry.1

/-- There is an entry for a pattern. -/
def Has (compiled : CompiledPatterns) (pattern : String) : Prop :=
  ∃ entry ∈ compiled.entries, entry.1 = pattern

/-- A faithful table gives the expression of the text for the patterns that it has. -/
theorem regex_of_has
    (faithful : compiled.IsFaithful)
    (has : compiled.Has pattern) :
    compiled.regex pattern = regexOfText pattern := by
  rw [regex, regexOfText]
  cases found : compiled.entries.find? (·.1 == pattern) with
  | none =>
      obtain ⟨entry, member, isPattern⟩ := has
      have differs := List.find?_eq_none.mp found entry member
      exact absurd (beq_iff_eq.mpr isPattern) differs
  | some entry =>
      have same : entry.1 = pattern := by
        simpa using List.find?_some found
      have sameOutcome := faithful entry (List.mem_of_find?_eq_some found)
      rw [same] at sameOutcome
      obtain ⟨_, regex?⟩ := entry
      dsimp only at sameOutcome
      rw [← sameOutcome]
      cases regex? <;> rfl

/-- Compiling a pattern keeps a table faithful. -/
theorem IsFaithful.compilePattern
    (faithful : compiled.IsFaithful)
    (pattern : String) :
    (compiled.compilePattern pattern).IsFaithful := by
  rw [CompiledPatterns.compilePattern]
  split
  · exact faithful
  · intro entry member
    rcases List.mem_append.mp member with known | isNew
    · exact faithful entry known
    · rw [List.mem_singleton.mp isNew]

/-- Compiling another pattern takes none away. -/
theorem Has.compilePattern
    (has : compiled.Has pattern)
    (other : String) :
    (compiled.compilePattern other).Has pattern := by
  obtain ⟨entry, member, isPattern⟩ := has
  rw [CompiledPatterns.compilePattern]
  split
  · exact ⟨entry, member, isPattern⟩
  · exact ⟨entry, List.mem_append_left _ member, isPattern⟩

/-- A pattern that is compiled is in the table, valid or not. -/
theorem has_compilePattern
    (compiled : CompiledPatterns)
    (pattern : String) :
    (compiled.compilePattern pattern).Has pattern := by
  rw [CompiledPatterns.compilePattern]
  split
  · rename_i known
    obtain ⟨entry, member, isPattern⟩ := List.any_eq_true.mp known
    exact ⟨entry, member, beq_iff_eq.mp isPattern⟩
  · exact ⟨_, List.mem_append_right _ List.mem_cons_self, rfl⟩

/-- A table that is faithful and has some patterns. -/
structure Serves (compiled : CompiledPatterns) (patterns : List String) : Prop where
  isFaithful : compiled.IsFaithful
  has : ∀ pattern ∈ patterns, compiled.Has pattern

theorem serves_empty : Serves {} [] where
  isFaithful := by simp [IsFaithful]
  has := by simp

/-- Compiling further patterns adds them to those that a table serves. -/
theorem Serves.compileAll
    {known : List String}
    (serves : compiled.Serves known)
    (patterns : List String) :
    (patterns.foldl CompiledPatterns.compilePattern compiled).Serves (known ++ patterns) := by
  induction patterns generalizing compiled known with
  | nil =>
      rwa [List.append_nil]
  | cons first rest inductionHypothesis =>
      have next : (compiled.compilePattern first).Serves (known ++ [first]) := by
        refine ⟨serves.isFaithful.compilePattern first, fun pattern member => ?_⟩
        rcases List.mem_append.mp member with isKnown | isFirst
        · exact (serves.has pattern isKnown).compilePattern first
        · rw [List.mem_singleton.mp isFirst]
          exact has_compilePattern compiled first
      have whole := inductionHypothesis next
      rwa [List.append_assoc] at whole

/-- A table gives the expression of the text for the patterns that it serves. -/
theorem Serves.regex_eq
    {patterns : List String}
    (serves : compiled.Serves patterns)
    (member : pattern ∈ patterns) :
    compiled.regex pattern = regexOfText pattern :=
  regex_of_has serves.isFaithful (serves.has pattern member)

end CompiledPatterns

/-! ## Conditions -/

namespace Condition

variable {first second compiled : CompiledPatterns} {cls : Facts.Class}

mutual

/-- A condition comes to the same by tables that agree on its patterns. -/
theorem evaluateWith_congr
    {condition : Condition}
    (agree : ∀ pattern ∈ condition.patterns, first.regex pattern = second.regex pattern) :
    condition.evaluateWith first cls = condition.evaluateWith second cls := by
  cases condition with
  | methodNamePattern pattern =>
      rw [evaluateWith, evaluateWith, agree pattern (by simp [patterns])]
  | all conditions =>
      rw [patterns] at agree
      rw [evaluateWith, evaluateWith, allOf_congr agree]
  | any conditions =>
      rw [patterns] at agree
      rw [evaluateWith, evaluateWith, anyOf_congr agree]
  | _ =>
      rw [evaluateWith, evaluateWith]

/-- So do all of some conditions. -/
theorem allOf_congr
    {conditions : List Condition}
    (agree : ∀ pattern ∈ patternsOfList conditions,
      first.regex pattern = second.regex pattern) :
    allOf first cls conditions = allOf second cls conditions := by
  cases conditions with
  | nil =>
      rw [allOf, allOf]
  | cons condition rest =>
      rw [patternsOfList, List.forall_mem_append] at agree
      rw [allOf, allOf, evaluateWith_congr agree.1, allOf_congr agree.2]

/-- So does any of some conditions. -/
theorem anyOf_congr
    {conditions : List Condition}
    (agree : ∀ pattern ∈ patternsOfList conditions,
      first.regex pattern = second.regex pattern) :
    anyOf first cls conditions = anyOf second cls conditions := by
  cases conditions with
  | nil =>
      rw [anyOf, anyOf]
  | cons condition rest =>
      rw [patternsOfList, List.forall_mem_append] at agree
      rw [anyOf, anyOf, evaluateWith_congr agree.1, anyOf_congr agree.2]

end

mutual

/-- A condition that comes to no answer fails as one of its patterns does. -/
theorem exists_regex_error
    {condition : Condition}
    {error : HintError}
    (fails : condition.evaluateWith compiled cls = .error error) :
    ∃ pattern ∈ condition.patterns, compiled.regex pattern = .error error := by
  cases condition with
  | methodNamePattern pattern =>
      refine ⟨pattern, by simp [patterns], ?_⟩
      rw [evaluateWith] at fails
      cases found : compiled.regex pattern with
      | error other =>
          rw [found] at fails
          exact congrArg Except.error (Except.error.inj fails)
      | ok regex =>
          rw [found] at fails
          cases fails
  | all conditions =>
      rw [evaluateWith] at fails
      rw [patterns]
      exact exists_regex_error_allOf fails
  | any conditions =>
      rw [evaluateWith] at fails
      rw [patterns]
      exact exists_regex_error_anyOf fails
  | _ =>
      rw [evaluateWith] at fails
      cases fails

/-- So do all of some conditions. -/
theorem exists_regex_error_allOf
    {conditions : List Condition}
    {error : HintError}
    (fails : allOf compiled cls conditions = .error error) :
    ∃ pattern ∈ patternsOfList conditions, compiled.regex pattern = .error error := by
  cases conditions with
  | nil =>
      rw [allOf] at fails
      cases fails
  | cons condition rest =>
      rw [allOf] at fails
      rw [patternsOfList]
      split at fails
      next other comes =>
        obtain ⟨pattern, member, isError⟩ := exists_regex_error comes
        obtain rfl := Except.error.inj fails
        exact ⟨pattern, List.mem_append_left _ member, isError⟩
      next => cases fails
      next =>
        obtain ⟨pattern, member, isError⟩ := exists_regex_error_allOf fails
        exact ⟨pattern, List.mem_append_right _ member, isError⟩

/-- So does any of some conditions. -/
theorem exists_regex_error_anyOf
    {conditions : List Condition}
    {error : HintError}
    (fails : anyOf compiled cls conditions = .error error) :
    ∃ pattern ∈ patternsOfList conditions, compiled.regex pattern = .error error := by
  cases conditions with
  | nil =>
      rw [anyOf] at fails
      cases fails
  | cons condition rest =>
      rw [anyOf] at fails
      rw [patternsOfList]
      split at fails
      next other comes =>
        obtain ⟨pattern, member, isError⟩ := exists_regex_error comes
        obtain rfl := Except.error.inj fails
        exact ⟨pattern, List.mem_append_left _ member, isError⟩
      next => cases fails
      next =>
        obtain ⟨pattern, member, isError⟩ := exists_regex_error_anyOf fails
        exact ⟨pattern, List.mem_append_right _ member, isError⟩

end

/-- A condition comes to the same by a table that serves its patterns as on its own. -/
theorem evaluateWith_of_serves
    {condition : Condition}
    {known : List String}
    (serves : compiled.Serves known)
    (covers : ∀ pattern ∈ condition.patterns, pattern ∈ known) :
    condition.evaluateWith compiled cls = condition.evaluate cls := by
  have alone : (condition.compileInto {}).Serves ([] ++ condition.patterns) :=
    CompiledPatterns.serves_empty.compileAll condition.patterns
  refine evaluateWith_congr fun pattern member => ?_
  rw [serves.regex_eq (covers pattern member), alone.regex_eq (List.mem_append_right _ member)]

/-- With a table that serves its patterns, a condition comes to no answer only because one of
them is invalid. -/
theorem exists_invalid_of_serves
    {condition : Condition}
    {known : List String}
    {error : HintError}
    (serves : compiled.Serves known)
    (covers : ∀ pattern ∈ condition.patterns, pattern ∈ known)
    (fails : condition.evaluateWith compiled cls = .error error) :
    ∃ pattern ∈ condition.patterns,
      error = .invalidPattern pattern ∧ Regex.ofText? pattern = none := by
  obtain ⟨pattern, member, isError⟩ := exists_regex_error fails
  refine ⟨pattern, member, ?_⟩
  rw [serves.regex_eq (covers pattern member), CompiledPatterns.regexOfText] at isError
  split at isError
  · rename_i isInvalid
    exact ⟨(Except.error.inj isError).symm, isInvalid⟩
  · cases isError

end Condition

/-! ## Engines -/

namespace Engine

/-- The engines that are made of the one without rules or the one with the rules that are built
in by adding rules, in any order. -/
inductive IsBuilt : Engine → Prop where
  | empty : IsBuilt .empty
  | builtin : IsBuilt .builtin
  | addPatternRule (engine : Engine) (rule : PatternRule) :
      IsBuilt engine → IsBuilt (engine.addPatternRule rule)
  | addFrameworkRule (engine : Engine) (rule : FrameworkRule) :
      IsBuilt engine → IsBuilt (engine.addFrameworkRule rule)

/-- The table of an engine serves the patterns of its rules. -/
def ServesRules (engine : Engine) : Prop :=
  engine.compiled.Serves (engine.patternRules.flatMap (·.condition.patterns))

/-- Adding a rule compiles its patterns, also those after an invalid one. -/
theorem ServesRules.addPatternRule
    {engine : Engine}
    (serves : engine.ServesRules)
    (rule : PatternRule) :
    (engine.addPatternRule rule).ServesRules := by
  have more := CompiledPatterns.Serves.compileAll serves rule.condition.patterns
  simpa [ServesRules, Engine.addPatternRule, Condition.compile, Condition.compileInto] using more

theorem ServesRules.addPatternRules
    {engine : Engine}
    (serves : engine.ServesRules)
    (rules : List PatternRule) :
    (rules.foldl Engine.addPatternRule engine).ServesRules := by
  induction rules generalizing engine with
  | nil =>
      exact serves
  | cons rule rest inductionHypothesis =>
      exact inductionHypothesis (serves.addPatternRule rule)

/-- However an engine is built, its table serves the patterns of its rules. -/
theorem IsBuilt.servesRules
    {engine : Engine}
    (isBuilt : engine.IsBuilt) :
    engine.ServesRules := by
  induction isBuilt with
  | empty =>
      exact CompiledPatterns.serves_empty
  | builtin =>
      have serves : Engine.empty.ServesRules := CompiledPatterns.serves_empty
      exact serves.addPatternRules builtinPatternRules
  | addPatternRule engine rule _ serves =>
      exact serves.addPatternRule rule
  | addFrameworkRule engine rule _ serves =>
      exact serves

/-- The hints of the rules whose conditions a class meets on their own, in order. -/
def hintsAlone (engine : Engine) (cls : Facts.Class) : List String :=
  (engine.patternRules.filter fun rule => rule.condition.evaluate cls matches .ok true).map (·.hint)

/-- The rules of an engine are evaluated as if each were the only one. -/
structure EvaluatesAlone (engine : Engine) : Prop where
  /-- In the engine a rule comes to what its condition comes to on its own. -/
  evaluates : ∀ rule ∈ engine.patternRules, ∀ cls,
    rule.condition.evaluateWith engine.compiled cls = rule.condition.evaluate cls
  /-- A rule comes to no answer only because one of its patterns is invalid. -/
  failures : ∀ rule ∈ engine.patternRules, ∀ cls error,
    rule.condition.evaluateWith engine.compiled cls = .error error →
      ∃ pattern ∈ rule.condition.patterns,
        error = .invalidPattern pattern ∧ Regex.ofText? pattern = none
  /-- Every class gets the hints, without repeats, of the rules whose conditions hold on their
  own, in the order of the rules. -/
  classes : ∀ model, (engine.apply model).classes =
    model.classes.map fun cls => { cls with patterns := withoutRepeats (engine.hintsAlone cls) }
  /-- A rule applies to the same classes whatever other rules there are. -/
  independent : ∀ other : Engine, other.IsBuilt → ∀ rule ∈ engine.patternRules,
    rule ∈ other.patternRules → ∀ cls, engine.applies cls rule = other.applies cls rule

/-- The rules of every engine that is built are evaluated on their own. -/
theorem IsBuilt.evaluatesAlone
    {engine : Engine}
    (isBuilt : engine.IsBuilt) :
    engine.EvaluatesAlone := by
  have evaluates : ∀ {engine : Engine}, engine.IsBuilt → ∀ rule ∈ engine.patternRules, ∀ cls,
      rule.condition.evaluateWith engine.compiled cls = rule.condition.evaluate cls := by
    intro engine isBuilt rule isRule cls
    exact Condition.evaluateWith_of_serves isBuilt.servesRules
      fun pattern member => List.mem_flatMap.mpr ⟨rule, isRule, member⟩
  have applies : ∀ {engine : Engine}, engine.IsBuilt → ∀ rule ∈ engine.patternRules, ∀ cls,
      engine.applies cls rule = (rule.condition.evaluate cls matches .ok true) := by
    intro engine isBuilt rule isRule cls
    rw [Engine.applies, evaluates isBuilt rule isRule cls]
    cases rule.condition.evaluate cls with
    | error error =>
        rfl
    | ok holds =>
        cases holds <;> rfl
  refine ⟨evaluates isBuilt, ?_, ?_, ?_⟩
  · intro rule isRule cls error fails
    exact Condition.exists_invalid_of_serves isBuilt.servesRules
      (fun pattern member => List.mem_flatMap.mpr ⟨rule, isRule, member⟩) fails
  · intro model
    have hints : ∀ cls, engine.patternsOf cls = withoutRepeats (engine.hintsAlone cls) := by
      intro cls
      rw [patternsOf, hintsAlone,
        List.filter_congr fun rule isRule => applies isBuilt rule isRule cls]
    simp only [Engine.apply, hints]
  · intro other otherIsBuilt rule isRule isOtherRule cls
    rw [applies isBuilt rule isRule cls, applies otherIsBuilt rule isOtherRule cls]

/-- Rules of which two share a pattern with a rule that also has an invalid one. -/
def sharingRules : List PatternRule := [
  { hint := "Broken"
    condition := .all
      [.any [.isAbstract, .methodNamePattern "([unclosed"], .methodNamePattern "^get_"] },
  { hint := "Getter", condition := .methodNamePattern "^get_" },
  { hint := "Getter or abstract", condition := .any [.methodNamePattern "^get_", .isAbstract] }]

/-- A class with a method that gets something. -/
def getterClass : Facts.Class := { name := "Account", methods := [{ name := "get_name" }] }

/-- With the rules that are built in and these, an invalid pattern costs its own rule only. -/
theorem IsBuilt.evaluatesAlone_sharingRules :
    (sharingRules.foldl Engine.addPatternRule Engine.builtin).IsBuilt ∧
      (sharingRules.foldl Engine.addPatternRule Engine.builtin).EvaluatesAlone ∧
      (sharingRules.foldl Engine.addPatternRule Engine.builtin).patternsOf getterClass =
        ["Getter", "Getter or abstract"] := by
  have isBuilt : (sharingRules.foldl Engine.addPatternRule Engine.builtin).IsBuilt :=
    .addPatternRule _ _ (.addPatternRule _ _ (.addPatternRule _ _ .builtin))
  exact ⟨isBuilt, isBuilt.evaluatesAlone, by decide +kernel⟩

end Engine

end SourceFacts.Hints
