import Mathlib.Data.List.Destutter
import Mathlib.Data.List.Nodup
import SourceFacts.Hints.Engine

namespace SourceFacts.Hints

/-!
# Hints that are given twice

A class is given the hints of the rules that apply to it, and a file those of the frameworks that
it uses, each hint unless it is equal to the one before it. So a hint is given twice if and only
if a rule with another hint applies between two rules with this one. Where rules with equal hints
stand together, as in the tables that are built in, no hint is ever given twice.
-/

open Facts List

/-! ## Repeats that are left out -/

/-- Equal elements stand together: what is between two of them is equal to them. -/
def StandTogether (items : List String) : Prop :=
  ∀ item other, [item, other, item] <+ items → other = item

/-- What stands together goes on to do so if others are taken away. -/
theorem StandTogether.sublist
    {some items : List String}
    (together : StandTogether items)
    (taken : some <+ items) :
    StandTogether some :=
  fun item other between => together item other (between.trans taken)

/-- Different elements stand together. -/
theorem standTogether_of_nodup
    {items : List String}
    (distinct : items.Nodup) :
    StandTogether items := by
  intro item other between
  have twice : [item, item] <+ items :=
    ((List.sublist_cons_self other [item]).cons_cons item).trans between
  exact absurd twice (List.nodup_iff_sublist.mp distinct item)

/-- An element in front stands together with the others if an equal one comes next or there is
none. -/
theorem standTogether_cons
    {item : String}
    {items : List String} :
    StandTogether (item :: items) ↔
      (item ∈ items → items.head? = some item) ∧ StandTogether items := by
  constructor
  · intro together
    refine ⟨fun again => ?_, together.sublist (List.sublist_cons_self item items)⟩
    cases items with
    | nil =>
        cases again
    | cons next rest =>
        rcases List.mem_cons.mp again with rfl | later
        · rfl
        · have between : [item, next, item] <+ item :: next :: rest :=
            ((List.singleton_sublist.mpr later).cons_cons next).cons_cons item
          rw [together item next between]
          rfl
  · rintro ⟨comesNext, together⟩ first other between
    rcases List.sublist_cons_iff.mp between with later | ⟨rest, isRest, later⟩
    · exact together first other later
    · obtain ⟨rfl, rfl⟩ := List.cons.inj isRest
      have again : first ∈ items := later.subset (List.mem_cons_of_mem other List.mem_cons_self)
      cases items with
      | nil =>
          cases again
      | cons next rest =>
          obtain rfl := Option.some.inj (comesNext again)
          -- the other one is the next or comes after it
          rcases List.sublist_cons_iff.mp later with inRest | ⟨_, isOther, _⟩
          · exact together next other (inRest.cons_cons next)
          · exact (List.cons.inj isOther).1

/-- Leaving out repeats keeps an element unless the one before it is equal. -/
theorem withoutRepeats_eq_destutter (items : List String) :
    withoutRepeats items = items.destutter (· ≠ ·) := by
  fun_induction withoutRepeats items with
  | case1 =>
      rfl
  | case2 item =>
      rfl
  | case3 item rest inductionHypothesis =>
      rw [inductionHypothesis, List.destutter_cons', List.destutter_cons',
        List.destutter'_cons_neg _ (by simp)]
  | case4 first second rest differs inductionHypothesis =>
      rw [inductionHypothesis, List.destutter_cons', List.destutter_cons',
        List.destutter'_cons_pos _ differs]

/-- Leaving out repeats loses no element. -/
@[simp] theorem mem_withoutRepeats
    {item : String}
    {items : List String} :
    item ∈ withoutRepeats items ↔ item ∈ items := by
  fun_induction withoutRepeats items with
  | case1 =>
      rfl
  | case2 item =>
      rfl
  | case3 first rest inductionHypothesis =>
      rw [inductionHypothesis]
      simp
  | case4 first second rest differs inductionHypothesis =>
      rw [List.mem_cons, List.mem_cons, inductionHypothesis]

/-- Without repeats no element is left twice if and only if equal ones stood together. -/
theorem nodup_withoutRepeats_iff (items : List String) :
    (withoutRepeats items).Nodup ↔ StandTogether items := by
  fun_induction withoutRepeats items with
  | case1 =>
      exact iff_of_true List.nodup_nil (standTogether_of_nodup List.nodup_nil)
  | case2 item =>
      exact iff_of_true (List.nodup_singleton item)
        (standTogether_of_nodup (List.nodup_singleton item))
  | case3 item rest inductionHypothesis =>
      have comesNext : item ∈ item :: rest → (item :: rest).head? = some item := fun _ => rfl
      rw [inductionHypothesis, @standTogether_cons item (item :: rest)]
      exact (and_iff_right comesNext).symm
  | case4 first second rest differs inductionHypothesis =>
      have comesNext : (second :: rest).head? ≠ some first :=
        fun isFirst => differs (Option.some.inj isFirst).symm
      rw [List.nodup_cons, inductionHypothesis, mem_withoutRepeats,
        @standTogether_cons first (second :: rest), imp_iff_not comesNext]

/-! ## Hints of rules that apply -/

/-- Hints are given for rules that apply, of which the hints are known in the order of the
rules. -/
structure AreGivenFor (given applying : List String) : Prop where
  /-- The hint of every rule that applies is given, and no other. -/
  mem_iff : ∀ hint, hint ∈ given ↔ hint ∈ applying
  /-- They are given in the order of the rules. -/
  ordered : given <+ applying
  /-- No hint is given twice in a row. -/
  neighbours : given.IsChain (· ≠ ·)
  /-- A hint is given twice if and only if a rule with another hint applies between two rules
  with it. -/
  nodup_iff : given.Nodup ↔ StandTogether applying

/-- Without repeats, hints are given as they should be. -/
theorem areGivenFor_withoutRepeats (applying : List String) :
    AreGivenFor (withoutRepeats applying) applying where
  mem_iff := fun _ => mem_withoutRepeats
  ordered := by
    rw [withoutRepeats_eq_destutter]
    exact List.destutter_sublist _ applying
  neighbours := by
    rw [withoutRepeats_eq_destutter]
    exact List.isChain_destutter _ applying
  nodup_iff := nodup_withoutRepeats_iff applying

namespace Engine

variable {engine : Engine}

/-- The hints of the rules that apply to a class, in order. -/
def applyingPatterns (engine : Engine) (cls : Facts.Class) : List String :=
  (engine.patternRules.filter (engine.applies cls)).map (·.hint)

/-- The hints of the frameworks that a file seems to use, in order. -/
def applyingFrameworks (engine : Engine) (model : Model) : List String :=
  (engine.frameworkRules.filter (·.holds model)).map (·.hint)

/-- What an engine gives hints for, and which of them it may give twice. -/
structure GivesHints (engine : Engine) : Prop where
  /-- Every class is given the hints of the rules that apply to it. -/
  classes : ∀ model, List.Forall₂
    (fun before after => AreGivenFor after.patterns (engine.applyingPatterns before))
    model.classes (engine.apply model).classes
  /-- A file is given the hints of the frameworks that it uses. -/
  frameworks : ∀ model,
    AreGivenFor (engine.apply model).frameworks (engine.applyingFrameworks model)
  /-- If rules with equal hints stand together, no class is given a hint twice. -/
  classesOnce : StandTogether (engine.patternRules.map (·.hint)) →
    ∀ model, ∀ cls ∈ (engine.apply model).classes, cls.patterns.Nodup
  /-- If frameworks with equal hints stand together, no file is given a hint twice. -/
  frameworksOnce : StandTogether (engine.frameworkRules.map (·.hint)) →
    ∀ model, (engine.apply model).frameworks.Nodup

/-- The hints of classes do not decide which frameworks a file uses. -/
theorem frameworks_apply (engine : Engine) (model : Model) :
    (engine.apply model).frameworks = withoutRepeats (engine.applyingFrameworks model) := by
  have sameHolds : ∀ rule : FrameworkRule,
      rule.holds { model with
        classes := model.classes.map fun cls => { cls with patterns := engine.patternsOf cls } } =
          rule.holds model := by
    intro rule
    simp [FrameworkRule.holds, Model.allFunctions, List.flatMap_map]
  rw [Engine.apply, frameworksOf, applyingFrameworks]
  simp only [sameHolds]

theorem nodup_patternsOf
    (together : StandTogether (engine.patternRules.map (·.hint)))
    (cls : Facts.Class) :
    (engine.patternsOf cls).Nodup :=
  (nodup_withoutRepeats_iff _).mpr (together.sublist (List.filter_sublist.map _))

theorem nodup_frameworks
    (together : StandTogether (engine.frameworkRules.map (·.hint)))
    (model : Model) :
    (engine.apply model).frameworks.Nodup := by
  rw [frameworks_apply]
  exact (nodup_withoutRepeats_iff _).mpr (together.sublist (List.filter_sublist.map _))

/-- Every engine gives hints in this way. -/
theorem givesHints (engine : Engine) : engine.GivesHints where
  classes := by
    intro model
    rw [Engine.apply, List.forall₂_map_right_iff, List.forall₂_same]
    exact fun cls _ => areGivenFor_withoutRepeats (engine.applyingPatterns cls)
  frameworks := by
    intro model
    rw [frameworks_apply]
    exact areGivenFor_withoutRepeats (engine.applyingFrameworks model)
  classesOnce := by
    intro together model cls isClass
    obtain ⟨before, _, rfl⟩ := List.mem_map.mp isClass
    exact nodup_patternsOf together before
  frameworksOnce := nodup_frameworks

/-- Rules of which the first and the last have the same hint. -/
def enclosing : Engine where
  patternRules := [
    { hint := "Base", condition := .isAbstract },
    { hint := "Record", condition := .isDataclass },
    { hint := "Base", condition := .inheritsFrom ["ABC"] }]
  frameworkRules := [
    { hint := "Web", modules := ["flask"] },
    { hint := "Data", modules := ["numpy"] },
    { hint := "Web", modules := ["django"] }]

/-- A file that uses three modules and has a class to which the three rules apply. -/
def mixedModel : Model where
  path := "m.py"
  classes := [{ name := "A", bases := ["ABC"], isAbstract := true, isDataclass := true }]
  imports := [{ moduleName := "flask" }, { moduleName := "numpy" }, { moduleName := "django" }]

/-- A class and a file are given a hint twice where another one comes between. -/
theorem exists_hints_given_twice :
    ((enclosing.apply mixedModel).classes.map (·.patterns) = [["Base", "Record", "Base"]] ∧
        (enclosing.apply mixedModel).frameworks = ["Web", "Data", "Web"]) ∧
      ¬ ∀ (engine : Engine) (model : Model),
        (∀ cls ∈ (engine.apply model).classes, cls.patterns.Nodup) ∧
          (engine.apply model).frameworks.Nodup := by
  have classes : (enclosing.apply mixedModel).classes.map (·.patterns) =
      [["Base", "Record", "Base"]] := by
    decide +kernel
  have frameworks : (enclosing.apply mixedModel).frameworks = ["Web", "Data", "Web"] := by
    decide +kernel
  refine ⟨⟨classes, frameworks⟩, fun distinct => ?_⟩
  have once := (distinct enclosing mixedModel).2
  rw [frameworks] at once
  exact absurd once (by decide)

/-- The rules that are built in never give a hint twice. -/
theorem nodup_builtin (model : Model) :
    (∀ cls ∈ (builtin.apply model).classes, cls.patterns.Nodup) ∧
      (builtin.apply model).frameworks.Nodup := by
  have patternRules : StandTogether (builtin.patternRules.map (·.hint)) :=
    standTogether_of_nodup (by decide +kernel)
  have frameworkRules : StandTogether (builtin.frameworkRules.map (·.hint)) :=
    standTogether_of_nodup (by decide +kernel)
  refine ⟨fun cls isClass => ?_, nodup_frameworks frameworkRules model⟩
  obtain ⟨before, _, rfl⟩ := List.mem_map.mp isClass
  exact nodup_patternsOf patternRules before

end Engine

end SourceFacts.Hints
