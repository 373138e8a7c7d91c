import SourceFacts.Hints.Condition

namespace SourceFacts.Hints

/-!
# Hints

Advice about a file: the design patterns that its classes seem to follow, and
the frameworks that it seems to use. Every rule is applied on its own.
-/

open Facts

/-- A design pattern, and what a class that follows it is like. -/
structure PatternRule where
  hint : String
  condition : Condition
deriving Repr, Inhabited

/-- A framework, the modules that belong to it, and how its decorators begin. -/
structure FrameworkRule where
  hint : String
  modules : List String
  decoratorStarts : List String := []
deriving Repr, DecidableEq, Inhabited

/-- Whether a file seems to use a framework. Relative imports are of modules of
the project. -/
def FrameworkRule.holds (rule : FrameworkRule) (model : Model) : Bool :=
  let imported := (model.imports.filter (·.relativeLevel.isNone)).map (·.rootModule)
  let decorators :=
    model.classes.flatMap (·.decorators) ++ model.allFunctions.flatMap (·.decorators)
  imported.any rule.modules.contains ||
    decorators.any fun decorator => rule.decoratorStarts.any (Text.beginsWith decorator)

/-- Rules together with their compiled patterns. -/
structure Engine where
  patternRules : List PatternRule := []
  frameworkRules : List FrameworkRule := []
  compiled : CompiledPatterns := {}
  /-- The rules with an invalid pattern; they never apply because of it. -/
  errors : List (String × HintError) := []
deriving Inhabited

/-- Elements without those equal to the one before them. -/
def withoutRepeats : List String → List String
  | [] => []
  | [text] => [text]
  | first :: second :: rest =>
      if first = second then withoutRepeats (second :: rest)
      else first :: withoutRepeats (second :: rest)

namespace Engine

/-- The engine without rules. -/
def empty : Engine := {}

/-- Adds a rule for a design pattern. -/
def addPatternRule (engine : Engine) (rule : PatternRule) : Engine :=
  let (compiled, result) := rule.condition.compile engine.compiled
  { engine with
    compiled
    patternRules := engine.patternRules ++ [rule]
    errors := match result with
      | .ok () => engine.errors
      | .error error => engine.errors ++ [(rule.hint, error)] }

/-- Adds a rule for a framework. -/
def addFrameworkRule (engine : Engine) (rule : FrameworkRule) : Engine :=
  { engine with frameworkRules := engine.frameworkRules ++ [rule] }

/-- Whether a rule applies to a class; one that comes to no answer does not. -/
def applies (engine : Engine) (cls : Facts.Class) (rule : PatternRule) : Bool :=
  match rule.condition.evaluateWith engine.compiled cls with
  | .ok holds => holds
  | .error _ => false

/-- The design patterns that a class seems to follow. -/
def patternsOf (engine : Engine) (cls : Facts.Class) : List String :=
  withoutRepeats ((engine.patternRules.filter (engine.applies cls)).map (·.hint))

/-- The frameworks that a file seems to use. -/
def frameworksOf (engine : Engine) (model : Model) : List String :=
  withoutRepeats ((engine.frameworkRules.filter (·.holds model)).map (·.hint))

/-- The model with the hints of all rules. -/
def apply (engine : Engine) (model : Model) : Model :=
  let classes := model.classes.map fun cls => { cls with patterns := engine.patternsOf cls }
  { model with classes, frameworks := engine.frameworksOf { model with classes } }

end Engine

/-! ## The rules that are built in -/

/-- Well-known design patterns. -/
def builtinPatternRules : List PatternRule := [
  { hint := "Context Manager", condition := .hasMethods ["__enter__", "__exit__"] },
  { hint := "Async Context Manager", condition := .hasMethods ["__aenter__", "__aexit__"] },
  { hint := "Singleton"
    condition := .all [
      .hasClassAttribute ["_instance", "__instance", "_instances"],
      .hasAnyMethod ["__new__", "get_instance", "instance", "getInstance"]] },
  { hint := "Iterator", condition := .hasMethods ["__iter__", "__next__"] },
  { hint := "Data Class", condition := .isDataclass },
  { hint := "Abstract Base Class", condition := .isAbstract },
  { hint := "Factory", condition := .methodNamePattern "^(create|make|build)_" },
  { hint := "Observer"
    condition := .all [
      .hasAnyMethod ["subscribe", "attach", "add_observer", "add_listener", "register_observer"],
      .hasAnyMethod ["notify", "notify_observers", "notify_all", "emit"]] },
  { hint := "Callable Object", condition := .hasMethods ["__call__"] }]

/-- Well-known frameworks. -/
def builtinFrameworkRules : List FrameworkRule := [
  { hint := "Django", modules := ["django", "rest_framework"] },
  { hint := "Flask", modules := ["flask", "flask_sqlalchemy", "flask_login"] },
  { hint := "FastAPI", modules := ["fastapi", "starlette"] },
  { hint := "SQLAlchemy", modules := ["sqlalchemy", "flask_sqlalchemy"] },
  { hint := "Pydantic", modules := ["pydantic"]
    decoratorStarts := ["validator", "field_validator", "root_validator"] },
  { hint := "Pytest", modules := ["pytest"], decoratorStarts := ["pytest."] },
  { hint := "Unittest", modules := ["unittest"] },
  { hint := "Celery", modules := ["celery"], decoratorStarts := ["shared_task", "celery.task"] },
  { hint := "Asyncio", modules := ["asyncio", "aiohttp"] },
  { hint := "NumPy", modules := ["numpy"] },
  { hint := "Pandas", modules := ["pandas"] },
  { hint := "Click", modules := ["click", "typer"], decoratorStarts := ["click."] },
  { hint := "Requests", modules := ["requests", "httpx"] }]

/-- The engine with the rules that are built in. -/
def Engine.builtin : Engine :=
  { builtinPatternRules.foldl Engine.addPatternRule Engine.empty with
    frameworkRules := builtinFrameworkRules }

end SourceFacts.Hints
