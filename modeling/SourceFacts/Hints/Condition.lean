import SourceFacts.Facts.Model
import SourceFacts.Regex.Parser

namespace SourceFacts.Hints

/-!
# Conditions on classes

What a class must be like to follow a design pattern. Conditions on the names of
methods use regular expressions, which are compiled once; a condition comes to
no answer where it needs one that is invalid or was not compiled.
-/

open Facts

/-- A condition on a class. -/
inductive Condition where
  /-- All methods are there. -/
  | hasMethods (names : List String)
  | hasAnyMethod (names : List String)
  | hasClassAttribute (names : List String)
  | decoratedWith (names : List String)
  /-- The last part of the name of a base class is among the names. -/
  | inheritsFrom (names : List String)
  | methodNamePattern (pattern : String)
  | isDataclass
  | isAbstract
  | all (conditions : List Condition)
  | any (conditions : List Condition)
deriving Repr, Inhabited

/-- Why a condition comes to no answer. -/
inductive HintError where
  | invalidPattern (pattern : String)
  | uncompiledPattern (pattern : String)
deriving Repr, DecidableEq, Inhabited

/-- What is wrong with a pattern that was not compiled, in words. -/
def HintError.message : HintError → String
  | .invalidPattern pattern => "Invalid method name pattern '" ++ pattern ++ "'"
  | .uncompiledPattern pattern =>
      "Pattern '" ++ pattern ++ "' was not compiled for this engine"

/-! ## Compiled patterns -/

/-- Patterns with their expressions, of which the invalid ones have none. -/
structure CompiledPatterns where
  entries : List (String × Option Regex) := []
deriving Inhabited

namespace CompiledPatterns

/-- The expression of a pattern. -/
def regex (patterns : CompiledPatterns) (pattern : String) : Except HintError Regex :=
  match patterns.entries.find? (·.1 == pattern) with
  | none => .error (.uncompiledPattern pattern)
  | some (_, none) => .error (.invalidPattern pattern)
  | some (_, some regex) => .ok regex

/-- Compiles a pattern unless it has been. -/
def compilePattern (patterns : CompiledPatterns) (pattern : String) : CompiledPatterns :=
  if patterns.entries.any (·.1 == pattern) then patterns
  else { entries := patterns.entries ++ [(pattern, Regex.ofText? pattern)] }

/-- The number of patterns. -/
def size (patterns : CompiledPatterns) : Nat := patterns.entries.length

/-- Whether there is no pattern. -/
def isEmpty (patterns : CompiledPatterns) : Bool := patterns.entries.isEmpty

end CompiledPatterns

namespace Condition

mutual

/-- The patterns in a condition, in order. -/
def patterns : Condition → List String
  | .methodNamePattern pattern => [pattern]
  | .all conditions => patternsOfList conditions
  | .any conditions => patternsOfList conditions
  | _ => []

/-- The patterns in some conditions, in order. -/
def patternsOfList : List Condition → List String
  | [] => []
  | condition :: rest => condition.patterns ++ patternsOfList rest

end

/-- The compiled patterns together with those of a condition. -/
def compileInto (condition : Condition) (compiled : CompiledPatterns) : CompiledPatterns :=
  condition.patterns.foldl CompiledPatterns.compilePattern compiled

/-- The first invalid pattern of a condition. -/
def invalidPattern? (condition : Condition) : Option String :=
  condition.patterns.find? fun pattern => (Regex.ofText? pattern).isNone

/-- Compiles the patterns of a condition, and tells the first invalid one. -/
def compile (condition : Condition) (compiled : CompiledPatterns) :
    CompiledPatterns × Except HintError Unit :=
  (condition.compileInto compiled,
    match condition.invalidPattern? with
    | none => .ok ()
    | some pattern => .error (.invalidPattern pattern))

mutual

/-- Whether a class meets a condition, by patterns that have been compiled. -/
def evaluateWith (compiled : CompiledPatterns) (cls : Facts.Class) :
    Condition → Except HintError Bool
  | .hasMethods names => .ok (names.all cls.hasMethod)
  | .hasAnyMethod names => .ok (names.any cls.hasMethod)
  | .hasClassAttribute names => .ok (names.any fun name => (cls.classAttribute? name).isSome)
  | .decoratedWith names => .ok (names.any cls.hasDecorator)
  | .inheritsFrom names => .ok (cls.bases.any fun base => names.contains (lastPart base))
  | .methodNamePattern pattern =>
      (compiled.regex pattern).map fun regex => cls.methods.any fun m => regex.occursIn m.name
  | .isDataclass => .ok cls.isDataclass
  | .isAbstract => .ok cls.isAbstract
  | .all conditions => allOf compiled cls conditions
  | .any conditions => anyOf compiled cls conditions

/-- Whether a class meets all conditions up to the first that it does not. -/
def allOf (compiled : CompiledPatterns) (cls : Facts.Class) : List Condition → Except HintError Bool
  | [] => .ok true
  | condition :: rest =>
      match evaluateWith compiled cls condition with
      | .error error => .error error
      | .ok false => .ok false
      | .ok true => allOf compiled cls rest

/-- Whether a class meets a condition, tried up to the first that it does. -/
def anyOf (compiled : CompiledPatterns) (cls : Facts.Class) : List Condition → Except HintError Bool
  | [] => .ok false
  | condition :: rest =>
      match evaluateWith compiled cls condition with
      | .error error => .error error
      | .ok true => .ok true
      | .ok false => anyOf compiled cls rest

end

/-- Whether a class meets a condition, whose patterns are compiled first. -/
def evaluate (condition : Condition) (cls : Facts.Class) : Except HintError Bool :=
  condition.evaluateWith (condition.compileInto {}) cls

end Condition

end SourceFacts.Hints
