import SourceFacts.Extraction.Wording
import SourceFacts.Facts.Model
import SourceFacts.Syntax.Walk

namespace SourceFacts.Extraction

/-!
# Facts about functions

Parameters, decorators and documentation of a function, and what a walk
through its body tells: how many decisions it makes and whether it yields.
-/

open Syntax Facts

/-- The kinds of nodes at which the course of a program branches. -/
def decisionKinds : List String :=
  ["if_statement", "elif_clause", "conditional_expression", "for_statement",
    "while_statement", "except_clause", "boolean_operator", "case_clause",
    "for_in_clause", "if_clause"]

/-- Whether the course of a program branches at nodes of a kind. -/
def isDecisionPoint (kind : String) : Bool := decisionKinds.contains kind

/-- Whether nodes of a kind have a body of their own. -/
def isNestedScope (kind : String) : Bool :=
  ["function_definition", "class_definition", "lambda"].contains kind

/-- The complexity of a piece of code with a number of decisions, at most the
largest word. -/
def complexityOf (decisions : Nat) : UInt32 := UInt32.ofNat (min (decisions + 1) 4294967295)

/-! ## Parameters -/

/-- A parameter that takes all remaining arguments. -/
def splatParameter (source : Source) (node : Node) : Parameter where
  name := Text.trim (String.ofList ((source.textOf node).toList.dropWhile (· == '*')))
  kind := if node.kind = "list_splat_pattern" then .varPositional else .varKeyword

/-- Whether a node is a parameter that takes all remaining arguments. -/
def isSplat (node : Node) : Bool :=
  node.kind == "list_splat_pattern" || node.kind == "dictionary_splat_pattern"

/-- The parameter that a node is; separators and comments are none. -/
def parameter? (source : Source) (node : Node) : Option Parameter :=
  let defaultText := (node.child? "value").map source.valueTextOf
  match node.kind with
  | "identifier" => some { name := source.textOf node }
  | "list_splat_pattern" | "dictionary_splat_pattern" => some (splatParameter source node)
  | "default_parameter" =>
      (source.fieldText? node "name").map fun name => { name, defaultText }
  | "typed_default_parameter" =>
      (source.fieldText? node "name").map fun name =>
        { name, typeText := source.fieldText? node "type", defaultText }
  | "typed_parameter" =>
      node.firstNamed?.map fun inner =>
        let base : Parameter :=
          if isSplat inner then splatParameter source inner else { name := source.textOf inner }
        { base with typeText := source.fieldText? node "type" }
  | _ => none

/-- The parameters in a list of parameters. -/
def parameters (source : Source) (node : Node) : List Parameter :=
  node.namedChildren.filterMap (parameter? source)

/-! ## Decorators and markers -/

/-- Whether a decorator turns a method into a property or a part of one. -/
def isPropertyDecorator (decorator : String) : Bool :=
  let name := decoratorName decorator
  let last := lastPart name
  ["property", "cached_property", "abstractproperty"].contains last ||
    (["setter", "getter", "deleter"].contains last && name.toList.contains '.')

/-- Whether a decorator takes the instance away from a method. -/
def isStaticDecorator (decorator : String) : Bool :=
  ["staticmethod", "classmethod"].contains (decoratorName decorator)

/-- Whether a definition is asynchronous: the word comes before `def`. -/
def isAsync (node : Node) : Bool :=
  ((node.children.find? fun child => child.kind == "async" || child.kind == "def").map
    (·.kind == "async")).getD false

/-! ## Bodies -/

/-- What a walk through the body of a function tells. -/
structure BodySignals where
  decisions : Nat := 0
  yields : Bool := false
deriving Repr, DecidableEq, Inhabited

/-- Takes note of a node in the body of a function, leaving out scopes inside it. -/
def BodySignals.visit (node : Node) (_depth : Nat) (signals : BodySignals) :
    Descent × BodySignals :=
  if isNestedScope node.kind then (.skip, signals)
  else
    (.into,
      { decisions := signals.decisions + (if isDecisionPoint node.kind then 1 else 0)
        yields := signals.yields || node.kind == "yield" })

/-- What a walk through the body of a function tells. -/
def bodySignals (body : Node) (depth : Nat) (budget : Budget) : Budget × BodySignals :=
  walk (Visitor.ofStep BodySignals.visit) body depth budget {}

/-- The facts about a function definition at a depth, with the budget that is
left. A definition without a name is none. -/
def function? (source : Source) (node : Node) (decorators : List String) (depth : Nat)
    (budget : Budget) : Budget × Option Function :=
  match source.fieldText? node "name" with
  | none => (budget, none)
  | some name =>
      let body? := node.child? "body"
      let (budget, signals) :=
        match body? with
        | some body => bodySignals body (depth + 1) budget
        | none => (budget, {})
      let function : Function := {
        name
        parameters := ((node.child? "parameters").map (parameters source)).getD []
        returnType := source.fieldText? node "return_type"
        isAsync := isAsync node
        isGenerator := signals.yields
        isProperty := decorators.any isPropertyDecorator
        isStaticOrClassMethod := decorators.any isStaticDecorator
        decorators
        docstring := body?.bind source.docstring?
        complexity := complexityOf signals.decisions
        span := Span.ofNode node }
      (budget, some function)

end SourceFacts.Extraction
