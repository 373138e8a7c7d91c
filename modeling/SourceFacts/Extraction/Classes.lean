import SourceFacts.Extraction.Functions
import SourceFacts.Extraction.Wording
import SourceFacts.Syntax.Walk

namespace SourceFacts.Extraction

/-!
# Classes and bindings

Which names assignments bind, and what is to be known of classes.
-/

open Facts Syntax

/-! ## Names bound by assignments -/

/-- The names that the target of an assignment binds. -/
def targetNames (source : Source) (target : Node) : List String :=
  if target.kind = "identifier" then [source.textOf target]
  else if ["pattern_list", "tuple_pattern", "list_pattern"].contains target.kind then
    (target.namedChildren.filter (·.kind == "identifier")).map source.textOf
  else []

/-- The assignment that a statement is. -/
def assignment? (statement : Node) : Option Node :=
  statement.firstNamed?.filter (·.kind == "assignment")

/-- The names that a chain of assignments binds, each of which may have another
one as its value. -/
def chainNames (source : Source) (node : Node) : List String :=
  ((node.child? "left").map (targetNames source)).getD [] ++
    match _found : node.child? "right" with
    | some value => if value.kind = "assignment" then chainNames source value else []
    | none => []
termination_by node.count
decreasing_by exact Node.count_lt_of_child? _found

/-- The names that a statement binds, if it is an assignment. -/
def assignedNames (source : Source) (statement : Node) : List String :=
  if statement.kind = "expression_statement" then
    ((assignment? statement).map (chainNames source)).getD []
  else []

/-!
## Facts about classes

Bases, methods and attributes of a class. Attributes are bound in the body of
the class and, on `self`, in its initializers; the first binding of a name wins.
-/

/-- What is collected from the body of a class. -/
structure ClassBody where
  methods : List Function := []
  attributes : List Attribute := []
deriving Repr, DecidableEq, Inhabited

/-! ### Bases -/

/-- The value of the `metaclass` argument, if a node is one. -/
def metaclass? (source : Source) (argument : Node) : Option (Option String) :=
  if argument.kind = "keyword_argument" &&
      (argument.child? "name").map source.textOf == some "metaclass" then
    some ((argument.child? "value").map source.textOf)
  else none

/-- The base class that an argument is. -/
def base? (source : Source) (argument : Node) : Option String :=
  if ["keyword_argument", "comment", "list_splat", "dictionary_splat"].contains argument.kind then
    none
  else
    let text := source.trimmedTextOf argument
    if text.isEmpty then none else some text

/-- The base classes in a list of arguments. -/
def bases (source : Source) (arguments : Node) : List String :=
  arguments.namedChildren.filterMap (base? source)

/-- The metaclass in a list of arguments, the last if it is given repeatedly. -/
def metaclassOf (source : Source) (arguments : Node) : Option String :=
  ((arguments.namedChildren.filterMap (metaclass? source)).getLast?).join

/-! ### Attributes -/

/-- Adds an attribute unless there is one of its name. -/
def addAttribute (known : List Attribute) (found : Attribute) : List Attribute :=
  if known.any (·.name == found.name) then known else known ++ [found]

/-- The attribute of a name that an assignment binds. -/
def attributeOf (source : Source) (assignment : Node) (isClassLevel : Bool) (name : String) :
    Attribute where
  name
  typeText := (assignment.child? "type").map source.trimmedTextOf
  defaultText := (assignment.child? "right").map source.valueTextOf
  isClassLevel
  isPrivate := isPrivateName name

/-- The attributes that an assignment in the body of a class binds. -/
def classAttributes (source : Source) (assignment : Node) : List Attribute :=
  match assignment.child? "left" with
  | none => []
  | some target =>
      (targetNames source target).map (attributeOf source assignment true)

/-- The attribute of the instance that an assignment binds. -/
def instanceAttribute? (source : Source) (assignment : Node) : Option Attribute := do
  let target ← assignment.child? "left"
  if target.kind ≠ "attribute" then none
  else
    let object ← target.child? "object"
    if source.textOf object ≠ "self" then none
    else
      let name ← target.child? "attribute"
      return attributeOf source assignment false (source.textOf name)

/-- Takes note of a node in an initializer, leaving out scopes inside it. -/
def visitInitializer (source : Source) (node : Node) (_depth : Nat)
    (found : List Attribute) : Descent × List Attribute :=
  if isNestedScope node.kind then (.skip, found)
  else if node.kind = "assignment" then
    (.into, found ++ (instanceAttribute? source node).toList)
  else (.into, found)

/-- The attributes that an initializer binds. -/
def instanceAttributes (source : Source) (body : Node) (depth : Nat) (budget : Budget) :
    Budget × List Attribute :=
  walk (Visitor.ofStep (visitInitializer source)) body depth budget []

/-! ### Bodies -/

/-- Adds a method at a depth, and before it what it does if it is an initializer. -/
def addMethod (source : Source) (node : Node) (decorators : List String) (depth : Nat)
    (budget : Budget) (collected : ClassBody) : Budget × ClassBody :=
  match function? source node decorators depth budget with
  | (budget, none) => (budget, collected)
  | (budget, some method) =>
      let (budget, found) :=
        match if method.name = "__init__" then node.child? "body" else none with
        | some body => instanceAttributes source body (depth + 1) budget
        | none => (budget, [])
      (budget,
        { methods := collected.methods ++ [method]
          attributes := found.foldl addAttribute collected.attributes })

/-- Takes note of a statement in the body of a class, which stands at a depth. -/
def visitClassBody (source : Source) (bodyDepth : Nat) : Visitor ClassBody :=
  fun node depth budget collected =>
    if depth = bodyDepth then (.into, budget, collected)
    else
      match node.kind with
      | "function_definition" | "decorated_definition" =>
          let (definition, decorators) := source.undecorated node
          if definition.kind = "function_definition" then
            let (budget, collected) :=
              addMethod source definition decorators depth budget collected
            (.skip, budget, collected)
          else (.skip, budget, collected)
      | "expression_statement" =>
          let found := ((assignment? node).map (classAttributes source)).getD []
          (.skip, budget,
            { collected with attributes := found.foldl addAttribute collected.attributes })
      | _ => (.skip, budget, collected)

/-- What is collected from the body of a class at a depth. -/
def classBody (source : Source) (body : Node) (depth : Nat) (budget : Budget) :
    Budget × ClassBody :=
  walk (visitClassBody source depth) body depth budget {}

/-- Whether a decorator makes a class a dataclass. -/
def isDataclassDecorator (decorator : String) : Bool :=
  lastPart (decoratorName decorator) == "dataclass"

/-- Whether a decorator makes a method abstract. -/
def isAbstractDecorator (decorator : String) : Bool :=
  lastPart (decoratorName decorator) == "abstractmethod"

/-- The facts about a class definition at a depth, with the budget that is left.
A definition without a name is none. -/
def class? (source : Source) (node : Node) (decorators : List String) (depth : Nat)
    (budget : Budget) : Budget × Option Facts.Class :=
  match node.child? "name" with
  | none => (budget, none)
  | some name =>
      let arguments? := node.child? "superclasses"
      let bases := (arguments?.map (bases source)).getD []
      let metaclass := arguments?.bind (metaclassOf source)
      let body? := node.child? "body"
      let (budget, collected) :=
        match body? with
        | some body => classBody source body (depth + 1) budget
        | none => (budget, {})
      let cls : Facts.Class := {
        name := source.textOf name
        bases
        methods := collected.methods
        attributes := collected.attributes
        decorators
        docstring := body?.bind source.docstring?
        isAbstract :=
          bases.any (lastPart · == "ABC") || metaclass.map lastPart == some "ABCMeta" ||
            collected.methods.any (·.decorators.any isAbstractDecorator)
        isDataclass := decorators.any isDataclassDecorator
        span := Span.ofNode node }
      (budget, some cls)

end SourceFacts.Extraction
