import SourceFacts.Extraction.Structure
import SourceFacts.Proofs.Syntax.Calls

namespace SourceFacts.Extraction

/-!
# Definitions and what is known of them

The facts about a definition, taken apart, and what the functions that are found have in common.
-/

open Facts Syntax

/-!
## Facts and what a walk tells

The facts about a definition, taken apart into what the definition itself says and
what walks through its body have to tell.
-/

/-! ### Functions -/

/-- The facts about a function with a name whose body has a complexity and yields or not. -/
def functionOf
    (source : Source)
    (node : Node)
    (decorators : List String)
    (name : String)
    (complexity : UInt32)
    (yields : Bool) :
    Function where
  name
  parameters := ((node.child? "parameters").map (parameters source)).getD []
  returnType := source.fieldText? node "return_type"
  isAsync := isAsync node
  isGenerator := yields
  isProperty := decorators.any isPropertyDecorator
  isStaticOrClassMethod := decorators.any isStaticDecorator
  decorators
  docstring := (node.child? "body").bind source.docstring?
  complexity
  span := Span.ofNode node

/-- What a walk through the body of a definition tells, if it has one. -/
def signalsOf (node : Node) (depth : Nat) (budget : Budget) : Budget × BodySignals :=
  match node.child? "body" with
  | some body => bodySignals body (depth + 1) budget
  | none => (budget, {})

/-- A definition without a name is no function. -/
theorem function?_of_unnamed
    {source : Source}
    {node : Node}
    (unnamed : source.fieldText? node "name" = none)
    (decorators : List String)
    (depth : Nat)
    (budget : Budget) :
    function? source node decorators depth budget = (budget, none) := by
  rw [function?, unnamed]

/-- A definition with a name is a function of which the walk through its body tells more. -/
theorem function?_of_name
    {source : Source}
    {node : Node}
    {name : String}
    (named : source.fieldText? node "name" = some name)
    (decorators : List String)
    (depth : Nat)
    (budget : Budget) :
    function? source node decorators depth budget =
      ((signalsOf node depth budget).1,
        some (functionOf source node decorators name
          (complexityOf (signalsOf node depth budget).2.decisions)
          (signalsOf node depth budget).2.yields)) := by
  rw [function?, named]
  rfl

/-! ### Methods -/

/-- The attributes that an initializer binds; other methods bind none. -/
def initializedBy
    (source : Source)
    (node : Node)
    (name : String)
    (depth : Nat)
    (budget : Budget) :
    Budget × List Attribute :=
  match if name = "__init__" then node.child? "body" else none with
  | some body => instanceAttributes source body (depth + 1) budget
  | none => (budget, [])

/-- A definition that is no function is no method. -/
theorem addMethod_of_none
    {source : Source}
    {node : Node}
    {decorators : List String}
    {depth : Nat}
    {budget after : Budget}
    (isNone : function? source node decorators depth budget = (after, none))
    (collected : ClassBody) :
    addMethod source node decorators depth budget collected = (after, collected) := by
  rw [addMethod, isNone]

/-- A method comes after those that are known, and what it binds after what is bound. -/
theorem addMethod_of_some
    {source : Source}
    {node : Node}
    {decorators : List String}
    {depth : Nat}
    {budget after : Budget}
    {method : Function}
    (isMethod : function? source node decorators depth budget = (after, some method))
    (collected : ClassBody) :
    addMethod source node decorators depth budget collected =
      ((initializedBy source node method.name depth after).1,
        { methods := collected.methods ++ [method]
          attributes :=
            (initializedBy source node method.name depth after).2.foldl addAttribute
              collected.attributes }) := by
  rw [addMethod, isMethod]
  rfl

/-! ### Classes -/

/-- The facts about a class with a name and what is collected from its body. -/
def classOf
    (source : Source)
    (node : Node)
    (decorators : List String)
    (name : Node)
    (collected : ClassBody) :
    Facts.Class :=
  let arguments? := node.child? "superclasses"
  let bases := (arguments?.map (bases source)).getD []
  { name := source.textOf name
    bases
    methods := collected.methods
    attributes := collected.attributes
    decorators
    docstring := (node.child? "body").bind source.docstring?
    isAbstract :=
      bases.any (lastPart · == "ABC") ||
          (arguments?.bind (metaclassOf source)).map lastPart == some "ABCMeta" ||
        collected.methods.any (·.decorators.any isAbstractDecorator)
    isDataclass := decorators.any isDataclassDecorator
    span := Span.ofNode node }

/-- What is collected from the body of a class, if it has one. -/
def collectedOf
    (source : Source)
    (node : Node)
    (depth : Nat)
    (budget : Budget) :
    Budget × ClassBody :=
  match node.child? "body" with
  | some body => classBody source body (depth + 1) budget
  | none => (budget, {})

/-- A definition without a name is no class. -/
theorem class?_of_unnamed
    {source : Source}
    {node : Node}
    (unnamed : node.child? "name" = none)
    (decorators : List String)
    (depth : Nat)
    (budget : Budget) :
    class? source node decorators depth budget = (budget, none) := by
  rw [class?, unnamed]

/-- A definition with a name is a class of which the walk through its body tells more. -/
theorem class?_of_name
    {source : Source}
    {node name : Node}
    (named : node.child? "name" = some name)
    (decorators : List String)
    (depth : Nat)
    (budget : Budget) :
    class? source node decorators depth budget =
      ((collectedOf source node depth budget).1,
        some (classOf source node decorators name (collectedOf source node depth budget).2)) := by
  rw [class?, named]
  rfl

/-- What is not decorated stands for itself. -/
theorem undecorated_of_ne
    (source : Source)
    {node : Node}
    (isBare : node.kind ≠ "decorated_definition") :
    source.undecorated node = (node, []) := by
  rw [Source.undecorated, if_neg isBare]

/-- The attributes that an assignment in the body of a class binds; other statements bind none. -/
def assignedAttributes (source : Source) (statement : Node) : List Attribute :=
  if statement.kind = "expression_statement" then
    ((assignment? statement).map (classAttributes source)).getD []
  else []

/-- What a statement in the body of a class adds to what is collected. -/
def addStatement
    (source : Source)
    (node : Node)
    (depth : Nat)
    (budget : Budget)
    (collected : ClassBody) :
    Budget × ClassBody :=
  if (source.undecorated node).1.kind = "function_definition" then
    addMethod source (source.undecorated node).1 (source.undecorated node).2 depth budget collected
  else
    (budget,
      { collected with
        attributes := (assignedAttributes source node).foldl addAttribute collected.attributes })

/-- The body of a class is entered. -/
theorem visitClassBody_body
    (source : Source)
    (node : Node)
    (depth : Nat)
    (budget : Budget)
    (collected : ClassBody) :
    visitClassBody source depth node depth budget collected = (.into, budget, collected) := by
  rw [visitClassBody, if_pos rfl]

/-- The statements in the body of a class are not entered. -/
theorem visitClassBody_of_ne
    (source : Source)
    (node : Node)
    {bodyDepth depth : Nat}
    (isBelow : depth ≠ bodyDepth)
    (budget : Budget)
    (collected : ClassBody) :
    visitClassBody source bodyDepth node depth budget collected =
      (.skip, addStatement source node depth budget collected) := by
  simp only [visitClassBody, if_neg isBelow, addStatement, assignedAttributes]
  split
  next isKind =>
    rw [undecorated_of_ne source (by simp [isKind])]
    simp [isKind]
  next isKind =>
    split <;> simp_all
  next isKind =>
    rw [undecorated_of_ne source (by simp [isKind])]
    simp [isKind]
  next noFunction noDecorated noExpression =>
    rw [undecorated_of_ne source noDecorated, if_neg noFunction, if_neg noExpression]
    rfl

/-! ### Definitions -/

/-- What a node at the level of the module adds to what is found. -/
def addModuleLevel
    (source : Source)
    (node : Node)
    (depth : Nat)
    (budget : Budget)
    (found : Definitions) :
    Budget × Definitions :=
  let (definition, decorators) := source.undecorated node
  if definition.kind = "function_definition" then
    let run := function? source definition decorators depth budget
    (run.1, { found with functions := found.functions ++ run.2.toList })
  else if definition.kind = "class_definition" then
    let run := class? source definition decorators depth budget
    (run.1, { found with classes := found.classes ++ run.2.toList })
  else
    (budget,
      { found with
        globals :=
          (assignedNames source node).foldl (fun known name => insertName name known)
            found.globals })

/-- Only assignments bind names. -/
theorem assignedNames_of_ne
    (source : Source)
    {node : Node}
    (noExpression : node.kind ≠ "expression_statement") :
    assignedNames source node = [] := by
  rw [assignedNames, if_neg noExpression]

/-- A definition at the level of the module is added to what is found. -/
theorem addDefinition_eq
    (source : Source)
    {node : Node}
    (noExpression : node.kind ≠ "expression_statement")
    (depth : Nat)
    (budget : Budget)
    (found : Definitions) :
    addDefinition source node depth budget found =
      addModuleLevel source node depth budget found := by
  simp only [addDefinition, addModuleLevel, assignedNames_of_ne source noExpression]
  split
  next isFunction => simp [isFunction]
  next isClass => simp [isClass]
  next noFunction noClass => rw [if_neg noFunction, if_neg noClass]; rfl

/-- At the level of the module, what contains others at this level is entered. -/
theorem visitModuleLevel_eq
    (source : Source)
    (node : Node)
    (depth : Nat)
    (budget : Budget)
    (found : Definitions) :
    visitModuleLevel source node depth budget found =
      (if isModuleLevel node.kind then .into else .skip,
        addModuleLevel source node depth budget found) := by
  have definition : node.kind ≠ "expression_statement" →
      addDefinition source node depth budget found =
        addModuleLevel source node depth budget found :=
    fun noExpression => addDefinition_eq source noExpression depth budget found
  simp only [visitModuleLevel]
  split
  next isKind => simp [isKind, isModuleLevel, definition]
  next isKind => simp [isKind, isModuleLevel, definition]
  next isKind => simp [isKind, isModuleLevel, definition]
  next isKind =>
    simp [isKind, isModuleLevel, addModuleLevel, undecorated_of_ne]
  next noFunction noClass noDecorated noExpression =>
    rw [addModuleLevel, undecorated_of_ne source noDecorated,
      assignedNames_of_ne source noExpression]
    simp only [if_neg noFunction, if_neg noClass]
    rfl

/-! ### Files -/

/-- The structure of a file with what is defined in it and what is found anywhere. -/
def modelOf
    (path : String)
    (text : String)
    (root : Node)
    (definitions : Definitions)
    (occurrences : Occurrences)
    (truncated : Bool) :
    Model where
  path
  functions := definitions.functions
  classes := definitions.classes
  imports := occurrences.imports
  globals := definitions.globals
  complexity := complexityOf occurrences.decisions
  lineCount := UInt64.ofNat (Text.lineCount text)
  usesTypeHints := occurrences.usesTypeHints
  docstring := (Source.ofString text).docstring? root
  truncated

/-- The structure of a file is found in two walks on one budget. -/
theorem model_eq
    (path : String)
    (text : String)
    (root : Node)
    (budget : Budget) :
    model path text root budget =
      let definitions := walk (visitModuleLevel (Source.ofString text)) root 0 budget {}
      let occurrences :=
        walk (Visitor.ofStep (visitAnywhere (Source.ofString text))) root 0 definitions.1 {}
      (occurrences.1,
        modelOf path text root definitions.2 occurrences.2 occurrences.1.truncated) :=
  rfl

/-- The tree of a file with one function, which yields. -/
def generatorTree : Node :=
  .mk { kind := "module", stop := { chars := 15 } }
    [.mk { kind := "function_definition", stop := { chars := 15 } }
      [.mk { kind := "identifier", field? := some "name",
             start := { chars := 4 }, stop := { chars := 5 } } [],
       .mk { kind := "block", field? := some "body",
             start := { chars := 10 }, stop := { chars := 15 } }
         [.mk { kind := "expression_statement",
                start := { chars := 10 }, stop := { chars := 15 } }
           [.mk { kind := "yield", start := { chars := 10 }, stop := { chars := 15 } } []]]]]

/-!
## Where functions come from

Every function and every method that is found in a file was made from one definition in its tree. So
what holds of all functions that are made from definitions holds of all that are found.
-/

section Made

variable {source : Source} {root node : Node} {holds : Function → Prop}

/-- A definition in a tree stands in it without its decorators. -/
theorem has_undecorated
    (source : Source)
    (has : root.Has node) :
    root.Has (source.undecorated node).1 := by
  rw [Source.undecorated]
  split
  · split
    · rename_i definition isDefinition
      exact has.child? isDefinition
    · exact has
  · exact has

/-- What holds of every function that is made from a definition in a tree. -/
def HoldsOfMade (source : Source) (root : Node) (holds : Function → Prop) : Prop :=
  ∀ node, root.Has node → ∀ depth budget,
    ∀ function ∈ (function? source (source.undecorated node).1 (source.undecorated node).2 depth
      budget).2, holds function

namespace HoldsOfMade

/-- A statement in the body of a class adds a method that is made from it, if any. -/
theorem addStatement
    (made : HoldsOfMade source root holds)
    (has : root.Has node)
    (depth : Nat)
    (budget : Budget)
    {collected : ClassBody}
    (known : ∀ method ∈ collected.methods, holds method) :
    ∀ method ∈ (addStatement source node depth budget collected).2.methods, holds method := by
  rw [Extraction.addStatement]
  split
  · rcases found : function? source (source.undecorated node).1 (source.undecorated node).2 depth
        budget with ⟨after, _ | method⟩
    · rw [addMethod_of_none found]
      exact known
    · rw [addMethod_of_some found]
      have isMade : holds method := made node has depth budget method (by rw [found]; rfl)
      exact List.forall_mem_append.mpr ⟨known, List.forall_mem_singleton.mpr isMade⟩
  · exact known

/-- The methods of a class are made from statements in its body. -/
theorem collectedOf
    (made : HoldsOfMade source root holds)
    {definition : Node}
    (has : root.Has definition)
    (depth : Nat)
    (budget : Budget) :
    ∀ method ∈ (collectedOf source definition depth budget).2.methods, holds method := by
  have nothing : ∀ method ∈ ({} : ClassBody).methods, holds method := List.forall_mem_nil holds
  rw [Extraction.collectedOf]
  split
  · rename_i body isBody
    refine walkPending_induction root
      (fun _ (collected : ClassBody) => ∀ method ∈ collected.methods, holds method)
      (fun _ known => known) ?_ ?_ nothing
    · intro statement level budget collected hasStatement _ known
      by_cases isStart : level = depth + 1
      · rw [isStart, visitClassBody_body]
        exact known
      · rw [visitClassBody_of_ne source statement isStart]
        exact made.addStatement hasStatement level _ known
    · intro entry member
      rw [List.mem_singleton.mp member]
      exact has.child? isBody
  · exact nothing

end HoldsOfMade

/-- A class is made from a definition in a tree, with methods of which something holds. -/
def IsMadeClass (source : Source) (root : Node) (holds : Function → Prop) (cls : Facts.Class) :
    Prop :=
  ∃ node name collected, root.Has node ∧ (∀ method ∈ collected.methods, holds method) ∧
    cls = classOf source (source.undecorated node).1 (source.undecorated node).2 name collected

/-- Functions and classes are made from definitions in a tree, and something holds of functions and
methods. -/
structure AreMade (source : Source) (root : Node) (holds : Function → Prop)
    (functions : List Function) (classes : List Facts.Class) : Prop where
  functions : ∀ function ∈ functions, holds function
  classes : ∀ cls ∈ classes, IsMadeClass source root holds cls

namespace HoldsOfMade

/-- What is added at the level of a module is made from the node that is visited. -/
theorem addModuleLevel
    (made : HoldsOfMade source root holds)
    (has : root.Has node)
    (depth : Nat)
    (budget : Budget)
    {found : Definitions}
    (known : AreMade source root holds found.functions found.classes) :
    AreMade source root holds (addModuleLevel source node depth budget found).2.functions
      (addModuleLevel source node depth budget found).2.classes := by
  rw [Extraction.addModuleLevel]
  dsimp only
  split
  · refine ⟨List.forall_mem_append.mpr ⟨known.functions, fun function member => ?_⟩, known.classes⟩
    exact made node has depth budget function (Option.mem_toList.mp member)
  · split
    · refine ⟨known.functions, List.forall_mem_append.mpr ⟨known.classes, fun cls member => ?_⟩⟩
      cases named : (source.undecorated node).1.child? "name" with
      | none =>
          rw [class?_of_unnamed named] at member
          cases member
      | some name =>
          rw [class?_of_name named, Option.toList_some, List.mem_singleton] at member
          exact ⟨node, name, _, has,
            made.collectedOf (has_undecorated source has) depth budget, member⟩
    · exact known

/-- What is found in a file is made from definitions in its tree. -/
theorem model
    (path : String)
    {text : String}
    (made : HoldsOfMade (Source.ofString text) root holds)
    (budget : Budget) :
    AreMade (Source.ofString text) root holds (model path text root budget).2.functions
      (model path text root budget).2.classes := by
  have nothing : AreMade (Source.ofString text) root holds ({} : Definitions).functions
      ({} : Definitions).classes :=
    ⟨List.forall_mem_nil _, List.forall_mem_nil _⟩
  rw [model_eq]
  dsimp only [modelOf]
  refine walkPending_induction root (fun _ (found : Definitions) =>
    AreMade (Source.ofString text) root holds found.functions found.classes)
    (fun _ known => known) ?_ ?_ nothing
  · intro node depth budget found has _ known
    rw [visitModuleLevel_eq]
    exact made.addModuleLevel has depth _ known
  · intro entry member
    rw [List.mem_singleton.mp member]
    exact root.has_self

end HoldsOfMade

end Made

/-!
## Names of functions

A definition whose name says nothing is no function. So all functions and methods that are found in
a file have names, also if its text breaks the rules of its language.
-/

/-- What is said in a field is not nothing. -/
theorem fieldText?_ne_empty
    {source : Source}
    {node : Node}
    {field text : String}
    (isText : source.fieldText? node field = some text) :
    text ≠ "" := by
  rw [Source.fieldText?, Option.bind_eq_bind, Option.bind_eq_some_iff] at isText
  obtain ⟨child, -, isText⟩ := isText
  dsimp only at isText
  split at isText
  · cases isText
  · rename_i notEmpty
    rw [← Option.some.inj isText]
    simpa using notEmpty

/-- The function that is made from a definition has a name. -/
theorem name_ne_empty_of_function?
    (source : Source)
    (node : Node)
    (decorators : List String)
    (depth : Nat)
    (budget : Budget) :
    ∀ function ∈ (function? source node decorators depth budget).2, function.name ≠ "" := by
  cases named : source.fieldText? node "name" with
  | none =>
      rw [function?_of_unnamed named]
      rintro function ⟨⟩
  | some name =>
      rw [function?_of_name named]
      rintro function ⟨⟩
      exact fieldText?_ne_empty named

/-- Functions and classes in which all functions and methods have names. -/
structure HasNames (functions : List Function) (classes : List Facts.Class) : Prop where
  functions : ∀ function ∈ functions, function.name ≠ ""
  methods : ∀ cls ∈ classes, ∀ method ∈ cls.methods, method.name ≠ ""

/-- The functions and methods that are found in a file have names. -/
theorem model_hasNames
    (path text : String)
    (root : Node)
    (budget : Budget) :
    HasNames (model path text root budget).2.functions (model path text root budget).2.classes := by
  have made : HoldsOfMade (Source.ofString text) root (·.name ≠ "") :=
    fun _ _ depth budget => name_ne_empty_of_function? _ _ _ depth budget
  obtain ⟨functions, classes⟩ := made.model path budget
  refine ⟨functions, fun cls member => ?_⟩
  obtain ⟨_, _, _, _, named, rfl⟩ := classes cls member
  exact named

end SourceFacts.Extraction
