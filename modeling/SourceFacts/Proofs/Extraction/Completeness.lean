import SourceFacts.Proofs.Extraction.Definitions
import SourceFacts.Proofs.Syntax.Completeness

namespace SourceFacts.Extraction

/-!
# Structures that are complete

The structure of a file is said without limits, and that is what is found if nothing was left out.
-/

/-!
## The structure of a file without limits

What is to be found in a file, said of its tree without walks and budgets: which nodes
count, and what each of them contributes.
-/

open Syntax Facts

/-! ### Functions -/

/-- The nodes of a tree that are not in, or at, one of some closed nodes. -/
def outside (isClosed : Node → Bool) (root : Node) : List Node :=
  (root.within fun node => !isClosed node).filter fun node => !isClosed node

/-- The nodes of the body of a definition that belong to no scope inside it. -/
def ownNodes (definition : Node) : List Node :=
  ((definition.child? "body").map (outside fun node => isNestedScope node.kind)).getD []

/-- The number of nodes at which the course of a program branches. -/
def decisionsIn (nodes : List Node) : Nat := nodes.countP fun node => isDecisionPoint node.kind

/-- The facts about a function definition, from the whole of its body. A definition without a
name is none. -/
def plainFunction? (source : Source) (node : Node) (decorators : List String) : Option Function :=
  (source.fieldText? node "name").map fun name =>
    functionOf source node decorators name
      (UInt32.ofNat (1 + decisionsIn (ownNodes node)))
      ((ownNodes node).any (·.kind == "yield"))

/-- The facts about the function that a node defines, bare or decorated. -/
def definedFunction? (source : Source) (node : Node) : Option Function :=
  let (definition, decorators) := source.undecorated node
  if definition.kind = "function_definition" then plainFunction? source definition decorators
  else none

/-! ### Classes -/

/-- The attribute of the instance that a node in an initializer binds. -/
def boundIn? (source : Source) (node : Node) : Option Attribute :=
  if node.kind = "assignment" then instanceAttribute? source node else none

/-- The attributes that a definition binds on instances, if it is an initializer. -/
def initializedIn (source : Source) (definition : Node) (name : String) : List Attribute :=
  if name = "__init__" then (ownNodes definition).filterMap (boundIn? source) else []

/-- The attributes that a statement in the body of a class binds. -/
def boundAttributes (source : Source) (statement : Node) : List Attribute :=
  assignedAttributes source statement ++
    ((definedFunction? source statement).map fun method =>
      initializedIn source (source.undecorated statement).1 method.name).getD []

/-- What is collected from all statements in the body of a class. -/
def plainBody (source : Source) (statements : List Node) : ClassBody where
  methods := statements.filterMap (definedFunction? source)
  attributes := (statements.flatMap (boundAttributes source)).foldl addAttribute []

/-- The facts about a class definition, from the whole of its body. A definition without a name
is none. -/
def plainClass? (source : Source) (node : Node) (decorators : List String) : Option Facts.Class :=
  (node.child? "name").map fun name =>
    classOf source node decorators name
      (((node.child? "body").map fun body => plainBody source body.children).getD {})

/-- The facts about the class that a node defines, bare or decorated. -/
def definedClass? (source : Source) (node : Node) : Option Facts.Class :=
  let (definition, decorators) := source.undecorated node
  if definition.kind = "class_definition" then plainClass? source definition decorators
  else none

/-! ### Files -/

/-- The nodes that stand at the level of the module, also inside its compound statements. -/
def moduleLevel (root : Node) : List Node := root.within fun node => isModuleLevel node.kind

/-- The nodes that are no import statements and not in one. -/
def outsideImports (root : Node) : List Node := outside (fun node => isImport node.kind) root

/-- The import statements of a tree that are not in others. -/
def importStatements (root : Node) : List Node :=
  (root.within fun node => !isImport node.kind).filter fun node => isImport node.kind

/-- All nodes of a tree in preorder. -/
def allNodes (root : Node) : List Node := root.within fun _ => true

/-- Import statements do not contain others, as in every tree of a text in the language. -/
def ImportsAreFlat (nodes : List Node) : Prop :=
  ∀ node ∈ nodes, isImport node.kind = true →
    ∀ inner ∈ Node.withinAll (fun _ => true) node.children, isImport inner.kind = false

/-- If import statements do not contain others, all of them are found without entering them. -/
theorem importStatements_of_flat
    {root : Node}
    (flat : ImportsAreFlat (allNodes root)) :
    importStatements root = (allNodes root).filter fun node => isImport node.kind := by
  rw [importStatements, allNodes, Node.filter_within]
  intro node member isClosed
  exact flat node member (Bool.not_eq_eq_eq_not.mp isClosed)

/-- The structure of a file with a path and a text, from the whole of its tree. -/
def plainModel (path : String) (text : String) (root : Node) : Model :=
  let source := Source.ofString text
  { path
    functions := (moduleLevel root).filterMap (definedFunction? source)
    classes := (moduleLevel root).filterMap (definedClass? source)
    imports := (importStatements root).flatMap (imports source)
    globals :=
      ((moduleLevel root).flatMap (assignedNames source)).foldl
        (fun known name => insertName name known) []
    complexity := UInt32.ofNat (1 + decisionsIn (outsideImports root))
    lineCount := UInt64.ofNat (Text.lineCount text)
    usesTypeHints := (outsideImports root).any isTypeHint
    docstring := source.docstring? root }

end SourceFacts.Extraction

namespace SourceFacts.Extraction

/-!
## Nothing is left out unnoticed

The walks for the structure of a file share one budget, also those that begin while
another is at a definition. If the budget never notes that something was left out, each
of them has seen all that it is for, and the structure is that of the whole tree.
-/

open Syntax Facts

variable {source : Source} {budget : Budget} {node : Node} {depth : Nat}

/-- The size of trees that may be counted in a word. -/
def maxCount : Nat := 4294967294

/-! ### Bodies of functions -/

/-- What a node outside nested scopes adds to what is known of a body. -/
def addSignals (node : Node) (signals : BodySignals) : BodySignals :=
  if isNestedScope node.kind then signals
  else
    { decisions := signals.decisions + (if isDecisionPoint node.kind then 1 else 0)
      yields := signals.yields || node.kind == "yield" }

/-- Of nodes that are come by, those outside nested scopes are counted. -/
theorem foldl_addSignals
    (nodes : List Node)
    (signals : BodySignals) :
    nodes.foldl (fun signals node => addSignals node signals) signals =
      { decisions :=
          signals.decisions + decisionsIn (nodes.filter fun node => !isNestedScope node.kind)
        yields :=
          signals.yields ||
            (nodes.filter fun node => !isNestedScope node.kind).any (·.kind == "yield") } := by
  induction nodes generalizing signals with
  | nil =>
      simp [decisionsIn]
  | cons node rest inductionHypothesis =>
      rw [List.foldl_cons, inductionHypothesis, addSignals]
      cases nested : isNestedScope node.kind with
      | true =>
          simp [nested]
      | false =>
          simp [nested, decisionsIn, List.countP_cons, Bool.or_assoc, Nat.add_assoc, Nat.add_comm]

/-- A walk through the body of a function that leaves nothing out counts the body. -/
theorem bodySignals_complete
    {body : Node}
    (complete : (bodySignals body depth budget).1.truncated = false) :
    (bodySignals body depth budget).2 =
      { decisions := decisionsIn (outside (fun node => isNestedScope node.kind) body)
        yields :=
          (outside (fun node => isNestedScope node.kind) body).any (·.kind == "yield") } := by
  have steps : ∀ (node : Node) (depth : Nat) (signals : BodySignals),
      BodySignals.visit node depth signals =
        (if !isNestedScope node.kind then .into else .skip, addSignals node signals) := by
    intro node depth signals
    rw [BodySignals.visit, addSignals]
    cases isNestedScope node.kind <;> rfl
  rw [bodySignals, (Visitor.follows_ofStep _ body.count).walk_eq_foldl steps (Nat.le_refl _)
    complete, foldl_addSignals]
  simp [outside]

/-- A walk through the body of a definition does not forget that something was left out. -/
theorem signalsOf_remembers
    (complete : (signalsOf node depth budget).1.truncated = false) :
    budget.truncated = false := by
  rw [signalsOf] at complete
  split at complete
  · exact (Visitor.follows_ofStep _ 0).walk_remembers complete
  · exact complete

/-- A walk through the body of a definition that leaves nothing out counts its own nodes. -/
theorem signalsOf_complete
    (complete : (signalsOf node depth budget).1.truncated = false) :
    (signalsOf node depth budget).2 =
      { decisions := decisionsIn (ownNodes node)
        yields := (ownNodes node).any (·.kind == "yield") } := by
  rw [signalsOf] at complete ⊢
  rw [ownNodes]
  cases isBody : node.child? "body" with
  | none =>
      rfl
  | some body =>
      rw [isBody] at complete
      exact bodySignals_complete complete

/-- A definition has more nodes than are its own. -/
theorem length_ownNodes_lt (node : Node) : (ownNodes node).length < node.count := by
  have size := node.count_eq
  rw [ownNodes]
  cases isBody : node.child? "body" with
  | none =>
      simp only [Option.map_none, Option.getD_none, List.length_nil]
      omega
  | some body =>
      exact Nat.lt_of_le_of_lt
        (Nat.le_trans (List.length_filter_le _ _) (Node.length_within_le _ body))
        (Node.count_lt_of_child? isBody)

/-- The complexity of code in trees that may be counted in a word is counted in full. -/
theorem complexityOf_decisionsIn
    {nodes : List Node}
    (fits : nodes.length ≤ maxCount) :
    complexityOf (decisionsIn nodes) = UInt32.ofNat (1 + decisionsIn nodes) := by
  have few : decisionsIn nodes ≤ nodes.length := List.countP_le_length
  rw [maxCount] at fits
  rw [complexityOf, Nat.min_eq_left (by omega), Nat.add_comm]

/-- What is found out about a function does not make one forget that something was left out. -/
theorem function?_remembers
    {decorators : List String}
    (complete : (function? source node decorators depth budget).1.truncated = false) :
    budget.truncated = false := by
  cases named : source.fieldText? node "name" with
  | none =>
      rwa [function?_of_unnamed named] at complete
  | some name =>
      rw [function?_of_name named] at complete
      exact signalsOf_remembers complete

/-- If nothing is left out, the facts about a function are those from the whole of its body. -/
theorem function?_complete
    {decorators : List String}
    (fits : node.count ≤ maxCount)
    (complete : (function? source node decorators depth budget).1.truncated = false) :
    (function? source node decorators depth budget).2 = plainFunction? source node decorators := by
  rw [plainFunction?]
  cases named : source.fieldText? node "name" with
  | none =>
      rw [function?_of_unnamed named]
      rfl
  | some name =>
      rw [function?_of_name named] at complete ⊢
      have few := length_ownNodes_lt node
      rw [signalsOf_complete complete, complexityOf_decisionsIn (by omega)]
      rfl

/-! ### Methods -/

/-- What is found at nodes one after another is what all of them have. -/
theorem foldl_append_toList
    {α β : Type}
    (find? : α → Option β)
    (nodes : List α)
    (found : List β) :
    nodes.foldl (fun found node => found ++ (find? node).toList) found =
      found ++ nodes.filterMap find? := by
  induction nodes generalizing found with
  | nil =>
      simp
  | cons node rest inductionHypothesis =>
      rw [List.foldl_cons, inductionHypothesis, List.filterMap_cons]
      cases find? node <;> simp

/-- A walk through an initializer that leaves nothing out finds what its own nodes bind. -/
theorem instanceAttributes_complete
    {body : Node}
    (complete : (instanceAttributes source body depth budget).1.truncated = false) :
    (instanceAttributes source body depth budget).2 =
      (outside (fun node => isNestedScope node.kind) body).filterMap (boundIn? source) := by
  have steps : ∀ (node : Node) (depth : Nat) (found : List Attribute),
      visitInitializer source node depth found =
        (if !isNestedScope node.kind then .into else .skip,
          found ++ (if !isNestedScope node.kind then boundIn? source node else none).toList) := by
    intro node depth found
    rw [visitInitializer, boundIn?]
    cases isNestedScope node.kind with
    | true =>
        simp
    | false =>
        by_cases binds : node.kind = "assignment" <;> simp [binds]
  rw [instanceAttributes, (Visitor.follows_ofStep _ body.count).walk_eq_foldl steps (Nat.le_refl _)
    complete, foldl_append_toList, List.nil_append, outside, List.filterMap_filter]

/-- What is bound in an initializer does not make one forget that something was left out. -/
theorem initializedBy_remembers
    {name : String}
    (complete : (initializedBy source node name depth budget).1.truncated = false) :
    budget.truncated = false := by
  rw [initializedBy] at complete
  split at complete
  · exact (Visitor.follows_ofStep _ 0).walk_remembers complete
  · exact complete

/-- If nothing is left out, an initializer binds what its own nodes bind. -/
theorem initializedBy_complete
    {name : String}
    (complete : (initializedBy source node name depth budget).1.truncated = false) :
    (initializedBy source node name depth budget).2 = initializedIn source node name := by
  rw [initializedBy] at complete ⊢
  rw [initializedIn]
  by_cases isInitializer : name = "__init__"
  · rw [if_pos isInitializer] at complete ⊢
    rw [if_pos isInitializer, ownNodes]
    cases isBody : node.child? "body" with
    | none =>
        rfl
    | some body =>
        rw [isBody] at complete
        exact instanceAttributes_complete complete
  · rw [if_neg isInitializer, if_neg isInitializer]

/-- What is collected with the methods and attributes of one more statement. -/
def ClassBody.with
    (collected : ClassBody)
    (methods : List Function)
    (attributes : List Attribute) :
    ClassBody where
  methods := collected.methods ++ methods
  attributes := attributes.foldl addAttribute collected.attributes

/-- A method does not make one forget that something was left out. -/
theorem addMethod_remembers
    {decorators : List String}
    {collected : ClassBody}
    (complete : (addMethod source node decorators depth budget collected).1.truncated = false) :
    budget.truncated = false := by
  rcases isMethod : function? source node decorators depth budget with ⟨after, method?⟩
  have kept : after.truncated = false := by
    cases method? with
    | none =>
        rwa [addMethod_of_none isMethod] at complete
    | some method =>
        rw [addMethod_of_some isMethod] at complete
        exact initializedBy_remembers complete
  exact function?_remembers (by rw [isMethod]; exact kept)

/-- If nothing is left out, a method is added with all that it binds. -/
theorem addMethod_complete
    {decorators : List String}
    {collected : ClassBody}
    (fits : node.count ≤ maxCount)
    (complete : (addMethod source node decorators depth budget collected).1.truncated = false) :
    (addMethod source node decorators depth budget collected).2 =
      collected.with (plainFunction? source node decorators).toList
        (((plainFunction? source node decorators).map fun method =>
          initializedIn source node method.name).getD []) := by
  rcases isMethod : function? source node decorators depth budget with ⟨after, method?⟩
  have facts : after.truncated = false → method? = plainFunction? source node decorators := by
    intro kept
    have known := function?_complete fits (by rw [isMethod]; exact kept)
    rwa [isMethod] at known
  cases method? with
  | none =>
      rw [addMethod_of_none isMethod] at complete ⊢
      rw [← facts complete]
      simp [ClassBody.with]
  | some method =>
      rw [addMethod_of_some isMethod] at complete ⊢
      rw [← facts (initializedBy_remembers complete), initializedBy_complete complete]
      rfl

/-! ### Classes -/

/-- A definition under decorators has no more nodes than these together with it. -/
theorem count_undecorated_le
    (source : Source)
    (node : Node) :
    (source.undecorated node).1.count ≤ node.count := by
  rw [Source.undecorated]
  split
  · split
    next definition isDefinition => exact Nat.le_of_lt (Node.count_lt_of_child? isDefinition)
    next => exact Nat.le_refl _
  · exact Nat.le_refl _

/-- A statement does not make one forget that something was left out. -/
theorem addStatement_remembers
    {collected : ClassBody}
    (complete : (addStatement source node depth budget collected).1.truncated = false) :
    budget.truncated = false := by
  rw [addStatement] at complete
  split at complete
  · exact addMethod_remembers complete
  · exact complete

/-- If nothing is left out, a statement in the body of a class is added with all that it binds. -/
theorem addStatement_complete
    {collected : ClassBody}
    (fits : node.count ≤ maxCount)
    (complete : (addStatement source node depth budget collected).1.truncated = false) :
    (addStatement source node depth budget collected).2 =
      collected.with (definedFunction? source node).toList (boundAttributes source node) := by
  rw [addStatement] at complete ⊢
  rw [boundAttributes, definedFunction?]
  dsimp only
  by_cases isMethod : (source.undecorated node).1.kind = "function_definition"
  · rw [if_pos isMethod] at complete ⊢
    rw [if_pos isMethod,
      addMethod_complete (Nat.le_trans (count_undecorated_le source node) fits) complete,
      assignedAttributes, if_neg, List.nil_append]
    intro isExpression
    rw [undecorated_of_ne source (by simp [isExpression]), isExpression] at isMethod
    exact absurd isMethod (by decide)
  · rw [if_neg isMethod, if_neg isMethod]
    simp [ClassBody.with]

/-- What the walk through the body of a class at a depth does if nothing is left out. -/
def collectStatements (source : Source) (bodyDepth : Nat) : Step ClassBody :=
  fun node depth collected =>
    if depth = bodyDepth then (.into, collected)
    else
      (.skip, collected.with (definedFunction? source node).toList (boundAttributes source node))

/-- The walk through the body of a class notes whether it leaves something out. -/
theorem visitClassBody_follows
    (source : Source)
    (bodyDepth : Nat) :
    (visitClassBody source bodyDepth).Follows (collectStatements source bodyDepth) maxCount where
  remembers := by
    intro node depth budget collected complete
    by_cases isBody : depth = bodyDepth
    · rwa [isBody, visitClassBody_body] at complete
    · rw [visitClassBody_of_ne source node isBody] at complete
      exact addStatement_remembers complete
  agrees := by
    intro node depth budget collected fits complete
    rw [collectStatements]
    by_cases isBody : depth = bodyDepth
    · rw [isBody, visitClassBody_body, if_pos rfl]
      exact ⟨rfl, rfl⟩
    · rw [visitClassBody_of_ne source node isBody] at complete ⊢
      rw [if_neg isBody]
      exact ⟨rfl, addStatement_complete fits complete⟩

/-- All statements in the body of a class are collected one after another. -/
theorem stateAfter_collectStatements
    (place : List Nat)
    (number : Nat)
    (statements : List Node)
    {bodyDepth : Nat}
    (isBelow : depth ≠ bodyDepth)
    (collected : ClassBody) :
    stateAfter (collectStatements source bodyDepth) collected
        (preorderAll Scope.all (collectStatements source bodyDepth) place number statements depth
          collected) =
      { methods := collected.methods ++ statements.filterMap (definedFunction? source)
        attributes :=
          (statements.flatMap (boundAttributes source)).foldl addAttribute
            collected.attributes } := by
  induction statements generalizing number collected with
  | nil =>
      rw [preorderAll]
      simp
  | cons statement rest inductionHypothesis =>
      have single : preorder Scope.all (collectStatements source bodyDepth) (place ++ [number])
          statement depth collected =
            [(⟨place ++ [number], statement, depth⟩ : Spot).visit
              (collectStatements source bodyDepth) collected] := by
        rw [preorder_eq, collectStatements, if_neg isBelow]
      rw [preorderAll_cons (rfl : Scope.all depth number = true), stateAfter_append,
        inductionHypothesis, single, stateAfter_cons, stateAfter_nil, Visit.after, Spot.visit]
      dsimp only
      rw [collectStatements, if_neg isBelow, List.filterMap_cons, List.flatMap_cons,
        List.foldl_append]
      cases definedFunction? source statement <;> simp [ClassBody.with]

/-- A walk through the body of a class that leaves nothing out collects all its statements. -/
theorem classBody_complete
    {body : Node}
    (fits : body.count ≤ maxCount)
    (complete : (classBody source body depth budget).1.truncated = false) :
    (classBody source body depth budget).2 = plainBody source body.children := by
  have entered : collectStatements source depth body depth {} = (.into, {}) := by
    rw [collectStatements, if_pos rfl]
  rw [classBody, (visitClassBody_follows source depth).walk_complete fits complete, preorder_eq,
    entered, stateAfter_cons, Visit.after, Spot.visit]
  dsimp only
  rw [entered, stateAfter_collectStatements [] 0 _ (Nat.succ_ne_self depth), plainBody,
    List.nil_append]

/-- What is collected in a class does not make one forget that something was left out. -/
theorem collectedOf_remembers
    (complete : (collectedOf source node depth budget).1.truncated = false) :
    budget.truncated = false := by
  rw [collectedOf] at complete
  split at complete
  · exact (visitClassBody_follows source _).walk_remembers complete
  · exact complete

/-- What is found out about a class does not make one forget that something was left out. -/
theorem class?_remembers
    {decorators : List String}
    (complete : (class? source node decorators depth budget).1.truncated = false) :
    budget.truncated = false := by
  cases named : node.child? "name" with
  | none =>
      rwa [class?_of_unnamed named] at complete
  | some name =>
      rw [class?_of_name named] at complete
      exact collectedOf_remembers complete

/-- If nothing is left out, the facts about a class are those from the whole of its body. -/
theorem class?_complete
    {decorators : List String}
    (fits : node.count ≤ maxCount)
    (complete : (class? source node decorators depth budget).1.truncated = false) :
    (class? source node decorators depth budget).2 = plainClass? source node decorators := by
  rw [plainClass?]
  cases named : node.child? "name" with
  | none =>
      rw [class?_of_unnamed named]
      rfl
  | some name =>
      rw [class?_of_name named] at complete ⊢
      rw [collectedOf] at complete ⊢
      cases isBody : node.child? "body" with
      | none =>
          rfl
      | some body =>
          rw [isBody] at complete
          have fitsBody := Nat.le_trans (Nat.le_of_lt (Node.count_lt_of_child? isBody)) fits
          have collected := classBody_complete fitsBody complete
          dsimp only
          rw [collected]
          rfl

/-! ### The level of the module -/

/-- What a node at the level of the module contributes, from the whole of it. -/
def contribute (source : Source) (node : Node) (found : Definitions) : Definitions where
  functions := found.functions ++ (definedFunction? source node).toList
  classes := found.classes ++ (definedClass? source node).toList
  globals :=
    (assignedNames source node).foldl (fun known name => insertName name known) found.globals

/-- A node at the level of the module does not make one forget that something was left out. -/
theorem addModuleLevel_remembers
    {found : Definitions}
    (complete : (addModuleLevel source node depth budget found).1.truncated = false) :
    budget.truncated = false := by
  simp only [addModuleLevel] at complete
  split at complete
  · exact function?_remembers complete
  · split at complete
    · exact class?_remembers complete
    · exact complete

/-- If nothing is left out, a node at the level of the module contributes all that it has. -/
theorem addModuleLevel_complete
    {found : Definitions}
    (fits : node.count ≤ maxCount)
    (complete : (addModuleLevel source node depth budget found).1.truncated = false) :
    (addModuleLevel source node depth budget found).2 = contribute source node found := by
  have fitsBare := Nat.le_trans (count_undecorated_le source node) fits
  have noNames : ∀ {kind}, (source.undecorated node).1.kind = kind → kind ≠ "expression_statement" →
      assignedNames source node = [] := by
    intro kind isKind differs
    refine assignedNames_of_ne source fun isExpression => differs ?_
    rw [undecorated_of_ne source (by simp [isExpression])] at isKind
    rw [← isKind, isExpression]
  simp only [addModuleLevel] at complete ⊢
  simp only [contribute, definedFunction?, definedClass?]
  split at complete
  next isFunction =>
    rw [if_pos isFunction, if_pos isFunction, if_neg (by simp [isFunction]),
      function?_complete fitsBare complete, noNames isFunction (by decide)]
    simp
  next noFunction =>
    rw [if_neg noFunction, if_neg noFunction]
    split at complete
    next isClass =>
      rw [if_pos isClass, if_pos isClass, class?_complete fitsBare complete,
        noNames isClass (by decide)]
      simp
    next noClass =>
      rw [if_neg noClass, if_neg noClass]
      simp

/-- Nodes at the level of the module contribute one after another. -/
theorem foldl_contribute
    (nodes : List Node)
    (found : Definitions) :
    nodes.foldl (fun found node => contribute source node found) found =
      { functions := found.functions ++ nodes.filterMap (definedFunction? source)
        classes := found.classes ++ nodes.filterMap (definedClass? source)
        globals :=
          (nodes.flatMap (assignedNames source)).foldl (fun known name => insertName name known)
            found.globals } := by
  induction nodes generalizing found with
  | nil =>
      simp
  | cons node rest inductionHypothesis =>
      rw [List.foldl_cons, inductionHypothesis, contribute, List.filterMap_cons,
        List.filterMap_cons, List.flatMap_cons, List.foldl_append]
      cases definedFunction? source node <;> cases definedClass? source node <;> simp

/-- A walk at the level of the module that leaves nothing out finds all definitions. -/
theorem definitions_complete
    {root : Node}
    (fits : root.count ≤ maxCount)
    (complete : (walk (visitModuleLevel source) root depth budget {}).1.truncated = false) :
    (walk (visitModuleLevel source) root depth budget {}).2 =
      { functions := (moduleLevel root).filterMap (definedFunction? source)
        classes := (moduleLevel root).filterMap (definedClass? source)
        globals :=
          ((moduleLevel root).flatMap (assignedNames source)).foldl
            (fun known name => insertName name known) [] } := by
  have follows : (visitModuleLevel source).Follows
      (fun node _ found =>
        (if isModuleLevel node.kind then .into else .skip, contribute source node found))
      maxCount := by
    constructor
    · intro node depth budget found kept
      rw [visitModuleLevel_eq] at kept
      exact addModuleLevel_remembers kept
    · intro node depth budget found few kept
      rw [visitModuleLevel_eq] at kept ⊢
      exact ⟨rfl, addModuleLevel_complete few kept⟩
  rw [follows.walk_eq_foldl (fun _ _ _ => rfl) fits complete, foldl_contribute]
  rfl

/-! ### The whole file -/

/-- What a node anywhere in a file adds to what is found. -/
def addOccurrences (source : Source) (node : Node) (found : Occurrences) : Occurrences :=
  if isImport node.kind then { found with imports := found.imports ++ imports source node }
  else
    { found with
      decisions := found.decisions + (if isDecisionPoint node.kind then 1 else 0)
      usesTypeHints := found.usesTypeHints || isTypeHint node }

/-- Nodes anywhere in a file are taken note of one after another. -/
theorem foldl_addOccurrences
    (nodes : List Node)
    (found : Occurrences) :
    nodes.foldl (fun found node => addOccurrences source node found) found =
      { imports :=
          found.imports ++ (nodes.filter fun node => isImport node.kind).flatMap (imports source)
        decisions := found.decisions + decisionsIn (nodes.filter fun node => !isImport node.kind)
        usesTypeHints := found.usesTypeHints ||
          (nodes.filter fun node => !isImport node.kind).any isTypeHint } := by
  induction nodes generalizing found with
  | nil =>
      simp [decisionsIn]
  | cons node rest inductionHypothesis =>
      rw [List.foldl_cons, inductionHypothesis, addOccurrences]
      cases imported : isImport node.kind with
      | true =>
          simp [imported]
      | false =>
          simp [imported, decisionsIn, List.countP_cons, Bool.or_assoc, Nat.add_assoc, Nat.add_comm]

/-- A walk through a file that leaves nothing out finds all that is anywhere in it. -/
theorem occurrences_complete
    {root : Node}
    (complete :
      (walk (Visitor.ofStep (visitAnywhere source)) root depth budget {}).1.truncated = false) :
    (walk (Visitor.ofStep (visitAnywhere source)) root depth budget {}).2 =
      { imports := (importStatements root).flatMap (imports source)
        decisions := decisionsIn (outsideImports root)
        usesTypeHints := (outsideImports root).any isTypeHint } := by
  have steps : ∀ (node : Node) (depth : Nat) (found : Occurrences),
      visitAnywhere source node depth found =
        (if !isImport node.kind then .into else .skip, addOccurrences source node found) := by
    intro node depth found
    rw [visitAnywhere, addOccurrences]
    cases isImport node.kind <;> rfl
  rw [(Visitor.follows_ofStep _ root.count).walk_eq_foldl steps (Nat.le_refl _) complete,
    foldl_addOccurrences]
  simp [importStatements, outsideImports, outside]

/-- If nothing is left out, the structure is what all nodes contribute. -/
theorem model_eq_plainModel
    {path text : String}
    {root : Node}
    (few : root.count < 4294967295)
    (complete : (model path text root budget).2.truncated = false) :
    (model path text root budget).2 = plainModel path text root := by
  have fits : root.count ≤ maxCount := Nat.le_of_lt_succ few
  have fitsOutside : (outsideImports root).length ≤ maxCount :=
    Nat.le_trans (List.length_filter_le _ _) (Nat.le_trans (Node.length_within_le _ root) fits)
  have completeAnywhere : (walk (Visitor.ofStep (visitAnywhere (Source.ofString text))) root 0
      (walk (visitModuleLevel (Source.ofString text)) root 0 budget {}).1 {}).1.truncated = false :=
    complete
  have completeDefinitions := (Visitor.follows_ofStep _ 0).walk_remembers completeAnywhere
  rw [model_eq]
  dsimp only
  rw [definitions_complete fits completeDefinitions, occurrences_complete completeAnywhere,
    completeAnywhere, modelOf, complexityOf_decisionsIn fitsOutside]
  rfl

/-- A structure of which nothing was left out is that of the whole tree. -/
theorem model_complete
    (path : String)
    (text : String)
    (root : Node)
    (budget : Budget)
    (few : root.count < 4294967295)
    (complete : (model path text root budget).2.truncated = false) :
    (model path text root budget).2 = plainModel path text root ∧
      (ImportsAreFlat (allNodes root) →
        (model path text root budget).2.imports =
          ((allNodes root).filter fun node => isImport node.kind).flatMap
            (imports (Source.ofString text))) := by
  have isPlain := model_eq_plainModel few complete
  refine ⟨isPlain, fun flat => ?_⟩
  rw [isPlain, plainModel, importStatements_of_flat flat]

/-- A file with one function that yields is seen completely. -/
theorem model_complete_generatorTree :
    generatorTree.count < 4294967295 ∧
      (model "f.py" "def f():\n yield" generatorTree {}).2.truncated = false ∧
      (model "f.py" "def f():\n yield" generatorTree {}).2 =
        plainModel "f.py" "def f():\n yield" generatorTree := by
  have few : generatorTree.count < 4294967295 := by decide +kernel
  have complete : (model "f.py" "def f():\n yield" generatorTree {}).2.truncated = false := by
    decide +kernel
  exact ⟨few, complete, (model_complete _ _ _ _ few complete).1⟩

end SourceFacts.Extraction
