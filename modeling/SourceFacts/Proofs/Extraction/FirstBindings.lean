import Mathlib.Data.List.Flatten
import SourceFacts.Proofs.Extraction.Completeness

namespace SourceFacts.Extraction

/-!
# The first binding of a name wins

The body of a class binds attributes at its own level and, through `self`, in every initializer.
The walk through it comes by these bindings in the order of the source, as far as the budget goes:
the body of a method is visited once for its complexity, that of an initializer once more for its
bindings. The attributes of the class are the bindings come by, each name bound for the first time.
-/

open Syntax Facts List

/-! ## Bindings -/

/-- A name and an assignment in a class that binds it. -/
structure Binding where
  name : String
  assignment : Node
  /-- Whether the assignment stands in the body of the class itself. -/
  isClassLevel : Bool
deriving Repr, Inhabited

/-- The attribute that a binding makes. -/
def Binding.toAttribute (source : Source) (binding : Binding) : Attribute :=
  attributeOf source binding.assignment binding.isClassLevel binding.name

/-- The bindings that an assignment in the body of a class makes, which are those of its first
target. -/
def assignmentBindings (source : Source) (assignment : Node) : List Binding :=
  match assignment.child? "left" with
  | some target =>
      (targetNames source target).map fun name => { name, assignment, isClassLevel := true }
  | none => []

/-- The bindings of a statement in the body of a class that is an assignment. -/
def classBindings (source : Source) (statement : Node) : List Binding :=
  if statement.kind = "expression_statement" then
    ((assignment? statement).map (assignmentBindings source)).getD []
  else []

/-- The name that an assignment binds on `self`. -/
def selfName? (source : Source) (assignment : Node) : Option String :=
  match assignment.child? "left" with
  | some target =>
      if target.kind = "attribute" ∧ (target.child? "object").map source.textOf = some "self" then
        (target.child? "attribute").map source.textOf
      else none
  | none => none

/-- The binding on `self` that a node is. -/
def selfBinding? (source : Source) (node : Node) : Option Binding :=
  if node.kind = "assignment" then
    (selfName? source node).map fun name => { name, assignment := node, isClassLevel := false }
  else none

/-- The method that a statement in the body of a class defines. -/
def method? (source : Source) (statement : Node) : Option Node :=
  let definition := (source.undecorated statement).1
  if definition.kind = "function_definition" ∧ (source.fieldText? definition "name").isSome then
    some definition
  else none

/-- Whether a method initializes instances. -/
def isInitializer (source : Source) (method : Node) : Bool :=
  source.fieldText? method "name" == some "__init__"

/-- The bindings on `self` that some nodes of a method are, if it initializes instances. -/
def selfBindings (source : Source) (method : Node) (nodes : List Node) : List Binding :=
  if isInitializer source method then nodes.filterMap (selfBinding? source) else []

/-- The bindings of a statement in the body of a class. -/
def bindingsOf (source : Source) (statement : Node) : List Binding :=
  classBindings source statement ++
    ((method? source statement).map fun method =>
      selfBindings source method (ownNodes method)).getD []

variable {source : Source} {statement node method : Node} {depth : Nat} {budget after : Budget}

theorem isInitializer_of_name
    {name : String}
    (named : source.fieldText? method "name" = some name) :
    isInitializer source method = (name == "__init__") := by
  rw [isInitializer, named]
  rfl

/-! ### Attributes of bindings -/

theorem classAttributes_eq (assignment : Node) :
    classAttributes source assignment =
      (assignmentBindings source assignment).map (·.toAttribute source) := by
  rw [classAttributes, assignmentBindings]
  cases assignment.child? "left" with
  | none =>
      rfl
  | some target =>
      dsimp only
      rw [List.map_map]
      rfl

theorem assignedAttributes_eq (statement : Node) :
    assignedAttributes source statement =
      (classBindings source statement).map (·.toAttribute source) := by
  rw [assignedAttributes, classBindings]
  split
  · cases assignment? statement with
    | none =>
        rfl
    | some assignment =>
        exact classAttributes_eq assignment
  · rfl

theorem instanceAttribute?_eq (assignment : Node) :
    instanceAttribute? source assignment =
      (selfName? source assignment).map (attributeOf source assignment false) := by
  rw [instanceAttribute?, selfName?]
  cases assignment.child? "left" with
  | none =>
      rfl
  | some target =>
      by_cases isAttribute : target.kind = "attribute"
      · cases isObject : target.child? "object" with
        | none =>
            simp [isAttribute, isObject]
        | some object =>
            by_cases isSelf : source.textOf object = "self"
            · cases isName : target.child? "attribute" <;>
                simp [isAttribute, isObject, isSelf, isName]
            · simp [isAttribute, isObject, isSelf]
      · simp [isAttribute]

theorem boundIn?_eq (node : Node) :
    boundIn? source node = (selfBinding? source node).map (·.toAttribute source) := by
  rw [boundIn?, selfBinding?]
  split
  · rw [instanceAttribute?_eq, Option.map_map]
    rfl
  · rfl

/-! ## First bindings -/

/-- The bindings without those of names that are bound before. -/
def firstBindings (bindings : List Binding) : List Binding :=
  bindings.eraseDupsBy (·.name == ·.name)

/-- The bindings of names that some others do not bind. -/
def freshBindings (earlier bindings : List Binding) : List Binding :=
  bindings.filter fun binding => !earlier.any (binding.name == ·.name)

@[simp] theorem firstBindings_nil : firstBindings [] = [] := rfl

theorem firstBindings_cons (binding : Binding) (rest : List Binding) :
    firstBindings (binding :: rest) =
      binding :: firstBindings (freshBindings [binding] rest) := by
  rw [firstBindings, List.eraseDupsBy_cons]
  refine congrArg (fun rest => binding :: firstBindings rest)
    (List.filter_congr fun other _ => ?_)
  rw [List.any_cons, List.any_nil, Bool.or_false]
  cases other.name == binding.name <;> rfl

theorem freshBindings_append (first second bindings : List Binding) :
    freshBindings (first ++ second) bindings =
      freshBindings second (freshBindings first bindings) := by
  simp [freshBindings, List.filter_filter, Bool.and_comm]

/-- If no name of some bindings is bound before, all of them are fresh. -/
theorem freshBindings_eq_self
    {earlier bindings : List Binding}
    (areFresh : ∀ binding ∈ earlier, binding.name ∉ bindings.map (·.name)) :
    freshBindings earlier bindings = bindings := by
  rw [freshBindings, List.filter_eq_self]
  intro binding member
  rw [Bool.not_eq_true', List.any_eq_false]
  intro other isEarlier same
  exact areFresh other isEarlier (beq_iff_eq.mp same ▸ List.mem_map_of_mem member)

theorem length_freshBindings_le (earlier bindings : List Binding) :
    (freshBindings earlier bindings).length ≤ bindings.length :=
  List.length_filter_le _ _

-- What is left behind a first binding is not the rest but a part of it, so that these proofs go by
-- length and not by the constructors.

theorem firstBindings_sublist (bindings : List Binding) : firstBindings bindings <+ bindings := by
  cases bindings with
  | nil =>
      exact List.Sublist.refl _
  | cons binding rest =>
      rw [firstBindings_cons]
      exact ((firstBindings_sublist _).trans List.filter_sublist).cons_cons _
termination_by bindings.length
decreasing_by exact Nat.lt_succ_of_le (length_freshBindings_le _ _)

theorem nodup_firstBindings (bindings : List Binding) :
    ((firstBindings bindings).map (·.name)).Nodup := by
  cases bindings with
  | nil =>
      exact List.nodup_nil
  | cons binding rest =>
      rw [firstBindings_cons, List.map_cons, List.nodup_cons]
      refine ⟨?_, nodup_firstBindings _⟩
      rw [List.mem_map]
      rintro ⟨other, member, same⟩
      have isFresh := List.mem_filter.mp ((firstBindings_sublist _).subset member)
      simp [same] at isFresh
termination_by bindings.length
decreasing_by exact Nat.lt_succ_of_le (length_freshBindings_le _ _)

theorem find?_freshBindings_self
    (first : Binding)
    (rest : List Binding) :
    (freshBindings [first] rest).find? (·.name == first.name) = none := by
  rw [freshBindings, List.find?_filter, List.find?_eq_none]
  intro other _
  simp

theorem find?_freshBindings_of_ne
    {first : Binding}
    {name : String}
    (different : first.name ≠ name)
    (rest : List Binding) :
    (freshBindings [first] rest).find? (·.name == name) = rest.find? (·.name == name) := by
  rw [freshBindings, List.find?_filter]
  refine congrArg (List.find? · rest) (funext fun other => ?_)
  by_cases named : other.name = name
  · simp [named, Ne.symm different]
  · simp [named]

/-- First bindings are those that are the first of their names. -/
theorem mem_firstBindings_iff
    {binding : Binding}
    (bindings : List Binding) :
    binding ∈ firstBindings bindings ↔
      bindings.find? (·.name == binding.name) = some binding := by
  cases bindings with
  | nil =>
      simp
  | cons first rest =>
      rw [firstBindings_cons, List.mem_cons, mem_firstBindings_iff, List.find?_cons]
      by_cases same : first.name = binding.name
      · rw [← same, find?_freshBindings_self, beq_self_eq_true]
        simp [eq_comm]
      · have different : binding ≠ first := fun equal => same (by rw [equal])
        rw [find?_freshBindings_of_ne same, beq_eq_false_iff_ne.mpr same, or_iff_right different]
termination_by bindings.length
decreasing_by exact Nat.lt_succ_of_le (length_freshBindings_le _ _)

/-- The name of every binding is that of a first one. -/
theorem name_mem_firstBindings
    {binding : Binding}
    {bindings : List Binding}
    (member : binding ∈ bindings) :
    binding.name ∈ (firstBindings bindings).map (·.name) := by
  cases found : bindings.find? (·.name == binding.name) with
  | none =>
      exact absurd (beq_self_eq_true _) (List.find?_eq_none.mp found binding member)
  | some first =>
      have isNamed := List.find?_some found
      have same : first.name = binding.name := beq_iff_eq.mp isNamed
      rw [← same] at found ⊢
      exact List.mem_map_of_mem ((mem_firstBindings_iff bindings).mpr found)

/-- The attributes of bindings are added unless their names are bound. -/
theorem foldl_addAttribute
    (source : Source)
    (known bindings : List Binding) :
    (bindings.map (·.toAttribute source)).foldl addAttribute (known.map (·.toAttribute source)) =
      (known ++ firstBindings (freshBindings known bindings)).map (·.toAttribute source) := by
  induction bindings generalizing known with
  | nil =>
      rw [freshBindings, List.filter_nil, firstBindings_nil, List.append_nil]
      rfl
  | cons binding rest inductionHypothesis =>
      have named : (known.map (·.toAttribute source)).any
          (·.name == (binding.toAttribute source).name) = known.any (binding.name == ·.name) := by
        rw [List.any_map]
        exact congrArg known.any (funext fun other => Bool.beq_comm)
      rw [List.map_cons, List.foldl_cons, addAttribute, named, freshBindings, List.filter_cons]
      cases known.any (binding.name == ·.name) with
      | true =>
          exact inductionHypothesis known
      | false =>
          have added : known.map (·.toAttribute source) ++ [binding.toAttribute source] =
              (known ++ [binding]).map (·.toAttribute source) := by
            rw [List.map_append]
            rfl
          rw [if_neg Bool.false_ne_true, added, inductionHypothesis, freshBindings_append,
            Bool.not_false, if_pos rfl, firstBindings_cons, List.append_assoc]
          rfl

theorem foldl_addAttribute_nil (bindings : List Binding) :
    (bindings.map (·.toAttribute source)).foldl addAttribute [] =
      (firstBindings bindings).map (·.toAttribute source) := by
  have added := foldl_addAttribute source [] bindings
  rwa [List.nil_append, freshBindings_eq_self fun _ member => absurd member List.not_mem_nil]
    at added

/-! ## Bindings come by -/

/-- The nodes that a walk through the body of a method at a depth reaches without entering scopes
inside it. -/
def reachedNodes (limits : Limits) (method : Node) (depth : Nat) : List Node :=
  ((method.child? "body").map
    (·.reached limits (fun node => !isNestedScope node.kind) (depth + 1))).getD []

/-- The number of visits in a method: a walk through its body, and another one if it initializes
instances. -/
def visitsIn (source : Source) (limits : Limits) (depth : Nat) (method : Node) : Nat :=
  (reachedNodes limits method depth).length +
    if isInitializer source method then (reachedNodes limits method depth).length else 0

/-- The bindings on `self` that are come by in a method if there is room for some visits. -/
def reachedBindings (source : Source) (limits : Limits) (depth room : Nat) (method : Node) :
    List Binding :=
  -- The walk for the complexity of the method comes first, and takes from the room.
  selfBindings source method
    ((reachedNodes limits method depth).take (room - (reachedNodes limits method depth).length))

/-- The number of visits in a statement at a depth. -/
def visitsOf (source : Source) (limits : Limits) (depth : Nat) (statement : Node) : Nat :=
  ((method? source statement).map (visitsIn source limits depth)).getD 0

/-- The bindings that are come by in a statement at a depth if there is room for some visits in
it. -/
def bindingsWithin (source : Source) (limits : Limits) (depth room : Nat) (statement : Node) :
    List Binding :=
  classBindings source statement ++
    ((method? source statement).map (reachedBindings source limits depth room)).getD []

/-- The bindings that are come by in statements at a depth if there is room for some visits. -/
def encountered (source : Source) (limits : Limits) (depth : Nat) : Nat → List Node → List Binding
  | _, [] => []
  | 0, _ :: _ => []
  | room + 1, statement :: rest =>
      bindingsWithin source limits depth room statement ++
        encountered source limits depth (room - visitsOf source limits depth statement) rest

theorem encountered_zero
    (limits : Limits)
    (depth : Nat)
    (statements : List Node) :
    encountered source limits depth 0 statements = [] := by
  cases statements <;> rw [encountered]

/-! ### Methods -/

theorem visit_bodySignals (node : Node) (depth : Nat) (signals : BodySignals) :
    (BodySignals.visit node depth signals).1 =
      if !isNestedScope node.kind then .into else .skip := by
  rw [BodySignals.visit]
  cases isNestedScope node.kind <;> rfl

/-- The walk through an initializer enters no scope inside it, and adds what a node binds. -/
theorem visitInitializer_eq (node : Node) (depth : Nat) (found : List Attribute) :
    visitInitializer source node depth found =
      (if !isNestedScope node.kind then .into else .skip,
        found ++ (boundIn? source node).toList) := by
  rw [visitInitializer, boundIn?]
  by_cases binds : node.kind = "assignment"
  · have isOwn : isNestedScope "assignment" = false := by
      decide
    simp [binds, isOwn]
  · cases isNestedScope node.kind <;> simp [binds]

/-- The walk through the body of a definition spends a visit at every node that is reached. -/
theorem pays_signalsOf
    (method : Node)
    (depth : Nat)
    (budget : Budget) :
    budget.Pays (signalsOf method depth budget).1
      (reachedNodes budget.limits method depth).length := by
  rw [signalsOf, reachedNodes]
  cases method.child? "body" with
  | none =>
      exact budget.pays_zero
  | some body =>
      exact pays_walk visit_bodySignals

/-- The walk through an initializer spends a visit at every node that is reached, and finds what
these bind as far as there is room. -/
theorem initializedBy_reached
    {name : String}
    (named : source.fieldText? method "name" = some name)
    (depth : Nat)
    (budget : Budget) :
    budget.Pays (initializedBy source method name depth budget).1
        (if isInitializer source method then (reachedNodes budget.limits method depth).length
          else 0) ∧
      (initializedBy source method name depth budget).2 =
        (selfBindings source method
          ((reachedNodes budget.limits method depth).take budget.room)).map
            (·.toAttribute source) := by
  rw [initializedBy, selfBindings, isInitializer_of_name named, reachedNodes]
  by_cases initializes : name = "__init__"
  · rw [if_pos initializes, initializes, beq_self_eq_true, if_pos rfl, if_pos rfl]
    cases method.child? "body" with
    | none =>
        exact ⟨budget.pays_zero, by simp⟩
    | some body =>
        refine ⟨pays_walk fun node depth found => congrArg Prod.fst (visitInitializer_eq ..), ?_⟩
        dsimp only
        rw [instanceAttributes, walk_eq_foldl_reached visitInitializer_eq, foldl_append_toList,
          List.nil_append, List.map_filterMap]
        exact congrArg (List.filterMap · _) (funext boundIn?_eq)
  · rw [if_neg initializes, beq_eq_false_iff_ne.mpr initializes]
    exact ⟨budget.pays_zero, rfl⟩

/-! ### Statements -/

theorem kind_undecorated_of_expression
    (isExpression : statement.kind = "expression_statement") :
    (source.undecorated statement).1.kind = "expression_statement" := by
  rw [undecorated_of_ne source (by simp [isExpression]), isExpression]

theorem classBindings_of_function
    (isFunction : (source.undecorated statement).1.kind = "function_definition") :
    classBindings source statement = [] := by
  rw [classBindings, if_neg]
  intro isExpression
  rw [kind_undecorated_of_expression isExpression] at isFunction
  exact absurd isFunction (by decide)

/-- A method spends the visits in it, and adds the bindings that are come by. -/
theorem addMethod_reached
    {name : String}
    (named : source.fieldText? method "name" = some name)
    (decorators : List String)
    (depth : Nat)
    (budget : Budget)
    (collected : ClassBody) :
    budget.Pays (addMethod source method decorators depth budget collected).1
        (visitsIn source budget.limits depth method) ∧
      (addMethod source method decorators depth budget collected).2.attributes =
        ((reachedBindings source budget.limits depth budget.room method).map
          (·.toAttribute source)).foldl addAttribute collected.attributes := by
  have spent := pays_signalsOf method depth budget
  rw [addMethod_of_some (function?_of_name named decorators depth budget)]
  dsimp only [functionOf]
  obtain ⟨spentNext, found⟩ := initializedBy_reached named depth (signalsOf method depth budget).1
  rw [spent.limits] at spentNext found
  rw [spent.room] at found
  exact ⟨spent.trans spentNext, by rw [found, reachedBindings]⟩

/-- A statement spends the visits in it, and adds the bindings that are come by. -/
theorem addStatement_reached
    (source : Source)
    (statement : Node)
    (depth : Nat)
    (budget : Budget)
    (collected : ClassBody) :
    budget.Pays (addStatement source statement depth budget collected).1
        (visitsOf source budget.limits depth statement) ∧
      (addStatement source statement depth budget collected).2.attributes =
        ((bindingsWithin source budget.limits depth budget.room statement).map
          (·.toAttribute source)).foldl addAttribute collected.attributes := by
  rw [addStatement, visitsOf, bindingsWithin, method?]
  by_cases isFunction : (source.undecorated statement).1.kind = "function_definition"
  · rw [if_pos isFunction, classBindings_of_function isFunction, List.nil_append]
    cases named : source.fieldText? (source.undecorated statement).1 "name" with
    | none =>
        rw [addMethod_of_none (function?_of_unnamed named _ depth budget), if_neg (by simp)]
        exact ⟨budget.pays_zero, rfl⟩
    | some name =>
        rw [if_pos ⟨isFunction, rfl⟩]
        exact addMethod_reached named _ depth budget collected
  · rw [if_neg isFunction, if_neg (isFunction ·.1), assignedAttributes_eq]
    refine ⟨budget.pays_zero, ?_⟩
    rw [Option.map_none, Option.getD_none, List.append_nil]

/-- A walk takes note of a statement in the body of a class, and goes on with the others. -/
theorem walkPending_statement
    {bodyDepth : Nat}
    (isBelow : depth ≠ bodyDepth)
    (isLeft : budget.isExhausted = false)
    (waiting : List (Node × Nat))
    (collected : ClassBody) :
    walkPending (visitClassBody source bodyDepth) ((statement, depth) :: waiting) budget collected =
      walkPending (visitClassBody source bodyDepth) waiting
        (addStatement source statement depth budget.charge collected).1
        (addStatement source statement depth budget.charge collected).2 := by
  rcases stepped : addStatement source statement depth budget.charge collected with
    ⟨after, next⟩
  have visited : visitClassBody source bodyDepth statement depth budget.charge collected =
      (.skip, after, next) := by
    rw [visitClassBody_of_ne source statement isBelow, stepped]
  rw [walkPending_of_skip isLeft visited]

/-- A walk through statements in the body of a class adds the bindings that are come by. -/
theorem walkPending_statements
    {bodyDepth : Nat}
    (isBelow : depth ≠ bodyDepth)
    (statements : List Node)
    (budget : Budget)
    (collected : ClassBody) :
    (walkPending (visitClassBody source bodyDepth) (statements.map (·, depth)) budget
        collected).2.attributes =
      ((encountered source budget.limits depth budget.room statements).map
        (·.toAttribute source)).foldl addAttribute collected.attributes := by
  induction statements generalizing budget collected with
  | nil =>
      rw [List.map_nil, walkPending_nil, encountered]
      rfl
  | cons statement rest inductionHypothesis =>
      rw [List.map_cons]
      cases spent : budget.isExhausted with
      | true =>
          rw [walkPending_of_isExhausted spent, Budget.isExhausted_iff.mp spent, encountered]
          rfl
      | false =>
          -- The statement takes one visit itself and then those in it; what is left of the room
          -- is what `encountered` goes on with.
          obtain ⟨pays, added⟩ :=
            addStatement_reached source statement depth budget.charge collected
          rw [walkPending_statement isBelow spent, inductionHypothesis, added, pays.limits,
            pays.room, Budget.room_of_isLeft spent, encountered, List.map_append,
            List.foldl_append]
          rfl

/-! ## Bindings within limits -/

/-- Among the nodes that are come by, only those outside the scopes in a body bind names on
`self`. -/
theorem selfBindings_outside
    (method body : Node) :
    selfBindings source method (outside (fun node => isNestedScope node.kind) body) =
      selfBindings source method (body.within fun node => !isNestedScope node.kind) := by
  rw [selfBindings, selfBindings, outside, List.filterMap_filter]
  refine congrArg (fun binds => if isInitializer source method then List.filterMap binds _ else [])
    (funext fun node => ?_)
  cases isScope : isNestedScope node.kind with
  | false =>
      rfl
  | true =>
      have noBinding : node.kind ≠ "assignment" := by
        intro binds
        rw [binds] at isScope
        exact absurd isScope (by decide)
      rw [selfBinding?, if_neg noBinding]
      rfl

theorem selfBindings_sublist
    {first second : List Node}
    (areAmong : first <+ second)
    (method : Node) :
    selfBindings source method first <+ selfBindings source method second := by
  rw [selfBindings, selfBindings]
  split
  · exact areAmong.filterMap _
  · exact List.Sublist.refl _

theorem reachedBindings_sublist
    (limits : Limits)
    (depth room : Nat)
    (method : Node) :
    reachedBindings source limits depth room method <+
      selfBindings source method (ownNodes method) := by
  rw [reachedBindings, reachedNodes, ownNodes]
  cases method.child? "body" with
  | none =>
      exact selfBindings_sublist (List.take_sublist _ _) method
  | some body =>
      rw [Option.map_some, Option.getD_some, Option.map_some, Option.getD_some,
        selfBindings_outside]
      exact selfBindings_sublist
        ((List.take_sublist _ _).trans (Node.reached_sublist limits _ body _)) method

theorem bindingsWithin_sublist
    (limits : Limits)
    (depth room : Nat)
    (statement : Node) :
    bindingsWithin source limits depth room statement <+ bindingsOf source statement := by
  rw [bindingsWithin, bindingsOf]
  refine (List.Sublist.refl _).append ?_
  cases method? source statement with
  | none =>
      exact List.Sublist.refl _
  | some method =>
      exact reachedBindings_sublist limits depth room method

theorem encountered_sublist
    (limits : Limits)
    (depth room : Nat)
    (statements : List Node) :
    encountered source limits depth room statements <+
      statements.flatMap (bindingsOf source) := by
  induction statements generalizing room with
  | nil =>
      rw [encountered]
      exact List.nil_sublist _
  | cons statement rest inductionHypothesis =>
      cases room with
      | zero =>
          rw [encountered]
          exact List.nil_sublist _
      | succ room =>
          rw [encountered, List.flatMap_cons]
          exact (bindingsWithin_sublist limits depth room statement).append
            (inductionHypothesis _)

/-! ### Nothing is left out -/

/-- If the walk through an initializer leaves nothing out, all bindings in it are come by. -/
theorem initializedBy_all
    {name : String}
    (named : source.fieldText? method "name" = some name)
    (complete : (initializedBy source method name depth budget).1.truncated = false) :
    selfBindings source method ((reachedNodes budget.limits method depth).take budget.room) =
      selfBindings source method (ownNodes method) := by
  by_cases initializes : name = "__init__"
  · rw [initializedBy, if_pos initializes] at complete
    rw [reachedNodes, ownNodes]
    cases isBody : method.child? "body" with
    | none =>
        rw [Option.map_none, Option.getD_none, List.take_nil]
        rfl
    | some body =>
        rw [isBody] at complete
        have all := take_reached_of_complete
          (fun node depth found => congrArg Prod.fst (visitInitializer_eq node depth found))
          complete
        rw [Option.map_some, Option.getD_some, Option.map_some, Option.getD_some,
          selfBindings_outside, all]
  · rw [selfBindings, selfBindings, isInitializer_of_name named,
      beq_eq_false_iff_ne.mpr initializes]
    rfl

/-- If a statement leaves nothing out, all its bindings are come by. -/
theorem addStatement_all
    {collected : ClassBody}
    (complete : (addStatement source statement depth budget collected).1.truncated = false) :
    bindingsWithin source budget.limits depth budget.room statement =
      bindingsOf source statement := by
  rw [addStatement] at complete
  rw [bindingsWithin, bindingsOf, method?]
  refine congrArg (classBindings source statement ++ ·) ?_
  split
  next isMethod =>
    obtain ⟨isFunction, isNamed⟩ := isMethod
    obtain ⟨name, named⟩ := Option.isSome_iff_exists.mp isNamed
    rw [if_pos isFunction, addMethod_of_some (function?_of_name named _ depth budget)] at complete
    have spent := pays_signalsOf (source.undecorated statement).1 depth budget
    have all := initializedBy_all named complete
    rw [spent.limits, spent.room] at all
    rw [Option.map_some, Option.map_some, reachedBindings, all]
  next =>
    rfl

/-- If a walk through statements leaves nothing out, all their bindings are come by. -/
theorem encountered_all
    {bodyDepth : Nat}
    (isBelow : depth ≠ bodyDepth)
    {statements : List Node}
    {budget : Budget}
    {collected : ClassBody}
    (complete : (walkPending (visitClassBody source bodyDepth) (statements.map (·, depth)) budget
      collected).1.truncated = false) :
    encountered source budget.limits depth budget.room statements =
      statements.flatMap (bindingsOf source) := by
  induction statements generalizing budget collected with
  | nil =>
      rw [encountered]
      rfl
  | cons statement rest inductionHypothesis =>
      rw [List.map_cons] at complete
      cases spent : budget.isExhausted with
      | true =>
          rw [walkPending_of_isExhausted spent] at complete
          exact absurd complete Bool.noConfusion
      | false =>
          rw [walkPending_statement isBelow spent] at complete
          -- Nothing is left out at the end, so nothing was left out behind this statement.
          have kept := (visitClassBody_follows source bodyDepth).walkPending_remembers complete
          obtain ⟨pays, _⟩ :=
            addStatement_reached source statement depth budget.charge collected
          have others := inductionHypothesis complete
          rw [pays.limits, pays.room] at others
          rw [Budget.room_of_isLeft spent, encountered, List.flatMap_cons, ← others,
            ← addStatement_all kept]
          rfl

/-! ## Classes -/

/-- The statements in the body of a class at a depth that are within limits. -/
def classStatements (limits : Limits) (node : Node) (depth : Nat) : List Node :=
  ((node.child? "body").map (limits.childrenOf · (depth + 1))).getD []

/-- The bindings of all statements in the body of a class. -/
def classBindingsOf (source : Source) (node : Node) : List Binding :=
  (((node.child? "body").map Node.children).getD []).flatMap (bindingsOf source)

/-- The bindings in the body of a class at a depth that are come by with a budget. The body takes
one visit itself. -/
def encounteredIn (source : Source) (node : Node) (depth : Nat) (budget : Budget) : List Binding :=
  encountered source budget.limits (depth + 2) (budget.room - 1)
    (classStatements budget.limits node depth)

theorem classBody_of_isLeft
    {body : Node}
    (isLeft : budget.isExhausted = false) :
    classBody source body depth budget =
      walkPending (visitClassBody source depth)
        ((budget.limits.childrenOf body depth).map (·, depth + 1))
        (budget.charge.note (budget.limits.cuts body depth)) {} := by
  rw [classBody, walk, walkPending_of_into isLeft (visitClassBody_body source body depth _ _),
    Budget.childrenOf_eq, List.append_nil]
  rfl

/-- What is collected in a class are the first ones of the bindings that are come by in its body. -/
theorem attributes_collectedOf
    (node : Node)
    (depth : Nat)
    (budget : Budget) :
    (collectedOf source node depth budget).2.attributes =
      (firstBindings (encounteredIn source node depth budget)).map (·.toAttribute source) := by
  rw [← foldl_addAttribute_nil, collectedOf, encounteredIn, classStatements]
  cases node.child? "body" with
  | none =>
      rw [Option.map_none, Option.getD_none, encountered]
      rfl
  | some body =>
      dsimp only
      rw [Option.map_some, Option.getD_some, ← budget.pays_charge.room]
      cases spent : budget.isExhausted with
      | true =>
          have noRoom := Budget.isExhausted_iff.mp spent
          rw [classBody, walk, walkPending_of_isExhausted spent, budget.pays_charge.room, noRoom,
            encountered_zero]
          rfl
      | false =>
          rw [classBody_of_isLeft spent, walkPending_statements (Nat.succ_ne_self _)]
          rfl

/-- A class has the attributes that are collected from its body, and leaves the budget that the walk
through that leaves. -/
theorem attributes_class?
    {decorators : List String}
    {cls : Facts.Class}
    (isClass : class? source node decorators depth budget = (after, some cls)) :
    (collectedOf source node depth budget).1 = after ∧
      cls.attributes =
        (firstBindings (encounteredIn source node depth budget)).map (·.toAttribute source) := by
  cases named : node.child? "name" with
  | none =>
      rw [class?_of_unnamed named] at isClass
      cases isClass
  | some name =>
      rw [class?_of_name named] at isClass
      cases isClass
      exact ⟨rfl, attributes_collectedOf node depth budget⟩

/-- If the walk through the body of a class leaves nothing out, all its bindings are come by. -/
theorem encounteredIn_all
    (complete : (collectedOf source node depth budget).1.truncated = false) :
    encounteredIn source node depth budget = classBindingsOf source node := by
  rw [collectedOf] at complete
  rw [encounteredIn, classBindingsOf, classStatements]
  cases isBody : node.child? "body" with
  | none =>
      rw [Option.map_none, Option.getD_none, encountered]
      rfl
  | some body =>
      rw [isBody] at complete
      dsimp only at complete
      rw [Option.map_some, Option.getD_some, ← budget.pays_charge.room]
      cases spent : budget.isExhausted with
      | true =>
          rw [classBody, walk, walkPending_of_isExhausted spent] at complete
          exact absurd complete Bool.noConfusion
      | false =>
          rw [classBody_of_isLeft spent] at complete
          have kept := (visitClassBody_follows source _).walkPending_remembers complete
          have isWhole := (Bool.or_eq_false_iff.mp kept).2
          have all := encountered_all (Nat.succ_ne_self _) complete
          rw [Limits.childrenOf_of_not_cuts isWhole] at all ⊢
          exact all

theorem encounteredIn_sublist
    (node : Node)
    (depth : Nat)
    (budget : Budget) :
    encounteredIn source node depth budget <+ classBindingsOf source node := by
  rw [encounteredIn, classBindingsOf, classStatements]
  refine (encountered_sublist _ _ _ _).trans ?_
  cases node.child? "body" with
  | none =>
      exact List.Sublist.refl _
  | some body =>
      rw [Option.map_some, Option.getD_some, Limits.childrenOf]
      split
      · exact (List.take_sublist _ _).flatMap _
      · exact List.nil_sublist _

/-- The attributes of a class are the first bindings of their names. -/
structure BindsFirst
    (source : Source)
    (node : Node)
    (depth : Nat)
    (budget after : Budget)
    (cls : Facts.Class) :
    Prop where
  /-- No two attributes have the same name. -/
  distinct : (cls.attributes.map (·.name)).Nodup
  /-- The attributes are the bindings that are come by, in order, without those of names that are
  bound before. -/
  attributes_eq : cls.attributes =
    (firstBindings (encounteredIn source node depth budget)).map (·.toAttribute source)
  /-- An attribute has the level, the annotation and the default of the first binding of its
  name. -/
  first : ∀ found ∈ cls.attributes, ∃ binding,
    (encounteredIn source node depth budget).find? (·.name == found.name) = some binding ∧
      binding.toAttribute source = found
  /-- No name that is come by is lost. -/
  kept : ∀ binding ∈ encounteredIn source node depth budget,
    binding.name ∈ cls.attributes.map (·.name)
  /-- The bindings are come by in the order of the source. -/
  ordered : encounteredIn source node depth budget <+ classBindingsOf source node
  /-- If nothing is left out, all bindings are come by. -/
  complete : after.truncated = false →
    encounteredIn source node depth budget = classBindingsOf source node

/-- The attributes of every class are the first bindings of their names. -/
theorem class?_bindsFirst
    {source : Source}
    {node : Node}
    {decorators : List String}
    {depth : Nat}
    {budget after : Budget}
    {cls : Facts.Class}
    (isClass : class? source node decorators depth budget = (after, some cls)) :
    BindsFirst source node depth budget after cls := by
  obtain ⟨rfl, attributes_eq⟩ := attributes_class? isClass
  have names : cls.attributes.map (·.name) =
      (firstBindings (encounteredIn source node depth budget)).map (·.name) := by
    rw [attributes_eq, List.map_map]
    rfl
  refine ⟨?_, attributes_eq, ?_, ?_, encounteredIn_sublist node depth budget, encounteredIn_all⟩
  · rw [names]
    exact nodup_firstBindings _
  · intro found member
    rw [attributes_eq, List.mem_map] at member
    obtain ⟨binding, isFirst, rfl⟩ := member
    exact ⟨binding, (mem_firstBindings_iff _).mp isFirst, rfl⟩
  · intro binding member
    rw [names]
    exact name_mem_firstBindings member

/-- A class with an attribute and two initializers, each of which binds one. -/
def initializedTwiceText : String :=
  "class A:\n  x = 1\n  def __init__(self): self.x = 2\n  def __init__(self): self.y = 3\n"

/-- Its tree. -/
def initializedTwice : Node :=
  let word (field : String) (first last : Nat) : Node :=
    .mk { kind := "identifier", field? := some field,
          start := { chars := first }, stop := { chars := last } } []
  let assignment (target : Node) (value : Nat) : Node :=
    .mk { kind := "expression_statement" }
      [.mk { kind := "assignment" } [target, word "right" value (value + 1)]]
  let initializer (first : Nat) : Node :=
    .mk { kind := "function_definition" }
      [word "name" (first + 4) (first + 12),
       .mk { kind := "block", field? := some "body" }
        [assignment
          (.mk { kind := "attribute", field? := some "left" }
            [word "object" (first + 20) (first + 24), word "attribute" (first + 25) (first + 26)])
          (first + 29)]]
  .mk { kind := "class_definition" }
    [word "name" 6 7,
     .mk { kind := "block", field? := some "body" }
      [assignment (word "left" 11 12) 15, initializer 19, initializer 52]]

/-- What the initializers bind comes after what the class binds, unless its name is bound, and what
the second one binds is not come by if the budget is spent before. -/
theorem bindsFirst_initializedTwice :
    (∃ after cls,
      class? (Source.ofString initializedTwiceText) initializedTwice [] 0 {} =
          (after, some cls) ∧
        BindsFirst (Source.ofString initializedTwiceText) initializedTwice 0 {} after cls ∧
        cls.attributes.map (fun found => (found.name, found.defaultText)) =
          [("x", some "1"), ("y", some "3")]) ∧
      ∃ after cls,
        class? (Source.ofString initializedTwiceText) initializedTwice [] 0
            { limits := { maxNodes := 26 } } = (after, some cls) ∧
          BindsFirst (Source.ofString initializedTwiceText) initializedTwice 0
            { limits := { maxNodes := 26 } } after cls ∧
          cls.attributes.map (fun found => (found.name, found.defaultText)) =
            [("x", some "1")] := by
  have whole : (class? (Source.ofString initializedTwiceText) initializedTwice [] 0 {}).2.map
      (fun cls => cls.attributes.map fun found => (found.name, found.defaultText)) =
        some [("x", some "1"), ("y", some "3")] := by
    decide +kernel
  have cut : (class? (Source.ofString initializedTwiceText) initializedTwice [] 0
      { limits := { maxNodes := 26 } }).2.map
        (fun cls => cls.attributes.map fun found => (found.name, found.defaultText)) =
          some [("x", some "1")] := by
    decide +kernel
  obtain ⟨first, isFirst, inFirst⟩ := Option.map_eq_some_iff.mp whole
  obtain ⟨second, isSecond, inSecond⟩ := Option.map_eq_some_iff.mp cut
  exact ⟨⟨_, first, Prod.ext rfl isFirst, class?_bindsFirst (Prod.ext rfl isFirst), inFirst⟩,
    _, second, Prod.ext rfl isSecond, class?_bindsFirst (Prod.ext rfl isSecond), inSecond⟩

end SourceFacts.Extraction
