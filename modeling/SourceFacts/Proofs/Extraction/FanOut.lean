import SourceFacts.Proofs.Extraction.Depths

namespace SourceFacts.Extraction

/-!
# Fan-out of facts

A walk looks at no more children of a node than its budget allows, so that a class has few methods
and a file few definitions. What a single node lists is read without a walk: the parameters and
the decorators of a function, the bases of a class, the names that a statement imports or binds
are all that its children give, whatever the budget.
-/

open Syntax Facts

variable {source : Source} {root node : Node}

/-! ## Lists of one node -/

/-- What the child in a field lists, if there is one. -/
def listedIn (node : Node) (field : String) (list : Node → List α) : List α :=
  ((node.child? field).map list).getD []

/-- The number of children of the child in a field. -/
def fanOut (node : Node) (field : String) : Nat :=
  ((node.child? field).map (·.children.length)).getD 0

theorem length_listedIn_le
    {list : Node → List α}
    (few : ∀ node, (list node).length ≤ node.children.length)
    (node : Node)
    (field : String) :
    (listedIn node field list).length ≤ fanOut node field := by
  rw [listedIn, fanOut]
  cases node.child? field with
  | none =>
      exact Nat.le_refl 0
  | some child =>
      exact few child

theorem length_parameters_le
    (source : Source)
    (node : Node) :
    (parameters source node).length ≤ node.children.length :=
  Nat.le_trans (List.length_filterMap_le _ _) (List.length_filter_le _ _)

theorem length_bases_le
    (source : Source)
    (node : Node) :
    (bases source node).length ≤ node.children.length :=
  Nat.le_trans (List.length_filterMap_le _ _) (List.length_filter_le _ _)

/-- A definition is no more often decorated than its node has children. -/
theorem length_decorators_le
    (source : Source)
    (node : Node) :
    (source.undecorated node).2.length ≤ node.children.length := by
  rw [Source.undecorated]
  split
  · split
    · rw [Source.decorators, List.length_map]
      exact Nat.le_trans (List.length_filter_le _ _) (List.length_filter_le _ _)
    · exact Nat.zero_le _
  · exact Nat.zero_le _

/-- The target of an assignment binds one name, or no more than it has children. -/
theorem length_targetNames_le
    (source : Source)
    (target : Node) :
    (targetNames source target).length ≤ max 1 target.children.length := by
  rw [targetNames]
  split
  · exact Nat.le_max_left _ _
  · split
    · rw [List.length_map]
      exact Nat.le_trans
        (Nat.le_trans (List.length_filter_le _ _) (List.length_filter_le _ _))
        (Nat.le_max_right _ _)
    · exact Nat.zero_le _

/-! ## Import statements -/

theorem length_importedNames_le
    (source : Source)
    (node : Node) :
    (importedNames source node).length ≤ node.children.length :=
  Nat.le_trans (List.length_filterMap_le _ _) (List.length_filter_le _ _)

/-- A star is none of the names that are imported. -/
theorem length_importedNames_lt
    (hasStar : node.namedChildren.any (·.kind == "wildcard_import") = true) :
    (importedNames source node).length < node.children.length := by
  obtain ⟨star, isNamed, isStar⟩ := List.any_eq_true.mp hasStar
  have isChild : star ∈ node.children := (List.mem_filter.mp isNamed).1
  have noName : importedName? source star = none := by
    simp [importedName?, beq_iff_eq.mp isStar]
  rw [importedNames, List.length_filterMap_eq_countP, Node.childrenIn, List.countP_filter]
  refine Nat.lt_of_le_of_ne List.countP_le_length fun all => ?_
  have isName := List.countP_eq_length.mp all star isChild
  simp [noName] at isName

/-- The fact about names of a module has no more of them than its statement has children. -/
theorem length_items_importFrom?
    {entry : Import}
    (isEntry : importFrom? source node = some entry) :
    entry.items.length ≤ node.children.length := by
  simp only [importFrom?, Option.bind_eq_bind, Option.bind_eq_some_iff] at isEntry
  obtain ⟨_, _, made⟩ := isEntry
  obtain rfl := Option.some.inj made
  dsimp only
  rw [List.length_append]
  split
  · rename_i hasStar
    exact length_importedNames_lt hasStar
  · exact length_importedNames_le source node

/-- A statement gives one fact about imports, or no more than it has children. -/
theorem length_imports_le
    (source : Source)
    (node : Node) :
    (imports source node).length ≤ max 1 node.children.length := by
  rw [imports]
  split
  · rw [List.length_map]
    exact Nat.le_trans (length_importedNames_le source node) (Nat.le_max_right _ _)
  · cases importFrom? source node with
    | none =>
        exact Nat.zero_le _
    | some entry =>
        exact Nat.le_max_left _ _
  · exact Nat.le_max_left _ _
  · exact Nat.zero_le _

/-- A fact about imports is about one name, or no more than its statement has children. -/
theorem length_items_le
    {entry : Import}
    (member : entry ∈ imports source node) :
    entry.items.length ≤ max 1 node.children.length := by
  rw [imports] at member
  split at member
  · obtain ⟨item, _, rfl⟩ := List.mem_map.mp member
    exact Nat.le_max_left _ _
  · exact Nat.le_trans (length_items_importFrom? (Option.mem_toList.mp member))
      (Nat.le_max_right _ _)
  · rw [List.mem_singleton.mp member]
    exact Nat.le_trans (length_importedNames_le source node) (Nat.le_max_right _ _)
  · cases member

/-! ## Functions -/

/-- A function with all parameters that its definition lists, and with all decorators of the node
that defines it. -/
structure IsWholeFunction (source : Source) (node : Node) (function : Function) : Prop where
  parameters : function.parameters =
    listedIn (source.undecorated node).1 "parameters" (Extraction.parameters source)
  decorators : function.decorators = (source.undecorated node).2
  fewParameters : function.parameters.length ≤ fanOut (source.undecorated node).1 "parameters"
  fewDecorators : function.decorators.length ≤ node.children.length

theorem isWholeFunction_functionOf
    (source : Source)
    (node : Node)
    (name : String)
    (complexity : UInt32)
    (yields : Bool) :
    IsWholeFunction source node
      (functionOf source (source.undecorated node).1 (source.undecorated node).2 name complexity
        yields) where
  parameters := rfl
  decorators := rfl
  fewParameters := length_listedIn_le (length_parameters_le source) _ _
  fewDecorators := length_decorators_le source node

/-! ## Bodies of classes -/

/-- The attributes that one node of a tree binds. -/
def AreBoundTogether (source : Source) (root : Node) (attributes : List Attribute) : Prop :=
  ∃ node, root.Has node ∧
    (attributes = assignedAttributes source node ∨
      attributes = (instanceAttribute? source node).toList)

/-- What is collected from the body of a class: whole functions, and all attributes that nodes of
the tree bind, of which the first of a name counts. -/
structure IsWholeBody (source : Source) (root : Node) (collected : ClassBody) : Prop where
  methods : ∀ method ∈ collected.methods,
    ∃ node, root.Has node ∧ IsWholeFunction source node method
  attributes : ∃ bound : List (List Attribute),
    (∀ attributes ∈ bound, AreBoundTogether source root attributes) ∧
      collected.attributes = bound.flatten.foldl addAttribute []

/-- A walk through an initializer finds all attributes that the nodes that it visits bind. -/
theorem exists_bound_of_initializedBy
    (source : Source)
    {definition : Node}
    (has : root.Has definition)
    (name : String)
    (depth : Nat)
    (budget : Budget) :
    ∃ bound : List (List Attribute),
      (∀ attributes ∈ bound, AreBoundTogether source root attributes) ∧
        (initializedBy source definition name depth budget).2 = bound.flatten := by
  rw [initializedBy]
  split
  · rename_i body isBody
    have hasBody : root.Has body := by
      split at isBody
      · exact has.child? isBody
      · cases isBody
    refine walkPending_induction root (fun _ found => ∃ bound : List (List Attribute),
      (∀ attributes ∈ bound, AreBoundTogether source root attributes) ∧ found = bound.flatten)
      (fun _ holds => holds) ?_ ?_ ⟨[], by simp, rfl⟩
    · rintro node depth budget _ hasNode _ ⟨bound, together, rfl⟩
      dsimp only [Visitor.ofStep]
      rw [visitInitializer]
      split
      · exact ⟨bound, together, rfl⟩
      · split
        · refine ⟨bound ++ [(instanceAttribute? source node).toList], ?_, by simp⟩
          intro attributes member
          rcases List.mem_append.mp member with known | isNew
          · exact together attributes known
          · exact ⟨node, hasNode, .inr (List.mem_singleton.mp isNew)⟩
        · exact ⟨bound, together, rfl⟩
    · intro entry member
      rw [List.mem_singleton.mp member]
      exact hasBody
  · exact ⟨[], by simp, rfl⟩

namespace IsWholeBody

variable {collected : ClassBody}

theorem nothing : IsWholeBody source root {} where
  methods := by simp
  attributes := ⟨[], by simp, rfl⟩

/-- Attributes that are bound together are added to what is collected. -/
theorem addAttributes
    (whole : IsWholeBody source root collected)
    (bound : List (List Attribute))
    (together : ∀ attributes ∈ bound, AreBoundTogether source root attributes) :
    IsWholeBody source root
      { collected with attributes := bound.flatten.foldl addAttribute collected.attributes } where
  methods := whole.methods
  attributes := by
    obtain ⟨known, knownTogether, isKnown⟩ := whole.attributes
    refine ⟨known ++ bound, ?_, ?_⟩
    · intro attributes member
      exact (List.mem_append.mp member).elim (knownTogether attributes) (together attributes)
    · rw [isKnown, List.flatten_append, List.foldl_append]

theorem addMethod
    (whole : IsWholeBody source root collected)
    (has : root.Has node)
    (depth : Nat)
    (budget : Budget) :
    IsWholeBody source root
      (addMethod source (source.undecorated node).1 (source.undecorated node).2 depth budget
        collected).2 := by
  cases named : source.fieldText? (source.undecorated node).1 "name" with
  | none =>
      rw [addMethod_of_none (function?_of_unnamed named _ depth budget)]
      exact whole
  | some name =>
      rw [addMethod_of_some (function?_of_name named _ depth budget)]
      obtain ⟨bound, together, isBound⟩ := exists_bound_of_initializedBy source
        (has_undecorated source has) name depth
        (signalsOf (source.undecorated node).1 depth budget).1
      have added := whole.addAttributes bound together
      dsimp only [functionOf]
      rw [isBound]
      refine ⟨?_, added.attributes⟩
      intro method member
      rcases List.mem_append.mp member with known | isNew
      · exact whole.methods method known
      · rw [List.mem_singleton.mp isNew]
        exact ⟨node, has, isWholeFunction_functionOf source node name _ _⟩

theorem addStatement
    (whole : IsWholeBody source root collected)
    (has : root.Has node)
    (depth : Nat)
    (budget : Budget) :
    IsWholeBody source root (addStatement source node depth budget collected).2 := by
  rw [Extraction.addStatement]
  split
  · exact whole.addMethod has depth budget
  · have added := whole.addAttributes [assignedAttributes source node]
      (fun attributes member => ⟨node, has, .inl (List.mem_singleton.mp member)⟩)
    rwa [List.flatten_singleton] at added

end IsWholeBody

/-- The body of a class gives whole functions and all attributes that it binds. -/
theorem isWholeBody_collectedOf
    {definition : Node}
    (has : root.Has definition)
    (depth : Nat)
    (budget : Budget) :
    IsWholeBody source root (collectedOf source definition depth budget).2 := by
  rw [collectedOf]
  split
  · rename_i body isBody
    refine walkPending_induction root (fun _ collected => IsWholeBody source root collected)
      (fun _ whole => whole) ?_ ?_ IsWholeBody.nothing
    · intro node level budget collected hasNode _ whole
      by_cases isStart : level = depth + 1
      · rw [isStart, visitClassBody_body]
        exact whole
      · rw [visitClassBody_of_ne source node isStart]
        exact whole.addStatement hasNode level _
    · intro entry member
      rw [List.mem_singleton.mp member]
      exact has.child? isBody
  · exact IsWholeBody.nothing

/-- A statement adds one method at most. -/
theorem length_methods_addStatement
    (source : Source)
    (node : Node)
    (depth : Nat)
    (budget : Budget)
    (collected : ClassBody) :
    (addStatement source node depth budget collected).2.methods.length ≤
      collected.methods.length + 1 := by
  rw [addStatement]
  split
  · cases named : source.fieldText? (source.undecorated node).1 "name" with
    | none =>
        rw [addMethod_of_none (function?_of_unnamed named _ depth budget)]
        exact Nat.le_succ _
    | some name =>
        rw [addMethod_of_some (function?_of_name named _ depth budget), List.length_append]
        exact Nat.le_refl _
  · exact Nat.le_succ _

/-- Of the statements that wait each adds one method at most. -/
theorem length_methods_walkPending
    (source : Source)
    {bodyDepth : Nat}
    {pending : List (Node × Nat)}
    (below : ∀ entry ∈ pending, entry.2 ≠ bodyDepth)
    (budget : Budget)
    (collected : ClassBody) :
    (walkPending (visitClassBody source bodyDepth) pending budget collected).2.methods.length ≤
      collected.methods.length + pending.length := by
  induction pending generalizing budget collected with
  | nil =>
      rw [walkPending_nil]
      exact Nat.le_refl _
  | cons entry waiting inductionHypothesis =>
      obtain ⟨statement, depth⟩ := entry
      rw [List.forall_mem_cons] at below
      cases spent : budget.isExhausted with
      | true =>
          rw [walkPending_of_isExhausted spent]
          exact Nat.le_add_right _ _
      | false =>
          have one := length_methods_addStatement source statement depth budget.charge collected
          rcases added : addStatement source statement depth budget.charge collected with
            ⟨after, next⟩
          have visited : visitClassBody source bodyDepth statement depth budget.charge collected =
              (.skip, after, next) := by
            rw [visitClassBody_of_ne source statement below.1, added]
          have others := inductionHypothesis below.2 after next
          rw [added] at one
          rw [walkPending_of_skip spent visited, List.length_cons]
          dsimp only at one
          omega

/-- A class has no more methods than a node may have children. -/
theorem length_methods_collectedOf
    (source : Source)
    (definition : Node)
    (depth : Nat)
    (budget : Budget) :
    (collectedOf source definition depth budget).2.methods.length ≤ budget.limits.maxChildren := by
  rw [collectedOf]
  split
  · rename_i body isBody
    dsimp only [classBody, walk]
    cases spent : budget.isExhausted with
    | true =>
        rw [walkPending_of_isExhausted spent]
        exact Nat.zero_le _
    | false =>
        have entered := visitClassBody_body source body (depth + 1) budget.charge {}
        rw [walkPending_of_into spent entered, List.append_nil, Budget.childrenOf_eq]
        refine Nat.le_trans (length_methods_walkPending source ?_ _ _) ?_
        · intro entry member
          obtain ⟨statement, _, rfl⟩ := List.mem_map.mp member
          exact Nat.succ_ne_self _
        · rw [List.length_map, Limits.childrenOf]
          split
          · rw [List.length_take]
            exact Nat.le_trans (Nat.le_of_eq (Nat.zero_add _)) (Nat.min_le_left _ _)
          · exact Nat.zero_le _
  · exact Nat.zero_le _

/-- Every method of a class is visited. -/
theorem visited_collectedOf
    (source : Source)
    (definition : Node)
    (depth : Nat)
    (budget : Budget) :
    budget.visited + (collectedOf source definition depth budget).2.methods.length ≤
      (collectedOf source definition depth budget).1.visited := by
  rw [collectedOf]
  split
  · rename_i body isBody
    refine walkPending_induction body
      (fun after (collected : ClassBody) =>
        budget.visited + collected.methods.length ≤ after.visited)
      (fun _ counted => counted) ?_ ?_ (Nat.le_refl _)
    · intro node level before collected _ _ counted
      have charged : before.charge.visited = before.visited + 1 := rfl
      by_cases isStart : level = depth + 1
      · rw [isStart, visitClassBody_body]
        exact Nat.le_succ_of_le counted
      · have spends := (keepsLimits_visitClassBody source (depth + 1) node level before.charge
          collected).visited
        have one := length_methods_addStatement source node level before.charge collected
        rw [visitClassBody_of_ne source node isStart] at spends ⊢
        dsimp only at spends one ⊢
        omega
    · intro entry member
      rw [List.mem_singleton.mp member]
      exact body.has_self
  · exact Nat.le_refl _

/-! ## Classes -/

/-- A class with all bases that its definition lists and all decorators of the node that defines
it; only its methods are no more than a node may have children. -/
structure IsWholeClass (source : Source) (root : Node) (limits : Limits) (node : Node)
    (cls : Facts.Class) : Prop where
  bases : cls.bases = listedIn (source.undecorated node).1 "superclasses" (Extraction.bases source)
  decorators : cls.decorators = (source.undecorated node).2
  body : IsWholeBody source root { methods := cls.methods, attributes := cls.attributes }
  fewBases : cls.bases.length ≤ fanOut (source.undecorated node).1 "superclasses"
  fewDecorators : cls.decorators.length ≤ node.children.length
  fewMethods : cls.methods.length ≤ limits.maxChildren

theorem isWholeClass_classOf
    (source : Source)
    (has : root.Has node)
    (name : Node)
    (depth : Nat)
    (budget : Budget) :
    IsWholeClass source root budget.limits node
      (classOf source (source.undecorated node).1 (source.undecorated node).2 name
        (collectedOf source (source.undecorated node).1 depth budget).2) where
  bases := rfl
  decorators := rfl
  body := isWholeBody_collectedOf (has_undecorated source has) depth budget
  fewBases := length_listedIn_le (length_bases_le source) _ _
  fewDecorators := length_decorators_le source node
  fewMethods := length_methods_collectedOf source _ depth budget

/-! ## Definitions -/

/-- The functions, classes and methods that are found. -/
def Definitions.count (found : Definitions) : Nat :=
  found.functions.length + found.classes.length + total (·.methods.length) found.classes

/-- What is defined: functions and classes that nodes of the tree define, as a whole, and all names
that visited statements bind. Every definition takes a visit. -/
structure Definitions.AreWhole (source : Source) (root : Node) (before after : Budget)
    (found : Definitions) : Prop where
  functions : ∀ function ∈ found.functions,
    ∃ node, root.Has node ∧ IsWholeFunction source node function
  classes : ∀ cls ∈ found.classes,
    ∃ node, root.Has node ∧ IsWholeClass source root before.limits node cls
  globals : ∃ statements : List Node, (∀ statement ∈ statements, root.Has statement) ∧
    before.visited + statements.length ≤ after.visited ∧
    found.globals = (statements.flatMap (assignedNames source)).foldl
      (fun known name => insertName name known) []
  counted : before.visited + found.count ≤ after.visited
  leads : before.LeadsTo after

namespace Definitions.AreWhole

variable {before after : Budget} {found : Definitions}

theorem nothing (budget : Budget) : AreWhole source root budget budget {} where
  functions := by simp
  classes := by simp
  globals := ⟨[], by simp, Nat.le_refl _, rfl⟩
  counted := Nat.le_refl _
  leads := .refl budget

/-- More visits change nothing about what is found. -/
theorem later
    (whole : found.AreWhole source root before after)
    {last : Budget}
    (leads : after.LeadsTo last) :
    found.AreWhole source root before last where
  functions := whole.functions
  classes := whole.classes
  globals := by
    obtain ⟨statements, inside, few, isGlobals⟩ := whole.globals
    exact ⟨statements, inside, Nat.le_trans few leads.visited, isGlobals⟩
  counted := Nat.le_trans whole.counted leads.visited
  leads := whole.leads.trans leads

theorem addFunction
    (whole : found.AreWhole source root before after)
    (isLeft : after.isExhausted = false)
    (has : root.Has node)
    {depth : Nat}
    {run : Budget × Option Function}
    (isRun : function? source (source.undecorated node).1 (source.undecorated node).2 depth
      after.charge = run) :
    ({ found with functions := found.functions ++ run.2.toList } : Definitions).AreWhole source
      root before run.1 := by
  have visit : after.LeadsTo after.charge := .charge isLeft
  have spends : after.charge.LeadsTo run.1 := isRun ▸ leadsTo_function? _ _ _ _
  subst isRun
  cases named : source.fieldText? (source.undecorated node).1 "name" with
  | none =>
      rw [function?_of_unnamed named, Option.toList_none, List.append_nil]
      exact whole.later visit
  | some name =>
      rw [function?_of_name named] at spends ⊢
      have later := whole.later (visit.trans spends)
      refine ⟨?_, later.classes, later.globals, ?_, later.leads⟩
      · intro function member
        rcases List.mem_append.mp member with known | isNew
        · exact whole.functions function known
        · rw [Option.toList_some, List.mem_singleton] at isNew
          rw [isNew]
          exact ⟨node, has, isWholeFunction_functionOf source node name _ _⟩
      · have counted := whole.counted
        have charged : after.charge.visited = after.visited + 1 := rfl
        have spent := spends.visited
        rw [count] at counted ⊢
        dsimp only at spent ⊢
        rw [Option.toList_some, List.length_append, List.length_singleton]
        omega

theorem addClass
    (whole : found.AreWhole source root before after)
    (isLeft : after.isExhausted = false)
    (has : root.Has node)
    {depth : Nat}
    {run : Budget × Option Facts.Class}
    (isRun : class? source (source.undecorated node).1 (source.undecorated node).2 depth
      after.charge = run) :
    ({ found with classes := found.classes ++ run.2.toList } : Definitions).AreWhole source
      root before run.1 := by
  have visit : after.LeadsTo after.charge := .charge isLeft
  have spends : after.charge.LeadsTo run.1 := isRun ▸ leadsTo_class? _ _ _ _
  subst isRun
  cases named : (source.undecorated node).1.child? "name" with
  | none =>
      rw [class?_of_unnamed named, Option.toList_none, List.append_nil]
      exact whole.later visit
  | some name =>
      rw [class?_of_name named] at spends ⊢
      have later := whole.later (visit.trans spends)
      refine ⟨later.functions, ?_, later.globals, ?_, later.leads⟩
      · intro cls member
        rcases List.mem_append.mp member with known | isNew
        · exact whole.classes cls known
        · rw [Option.toList_some, List.mem_singleton] at isNew
          rw [isNew]
          have isWhole := isWholeClass_classOf source has name depth after.charge
          rw [visit.limits, whole.leads.limits] at isWhole
          exact ⟨node, has, isWhole⟩
      · have counted := whole.counted
        have charged : after.charge.visited = after.visited + 1 := rfl
        have spent := visited_collectedOf source (source.undecorated node).1 depth after.charge
        rw [count] at counted ⊢
        rw [Option.toList_some, List.length_append, List.length_singleton, total_append,
          total_cons, total_nil]
        dsimp only [classOf]
        omega

theorem addNames
    (whole : found.AreWhole source root before after)
    (isLeft : after.isExhausted = false)
    (has : root.Has node) :
    ({ found with
        globals :=
          (assignedNames source node).foldl (fun known name => insertName name known)
            found.globals } : Definitions).AreWhole source root before after.charge := by
  have later := whole.later (.charge isLeft)
  refine ⟨later.functions, later.classes, ?_, later.counted, later.leads⟩
  obtain ⟨statements, inside, few, isGlobals⟩ := whole.globals
  refine ⟨statements ++ [node], ?_, ?_, ?_⟩
  · intro statement member
    rcases List.mem_append.mp member with known | isNew
    · exact inside statement known
    · rw [List.mem_singleton.mp isNew]
      exact has
  · rw [List.length_append, List.length_singleton]
    exact Nat.succ_le_succ few
  · rw [isGlobals, List.flatMap_append, List.foldl_append, List.flatMap_singleton]

/-- A node at the level of the module adds what it defines as a whole. -/
theorem addModuleLevel
    (whole : found.AreWhole source root before after)
    (isLeft : after.isExhausted = false)
    (has : root.Has node)
    (depth : Nat) :
    (addModuleLevel source node depth after.charge found).2.AreWhole source root before
      (addModuleLevel source node depth after.charge found).1 := by
  rw [Extraction.addModuleLevel]
  dsimp only
  split
  · exact whole.addFunction isLeft has rfl
  · split
    · exact whole.addClass isLeft has rfl
    · exact whole.addNames isLeft has

end Definitions.AreWhole

/-- What a walk finds at the level of the module is whole. -/
theorem areWhole_definitions
    (source : Source)
    (root : Node)
    (budget : Budget) :
    (walk (visitModuleLevel source) root 0 budget {}).2.AreWhole source root budget
      (walk (visitModuleLevel source) root 0 budget {}).1 := by
  refine walkPending_induction root
    (fun after (found : Definitions) => found.AreWhole source root budget after)
    (fun isCut whole => whole.later ((Budget.LeadsTo.refl _).note isCut)) ?_ ?_ (.nothing budget)
  · intro node depth after found has isLeft whole
    rw [visitModuleLevel_eq]
    exact whole.addModuleLevel isLeft has depth
  · intro entry member
    rw [List.mem_singleton.mp member]
    exact root.has_self

/-! ## Names and imports -/

theorem mem_insertName
    {name added : String}
    {known : List String}
    (member : name ∈ insertName added known) :
    name = added ∨ name ∈ known := by
  induction known with
  | nil =>
      exact .inl (List.mem_singleton.mp member)
  | cons other rest inductionHypothesis =>
      rw [insertName] at member
      split at member
      · exact .inr member
      · split at member
        · exact List.mem_cons.mp member
        · rcases List.mem_cons.mp member with rfl | later
          · exact .inr List.mem_cons_self
          · exact (inductionHypothesis later).imp_right (List.mem_cons_of_mem other)

theorem mem_foldl_insertName
    {name : String}
    {names known : List String}
    (member : name ∈ names.foldl (fun known name => insertName name known) known) :
    name ∈ known ∨ name ∈ names := by
  induction names generalizing known with
  | nil =>
      exact .inl member
  | cons first rest inductionHypothesis =>
      rcases inductionHypothesis member with early | late
      · rcases mem_insertName early with rfl | before
        · exact .inr List.mem_cons_self
        · exact .inl before
      · exact .inr (List.mem_cons_of_mem first late)

/-- A name that a chain of assignments binds is one of those of a target. -/
theorem exists_target_of_mem_chainNames
    {assignment : Node}
    {name : String}
    (has : root.Has assignment)
    (member : name ∈ chainNames source assignment) :
    ∃ target, root.Has target ∧ name ∈ targetNames source target := by
  rw [chainNames] at member
  rcases List.mem_append.mp member with onLeft | onRight
  · cases isTarget : assignment.child? "left" with
    | none =>
        rw [isTarget] at onLeft
        cases onLeft
    | some target =>
        rw [isTarget] at onLeft
        exact ⟨target, has.child? isTarget, onLeft⟩
  · split at onRight
    · rename_i value isValue
      split at onRight
      · exact exists_target_of_mem_chainNames (has.child? isValue) onRight
      · cases onRight
    · cases onRight
termination_by assignment.count
decreasing_by
  rename_i isValue _
  exact Node.count_lt_of_child? isValue

/-- A name that a statement binds is one of those of a target. -/
theorem exists_target_of_mem_assignedNames
    {statement : Node}
    {name : String}
    (has : root.Has statement)
    (member : name ∈ assignedNames source statement) :
    ∃ target, root.Has target ∧ name ∈ targetNames source target := by
  rw [assignedNames] at member
  split at member
  · cases isAssignment : assignment? statement with
    | none =>
        rw [isAssignment] at member
        cases member
    | some assignment =>
        rw [isAssignment] at member
        rw [assignment?, Option.filter_eq_some_iff, Node.firstNamed?] at isAssignment
        exact exists_target_of_mem_chainNames
          (has.child (List.mem_of_find?_eq_some isAssignment.1)) member
  · cases member

/-- A walk through a file finds all imports of the statements that it visits. -/
theorem exists_statements_of_imports
    (source : Source)
    (root : Node)
    (budget : Budget) :
    let run := walk (Visitor.ofStep (visitAnywhere source)) root 0 budget {}
    ∃ statements : List Node, (∀ statement ∈ statements, root.Has statement) ∧
      budget.visited + statements.length ≤ run.1.visited ∧
        run.2.imports = statements.flatMap (imports source) := by
  refine walkPending_induction root (fun after (found : Occurrences) =>
    ∃ statements : List Node, (∀ statement ∈ statements, root.Has statement) ∧
      budget.visited + statements.length ≤ after.visited ∧
        found.imports = statements.flatMap (imports source))
    (fun _ holds => holds) ?_ ?_ ⟨[], by simp, Nat.le_refl _, rfl⟩
  · rintro node depth after found has _ ⟨statements, inside, few, isImports⟩
    dsimp only [Visitor.ofStep]
    rw [visitAnywhere]
    split
    · refine ⟨statements ++ [node], ?_, ?_, ?_⟩
      · intro statement member
        rcases List.mem_append.mp member with known | isNew
        · exact inside statement known
        · rw [List.mem_singleton.mp isNew]
          exact has
      · rw [List.length_append, List.length_singleton]
        exact Nat.succ_le_succ few
      · rw [List.flatMap_append, List.flatMap_singleton, ← isImports]
    · exact ⟨statements, inside, Nat.le_succ_of_le few, isImports⟩
  · intro entry member
    rw [List.mem_singleton.mp member]
    exact root.has_self

/-! ## Files -/

/-- What single nodes list stands in the structure of a file as a whole, and is no longer than they
have children; the budget bounds the definitions and statements that are visited, and the methods
of a class. -/
structure ListsWholeNodes (source : Source) (root : Node) (before after : Budget)
    (model : Model) : Prop where
  definitions : Definitions.AreWhole source root before after
    { functions := model.functions, classes := model.classes, globals := model.globals }
  imports : ∃ statements : List Node, (∀ statement ∈ statements, root.Has statement) ∧
    before.visited + statements.length ≤ after.visited ∧
      model.imports = statements.flatMap (Extraction.imports source)
  /-- A statement gives one fact about imports with one name, or else no more of either than it has
  children. -/
  fewImports : ∀ entry ∈ model.imports, ∃ statement, root.Has statement ∧
    entry ∈ Extraction.imports source statement ∧
      (Extraction.imports source statement).length ≤ max 1 statement.children.length ∧
        entry.items.length ≤ max 1 statement.children.length
  /-- A target binds one name, or else no more than it has children. -/
  fewNames : ∀ name ∈ model.globals, ∃ target, root.Has target ∧
    name ∈ targetNames source target ∧
      (targetNames source target).length ≤ max 1 target.children.length

/-- In the structure of a file, lists that single nodes give are whole whatever the budget. -/
theorem model_listsWholeNodes
    (path text : String)
    (root : Node)
    (budget : Budget) :
    ListsWholeNodes (Source.ofString text) root budget (model path text root budget).1
      (model path text root budget).2 := by
  rw [model_eq]
  dsimp only [modelOf]
  have whole := areWhole_definitions (Source.ofString text) root budget
  obtain ⟨statements, inside, few, isImports⟩ := exists_statements_of_imports
    (Source.ofString text) root
    (walk (visitModuleLevel (Source.ofString text)) root 0 budget {}).1
  refine ⟨whole.later ((Visitor.keepsLimits_ofStep _).walkPending _ _ _), ?_, ?_, ?_⟩
  · refine ⟨statements, inside, ?_, isImports⟩
    exact Nat.le_trans (Nat.add_le_add_right whole.leads.visited _) few
  · intro entry member
    rw [isImports] at member
    obtain ⟨statement, among, isEntry⟩ := List.mem_flatMap.mp member
    exact ⟨statement, inside statement among, isEntry, length_imports_le _ statement,
      length_items_le isEntry⟩
  · intro name member
    obtain ⟨assigning, stand, _, isGlobals⟩ := whole.globals
    rw [isGlobals] at member
    rcases mem_foldl_insertName member with none | bound
    · cases none
    · obtain ⟨statement, among, isName⟩ := List.mem_flatMap.mp bound
      obtain ⟨target, has, isBound⟩ := exists_target_of_mem_assignedNames (stand statement among)
        isName
      exact ⟨target, has, isBound, length_targetNames_le _ target⟩

/-! ## Lists of any length -/

/-- A walk through a tree with one node below its root visits both. -/
theorem walk_of_only_child
    {σ : Type}
    {visit : Visitor σ}
    {child : Node}
    {budget : Budget}
    {state : σ}
    (isOnly : root.children = [child])
    (deep : 1 ≤ budget.limits.maxDepth)
    (wide : 1 ≤ budget.limits.maxChildren)
    (room : budget.visited + 2 ≤ budget.limits.maxNodes)
    (enters : visit root 0 budget.charge state = (.into, budget.charge, state))
    (skips : ∀ budget, (visit child 1 budget state).1 = .skip) :
    walk visit root 0 budget state = (visit child 1 budget.charge.charge state).2 := by
  have isLeft : budget.isExhausted = false := by
    rw [Budget.isExhausted, decide_eq_false_iff_not]
    omega
  have isStillLeft : budget.charge.isExhausted = false := by
    rw [Budget.isExhausted, decide_eq_false_iff_not]
    dsimp only [Budget.charge]
    omega
  have children : budget.charge.childrenOf root 0 = ([child], budget.charge) := by
    have shallow : ¬ budget.charge.limits.maxDepth < 0 + 1 := Nat.not_lt.mpr deep
    have few : ¬ budget.charge.limits.maxChildren < [child].length := Nat.not_lt.mpr wide
    rw [Budget.childrenOf, isOnly]
    dsimp only
    rw [if_neg shallow, if_neg few]
  have skipped := skips budget.charge.charge
  rcases visited : visit child 1 budget.charge.charge state with ⟨answer, after, next⟩
  rw [visited] at skipped
  dsimp only at skipped
  subst skipped
  rw [walk, walkPending_of_into isLeft enters, children]
  exact (walkPending_of_skip isStillLeft visited).trans walkPending_nil

/-- A file with one node below its root. -/
def fileOf (child : Node) : Node := .mk { kind := "module" } [child]

/-- A name that takes the first character of a text. -/
def firstName (field? : Option String) : Node :=
  .mk { kind := "identifier", field?, stop := { chars := 1 } } []

/-- A function with a number of parameters. -/
def functionWith (number : Nat) : Node :=
  .mk { kind := "function_definition" }
    [firstName (some "name"),
     .mk { kind := "parameters", field? := some "parameters" }
       (List.replicate number (firstName none))]

/-- A class with a number of bases. -/
def classWith (number : Nat) : Node :=
  .mk { kind := "class_definition" }
    [firstName (some "name"),
     .mk { kind := "argument_list", field? := some "superclasses" }
       (List.replicate number (firstName none))]

/-- A statement that imports names of a module. -/
def importWith (number : Nat) : Node :=
  .mk { kind := "future_import_statement" } (List.replicate number (firstName (some "name")))

/-- Within any limits, what a single node below the root defines is found. -/
theorem definitions_fileOf
    (source : Source)
    {limits : Limits}
    (deep : 1 ≤ limits.maxDepth)
    (wide : 1 ≤ limits.maxChildren)
    (long : 2 ≤ limits.maxNodes)
    {child : Node}
    (isClosed : isModuleLevel child.kind = false) :
    walk (visitModuleLevel source) (fileOf child) 0 { limits } {} =
      addModuleLevel source child 1 (Budget.charge (Budget.charge { limits })) {} := by
  have enters : visitModuleLevel source (fileOf child) 0 (Budget.charge { limits }) {} =
      (.into, Budget.charge { limits }, {}) := by
    rw [visitModuleLevel_eq]
    rfl
  have skips : ∀ budget, (visitModuleLevel source child 1 budget {}).1 = .skip := by
    intro budget
    rw [visitModuleLevel_eq, isClosed]
    rfl
  rw [walk_of_only_child rfl deep wide (Nat.le_trans (Nat.le_of_eq (Nat.zero_add 2)) long) enters
    skips, visitModuleLevel_eq]

theorem trimmedTextOf_firstName (field? : Option String) :
    (Source.ofString "f").trimmedTextOf (firstName field?) = "f" := by
  have text : (Source.ofString "f").textOf (firstName field?) = "f" := rfl
  rw [Source.trimmedTextOf, text]
  decide +kernel

theorem namedChildren_replicate
    (info : NodeInfo)
    (field? : Option String)
    (number : Nat) :
    (Node.mk info (List.replicate number (firstName field?))).namedChildren =
      List.replicate number (firstName field?) :=
  List.filter_replicate_of_pos rfl

/-- The function that is found in a file has all its parameters. -/
theorem function?_functionWith
    (number depth : Nat)
    (budget : Budget) :
    (function? (Source.ofString "f") (functionWith number) [] depth budget).2.map
      (·.parameters.length) = some number := by
  have isName : (functionWith number).child? "name" = some (firstName (some "name")) := rfl
  have named : (Source.ofString "f").fieldText? (functionWith number) "name" = some "f" := by
    simp [Source.fieldText?, isName, trimmedTextOf_firstName]
  have isList : (functionWith number).child? "parameters" =
      some (.mk { kind := "parameters", field? := some "parameters" }
        (List.replicate number (firstName none))) :=
    rfl
  have isParameter : parameter? (Source.ofString "f") (firstName none) = some { name := "f" } := rfl
  rw [function?_of_name named, Option.map_some]
  dsimp only [functionOf]
  rw [isList, Option.map_some, Option.getD_some, parameters, namedChildren_replicate,
    List.filterMap_replicate_of_some isParameter, List.length_replicate]

/-- The class that is found in a file has all its bases. -/
theorem class?_classWith
    (number depth : Nat)
    (budget : Budget) :
    (class? (Source.ofString "f") (classWith number) [] depth budget).2.map (·.bases.length) =
      some number := by
  have isName : (classWith number).child? "name" = some (firstName (some "name")) := rfl
  have isList : (classWith number).child? "superclasses" =
      some (.mk { kind := "argument_list", field? := some "superclasses" }
        (List.replicate number (firstName none))) :=
    rfl
  have isBase : base? (Source.ofString "f") (firstName none) = some "f" := by
    rw [base?, trimmedTextOf_firstName]
    rfl
  rw [class?_of_name isName, Option.map_some]
  dsimp only [classOf]
  rw [isList, Option.map_some, Option.getD_some, bases, namedChildren_replicate,
    List.filterMap_replicate_of_some isBase, List.length_replicate]

theorem length_importedNames_importWith (number : Nat) :
    (importedNames (Source.ofString "f") (importWith number)).length = number := by
  have inField : (importWith number).childrenIn "name" =
      List.replicate number (firstName (some "name")) :=
    List.filter_replicate_of_pos rfl
  have isImported : importedName? (Source.ofString "f") (firstName (some "name")) =
      some { name := (Source.ofString "f").trimmedTextOf (firstName (some "name")) } := rfl
  rw [importedNames, inField, List.filterMap_replicate_of_some isImported, List.length_replicate]

/-- Within limits that let a node below the root be visited, lists are as long as one pleases. -/
theorem lists_of_any_length
    (limits : Limits)
    (deep : 1 ≤ limits.maxDepth)
    (wide : 1 ≤ limits.maxChildren)
    (long : 4 ≤ limits.maxNodes)
    (number : Nat) :
    (model "m.py" "f" (fileOf (functionWith number)) { limits }).2.functions.map
        (·.parameters.length) = [number] ∧
      (model "m.py" "f" (fileOf (classWith number)) { limits }).2.classes.map
        (·.bases.length) = [number] ∧
      (model "m.py" "f" (fileOf (importWith number)) { limits }).2.imports.map
        (·.items.length) = [number] := by
  have enough : 2 ≤ limits.maxNodes := Nat.le_trans (by decide) long
  refine ⟨?_, ?_, ?_⟩
  · have isFunction : (functionWith number).kind = "function_definition" := rfl
    have found := function?_functionWith number 1 (Budget.charge (Budget.charge { limits }))
    rw [Option.map_eq_some_iff] at found
    obtain ⟨function, isFound, isLength⟩ := found
    rw [model_eq]
    dsimp only [modelOf]
    rw [definitions_fileOf _ deep wide enough (by rw [isFunction]; rfl), addModuleLevel,
      undecorated_of_ne _ (by rw [isFunction]; decide)]
    dsimp only
    rw [if_pos isFunction, isFound, ← isLength]
    rfl
  · have isClass : (classWith number).kind = "class_definition" := rfl
    have found := class?_classWith number 1 (Budget.charge (Budget.charge { limits }))
    rw [Option.map_eq_some_iff] at found
    obtain ⟨cls, isFound, isLength⟩ := found
    rw [model_eq]
    dsimp only [modelOf]
    rw [definitions_fileOf _ deep wide enough (by rw [isClass]; rfl), addModuleLevel,
      undecorated_of_ne _ (by rw [isClass]; decide)]
    dsimp only
    rw [if_neg (by rw [isClass]; decide), if_pos isClass, isFound, ← isLength]
    rfl
  · have isStatement : (importWith number).kind = "future_import_statement" := rfl
    have enters : Visitor.ofStep (visitAnywhere (Source.ofString "f"))
        (fileOf (importWith number)) 0 (Budget.charge (Budget.charge (Budget.charge { limits })))
          {} = (.into, Budget.charge (Budget.charge (Budget.charge { limits })), {}) := by
      rfl
    have skips : ∀ budget, (Visitor.ofStep (visitAnywhere (Source.ofString "f"))
        (importWith number) 1 budget {}).1 = .skip := by
      intro budget
      rfl
    rw [model_eq]
    dsimp only [modelOf]
    rw [definitions_fileOf _ deep wide enough (by rw [isStatement]; rfl), addModuleLevel,
      undecorated_of_ne _ (by rw [isStatement]; decide)]
    dsimp only
    rw [if_neg (by rw [isStatement]; decide), if_neg (by rw [isStatement]; decide),
      walk_of_only_child rfl deep wide long enters skips]
    change [(importedNames (Source.ofString "f") (importWith number)).length] = [number]
    rw [length_importedNames_importWith]

/-- The tree of a file with a function of two parameters. -/
def twoParametersTree : Node :=
  .mk { kind := "module" }
    [.mk { kind := "function_definition" }
      [.mk { kind := "def", isNamed := false } [],
       .mk { kind := "identifier", field? := some "name",
             start := { chars := 4 }, stop := { chars := 5 } } [],
       .mk { kind := "parameters", field? := some "parameters" }
        [.mk { kind := "(", isNamed := false } [],
         .mk { kind := "identifier", start := { chars := 6 }, stop := { chars := 7 } } [],
         .mk { kind := ",", isNamed := false } [],
         .mk { kind := "identifier", start := { chars := 9 }, stop := { chars := 10 } } [],
         .mk { kind := ")", isNamed := false } []],
       .mk { kind := ":", isNamed := false } [],
       .mk { kind := "block", field? := some "body" }
        [.mk { kind := "pass_statement" } [.mk { kind := "pass", isNamed := false } []]]]]

/-- Where a node should give one item to a list, a function has both of its parameters, and no
length bounds those of others. -/
theorem exists_list_beyond_limit :
    (¬ ∀ function ∈ (model "m.py" "def f(a, b):\n    pass\n" twoParametersTree
          { limits := { maxChildren := 1 } }).2.functions,
        function.parameters.length ≤ 1) ∧
      ¬ ∃ bound, ∀ root, ∀ function ∈ (model "m.py" "f" root
          { limits := { maxChildren := 1 } }).2.functions,
        function.parameters.length ≤ bound := by
  refine ⟨by decide +kernel, ?_⟩
  rintro ⟨bound, bounded⟩
  have parameters := (lists_of_any_length { maxChildren := 1 } (by decide) (by decide) (by decide)
    (bound + 1)).1
  obtain ⟨function, isOnly, isLength⟩ := List.map_eq_singleton_iff.mp parameters
  have short := bounded (fileOf (functionWith (bound + 1))) function
    (isOnly ▸ List.mem_singleton_self function)
  omega

end SourceFacts.Extraction
