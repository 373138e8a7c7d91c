import Mathlib.Data.List.Perm.Subperm
import SourceFacts.Proofs.Extraction.Completeness
import SourceFacts.Proofs.Extraction.Depths
import SourceFacts.Proofs.Syntax.Spots

namespace SourceFacts.Extraction

/-!
# Complexity is conserved

Functions are defined at spots that are apart: at the level of the module, where a definition is not
entered, and in the bodies of classes there. Each counts decisions of its own body, so that no
decision of a file is counted by two functions, and the file counts all of them.
-/

open Syntax Facts

variable {source : Source} {root : Node} {spot inner : Spot}

/-! ## Where functions are defined -/

/-- The definition that a spot stands for, bare or decorated. -/
def definitionAt (spot : Spot) : Site := Site.undecorated ⟨spot, []⟩

/-- The spots of the statements in the body of the definition at a spot. -/
def bodySpots (spot : Spot) : List Spot :=
  ((definitionAt spot).body?.map (·.spot.children)).getD []

/-- The spots of the statements in the body of the class at a spot, if there is one. -/
def statementSpots (source : Source) (spot : Spot) : List Spot :=
  if (definedClass? source spot.node).isSome then bodySpots spot else []

/-- Whether a function is defined at a spot. -/
def definesFunction (source : Source) (spot : Spot) : Bool :=
  (definedFunction? source spot.node).isSome

/-- The spots at the level of the module. -/
def moduleLevelSpots (root : Node) : List Spot :=
  (Site.file root).spot.within fun node => isModuleLevel node.kind

/-- The spots where the functions and then the methods of a file are defined. -/
def functionSpots (source : Source) (root : Node) : List Spot :=
  (moduleLevelSpots root ++ (moduleLevelSpots root).flatMap (statementSpots source)).filter
    (definesFunction source)

/-- The spots in the body of the definition at a spot that belong to no scope inside it. -/
def ownSpots (spot : Spot) : List Spot :=
  ((definitionAt spot).body?.map fun body =>
    (body.spot.within fun node => !isNestedScope node.kind).filter fun inner =>
      !isNestedScope inner.node.kind).getD []

/-- The places of the decisions that the definition at a spot counts. -/
def decisionPlaces (spot : Spot) : List (List Nat) :=
  ((ownSpots spot).filter (isDecisionPoint ·.node.kind)).map (·.place)

/-! ## Definitions at spots -/

theorem node_definitionAt
    (source : Source)
    (spot : Spot) :
    (definitionAt spot).spot.node = (source.undecorated spot.node).1 :=
  (Site.node_undecorated source ⟨spot, []⟩).1

theorem node_body?
    (source : Source)
    (spot : Spot) :
    (definitionAt spot).body?.map (·.spot.node) =
      (source.undecorated spot.node).1.child? "body" := by
  rw [← node_definitionAt, Site.body?, Spot.child?]
  cases (definitionAt spot).spot.node.child? "body" <;> rfl

/-- The own spots of a definition are those of its own nodes. -/
theorem nodes_ownSpots
    (source : Source)
    (spot : Spot) :
    (ownSpots spot).map (·.node) = ownNodes (source.undecorated spot.node).1 := by
  rw [ownNodes, ← node_body?, ownSpots]
  cases (definitionAt spot).body? with
  | none =>
      rfl
  | some body =>
      simp only [Option.map_some, Option.getD_some]
      rw [outside, ← Spot.nodes_within, List.filter_map]
      rfl

/-- A definition counts the decisions among its own nodes. -/
theorem length_decisionPlaces
    (source : Source)
    (spot : Spot) :
    (decisionPlaces spot).length = decisionsIn (ownNodes (source.undecorated spot.node).1) := by
  rw [← nodes_ownSpots, decisionPlaces, List.length_map, decisionsIn, List.countP_map,
    List.countP_eq_length_filter]
  rfl

/-- The complexity of a function is one more than the number of places that it counts. -/
theorem complexity_of_definedFunction?
    {function : Function}
    (isFunction : definedFunction? source spot.node = some function) :
    function.complexity = UInt32.ofNat ((decisionPlaces spot).length + 1) := by
  rw [definedFunction?] at isFunction
  dsimp only at isFunction
  split at isFunction
  · rw [plainFunction?, Option.map_eq_some_iff] at isFunction
    obtain ⟨name, _, rfl⟩ := isFunction
    rw [length_decisionPlaces source, Nat.add_comm]
    rfl
  · cases isFunction

/-- The methods of a class are defined by the statements in its body. -/
theorem methods_of_definedClass?
    {cls : Facts.Class}
    (isClass : definedClass? source spot.node = some cls) :
    cls.methods = (statementSpots source spot).filterMap (definedFunction? source ·.node) := by
  rw [statementSpots, isClass, Option.isSome_some, if_pos rfl]
  rw [definedClass?] at isClass
  dsimp only at isClass
  split at isClass
  · rw [plainClass?, Option.map_eq_some_iff] at isClass
    obtain ⟨name, _, rfl⟩ := isClass
    rw [← node_body?, bodySpots]
    cases (definitionAt spot).body? with
    | none =>
        rfl
    | some body =>
        change body.spot.node.children.filterMap (definedFunction? source) = _
        rw [← Spot.nodes_children, List.filterMap_map]
        rfl
  · cases isClass

/-- The functions and methods of a file are those at the spots where functions are defined. -/
theorem allFunctions_plainModel
    (path text : String)
    (root : Node) :
    (plainModel path text root).allFunctions.map some =
      (functionSpots (Source.ofString text) root).map
        (definedFunction? (Source.ofString text) ·.node) := by
  let source := Source.ofString text
  have nodes : (moduleLevelSpots root).map (·.node) = moduleLevel root := Spot.nodes_within _ _
  have methods : ((moduleLevel root).filterMap (definedClass? source)).flatMap (·.methods) =
      ((moduleLevelSpots root).flatMap (statementSpots source)).filterMap
        (definedFunction? source ·.node) := by
    rw [← nodes, List.filterMap_map, List.filterMap_flatMap]
    induction moduleLevelSpots root with
    | nil =>
        rfl
    | cons spot rest inductionHypothesis =>
        rw [List.filterMap_cons, List.flatMap_cons, ← inductionHypothesis, Function.comp_apply]
        cases isClass : definedClass? source spot.node with
        | none =>
            rw [statementSpots, isClass]
            rfl
        | some cls =>
            rw [← methods_of_definedClass? isClass]
            rfl
  have functions : (moduleLevel root).filterMap (definedFunction? source) =
      (moduleLevelSpots root).filterMap (definedFunction? source ·.node) := by
    rw [← nodes, List.filterMap_map]
    rfl
  have all : (plainModel path text root).allFunctions =
      (moduleLevelSpots root ++ (moduleLevelSpots root).flatMap (statementSpots source)).filterMap
        (definedFunction? source ·.node) := by
    rw [List.filterMap_append, ← functions, ← methods]
    rfl
  rw [all, List.map_filterMap_some_eq_filter_map_isSome, List.filter_map]
  rfl

/-! ## What belongs to a definition is below its spot -/

theorem has_definitionAt (spot : Spot) : spot.Has (definitionAt spot).spot := by
  rw [definitionAt, Site.undecorated]
  split
  · cases found : spot.child? "definition" spot.depth with
    | none =>
        exact spot.has_self
    | some definition =>
        exact Spot.has_of_child? found
  · exact spot.has_self

theorem has_body
    {body : Site}
    (isBody : (definitionAt spot).body? = some body) :
    spot.Has body.spot := by
  rw [Site.body?, Option.map_eq_some_iff] at isBody
  obtain ⟨inner, found, rfl⟩ := isBody
  exact (has_definitionAt spot).trans (Spot.has_of_child? found)

theorem has_statement (isStatement : inner ∈ statementSpots source spot) : spot.Has inner := by
  rw [statementSpots] at isStatement
  split at isStatement
  · rw [bodySpots] at isStatement
    cases isBody : (definitionAt spot).body? with
    | none =>
        rw [isBody] at isStatement
        cases isStatement
    | some body =>
        rw [isBody] at isStatement
        exact (has_body isBody).trans (Spot.has_of_mem_children isStatement)
  · cases isStatement

theorem has_own (isOwn : inner ∈ ownSpots spot) : spot.Has inner := by
  rw [ownSpots] at isOwn
  cases isBody : (definitionAt spot).body? with
  | none =>
      rw [isBody] at isOwn
      cases isOwn
  | some body =>
      rw [isBody] at isOwn
      exact (has_body isBody).trans (Spot.has_of_mem_within (List.mem_filter.mp isOwn).1)

/-- A definition counts no place twice. -/
theorem nodup_decisionPlaces (spot : Spot) : (decisionPlaces spot).Nodup := by
  rw [decisionPlaces, ownSpots]
  cases (definitionAt spot).body? with
  | none =>
      exact List.nodup_nil
  | some body =>
      exact (body.spot.nodup_within _).sublist
        ((List.filter_sublist.trans List.filter_sublist).map _)

/-! ## Functions are apart -/

/-- Functions are defined by nothing but function definitions. -/
theorem definesFunction_of_ne
    (differs : (source.undecorated spot.node).1.kind ≠ "function_definition") :
    definesFunction source spot = false := by
  rw [definesFunction, definedFunction?]
  dsimp only
  rw [if_neg differs]
  rfl

/-- Only class definitions have statements that define methods. -/
theorem statementSpots_of_ne
    (differs : (source.undecorated spot.node).1.kind ≠ "class_definition") :
    statementSpots source spot = [] := by
  have noClass : definedClass? source spot.node = none := by
    rw [definedClass?]
    exact if_neg differs
  rw [statementSpots, noClass]
  rfl

/-- The spots where functions are found from one at the level of the module: the spot itself and
those of the statements of a class. -/
def definedSpots (source : Source) (spot : Spot) : List Spot :=
  (spot :: statementSpots source spot).filter (definesFunction source)

/-- What is entered at the level of the module is no definition. -/
theorem definedSpots_of_isModuleLevel
    (isLevel : isModuleLevel spot.node.kind = true) :
    definedSpots source spot = [] := by
  have differs : ∀ kind, isModuleLevel kind = false → spot.node.kind ≠ kind := by
    rintro kind isNot rfl
    exact Bool.false_ne_true (isNot.symm.trans isLevel)
  have isBare := undecorated_of_ne source (differs "decorated_definition" (by decide))
  rw [definedSpots, statementSpots_of_ne, List.filter_cons, definesFunction_of_ne]
  · rfl
  · rw [isBare]
    exact differs _ (by decide)
  · rw [isBare]
    exact differs _ (by decide)

/-- Functions that are found from the same spot are apart: a function is no class. -/
theorem apart_definedSpots (spot : Spot) : (definedSpots source spot).Pairwise Spot.Apart := by
  rw [definedSpots, List.filter_cons]
  split
  next isFunction =>
    rw [statementSpots_of_ne]
    · exact List.pairwise_singleton _ _
    · intro isClass
      rw [definesFunction_of_ne (by rw [isClass]; decide)] at isFunction
      cases isFunction
  next =>
    refine List.Pairwise.filter _ ?_
    rw [statementSpots, bodySpots]
    cases (definitionAt spot).body? with
    | none =>
        rw [Option.map_none, Option.getD_none, ite_self]
        exact List.Pairwise.nil
    | some body =>
        split
        · exact body.spot.apart_children
        · exact List.Pairwise.nil

/-- No function of a file is at or below another one. -/
theorem apart_functionSpots (source : Source) (root : Node) :
    (functionSpots source root).Pairwise Spot.Apart := by
  have order : (functionSpots source root).Perm
      ((moduleLevelSpots root).flatMap (definedSpots source)) := by
    have interleaved := List.flatMap_append_perm (moduleLevelSpots root) (fun spot => [spot])
      (statementSpots source)
    rw [List.flatMap_singleton'] at interleaved
    have filtered := interleaved.filter (definesFunction source)
    rw [List.filter_flatMap] at filtered
    exact filtered
  rw [order.pairwise_iff Spot.Apart.symm]
  refine Spot.apart_flatMap_within (fun _ isLevel => definedSpots_of_isModuleLevel isLevel) ?_
    apart_definedSpots _
  intro spot part member
  rcases List.mem_cons.mp (List.mem_filter.mp member).1 with rfl | isStatement
  · exact part.has_self
  · exact has_statement isStatement

/-- The spots where functions are defined stand in the file. -/
theorem has_of_mem_functionSpots
    (isFunction : spot ∈ functionSpots source root) :
    (Site.file root).spot.Has spot := by
  rcases List.mem_append.mp (List.mem_filter.mp isFunction).1 with isLevel | isMethod
  · exact Spot.has_of_mem_within isLevel
  · obtain ⟨cls, isLevel, isStatement⟩ := List.mem_flatMap.mp isMethod
    exact (Spot.has_of_mem_within isLevel).trans (has_statement isStatement)

/-! ## Decisions of a file -/

/-- A place of a file that decides something. -/
def IsDecision (root : Node) (place : List Nat) : Prop :=
  ∃ node, root.at? place = some node ∧ isDecisionPoint node.kind = true

/-- Import statements do not contain decisions, as in every tree without errors. -/
def ImportsDecideNothing (nodes : List Node) : Prop :=
  ∀ node ∈ nodes, isImport node.kind = true →
    ∀ inner ∈ Node.withinAll (fun _ => true) node.children, isDecisionPoint inner.kind = false

/-- Then all decisions are found without entering import statements. -/
theorem decisionsIn_outsideImports
    (nothing : ImportsDecideNothing (allNodes root)) :
    decisionsIn (outsideImports root) = decisionsIn (allNodes root) := by
  have noImport : ∀ kind ∈ decisionKinds, (!isImport kind) = true := by
    decide
  have outsideOfImports : (outsideImports root).filter (isDecisionPoint ·.kind) =
      (root.within fun node => !isImport node.kind).filter (isDecisionPoint ·.kind) := by
    rw [outsideImports, outside, List.filter_filter]
    refine List.filter_congr fun node _ => ?_
    cases decides : isDecisionPoint node.kind with
    | true =>
        exact noImport node.kind (List.contains_iff_mem.mp decides)
    | false =>
        rfl
  rw [decisionsIn, decisionsIn, List.countP_eq_length_filter, List.countP_eq_length_filter,
    outsideOfImports, Node.filter_within, allNodes]
  intro node member isClosed
  exact nothing node member (Bool.not_eq_eq_eq_not.mp isClosed)

/-- There are no more distinct places that decide something than decisions. -/
theorem length_le_decisionsIn
    {places : List (List Nat)}
    (distinct : places.Nodup)
    (decisions : ∀ place ∈ places, IsDecision root place) :
    places.length ≤ decisionsIn (allNodes root) := by
  let file := (Site.file root).spot
  let all := ((file.within fun _ => true).filter (isDecisionPoint ·.node.kind)).map (·.place)
  have size : all.length = decisionsIn (allNodes root) := by
    have nodes : allNodes root = (file.within fun _ => true).map (·.node) :=
      (file.nodes_within _).symm
    rw [nodes, decisionsIn, List.countP_map, List.countP_eq_length_filter, List.length_map]
    rfl
  have subset : places ⊆ all := by
    intro place member
    obtain ⟨node, isThere, decides⟩ := decisions place member
    have has : file.Has ⟨place, node, 0⟩ := ⟨place, rfl, isThere⟩
    obtain ⟨spot, isSpot, isPlace, isNode⟩ := Spot.mem_within_of_has has
    refine List.mem_map.mpr ⟨spot, List.mem_filter.mpr ⟨isSpot, ?_⟩, isPlace⟩
    rw [isNode]
    exact decides
  rw [← size]
  exact (distinct.subperm subset).length_le

/-- What stands in a file is the node at its place. -/
theorem at?_of_has_file
    (has : (Site.file root).spot.Has spot) :
    root.at? spot.place = some spot.node := by
  obtain ⟨rest, isPlace, isThere⟩ := has
  rw [isPlace]
  exact isThere

/-- The places that a function counts are those of the decisions among its own nodes. -/
theorem at?_decisionPlaces
    (has : (Site.file root).spot.Has spot) :
    (decisionPlaces spot).map root.at? =
      ((ownNodes (source.undecorated spot.node).1).filter (isDecisionPoint ·.kind)).map some := by
  rw [← nodes_ownSpots, decisionPlaces, List.filter_map, List.map_map, List.map_map]
  refine List.map_congr_left fun inner member => ?_
  exact at?_of_has_file (has.trans (has_own (List.mem_filter.mp member).1))

theorem isDecision_of_mem_decisionPlaces
    (has : (Site.file root).spot.Has spot)
    {place : List Nat}
    (member : place ∈ decisionPlaces spot) :
    IsDecision root place := by
  obtain ⟨inner, isDecision, rfl⟩ := List.mem_map.mp member
  obtain ⟨isOwn, decides⟩ := List.mem_filter.mp isDecision
  exact ⟨inner.node, at?_of_has_file (has.trans (has_own isOwn)), decides⟩

/-- No decision is counted by two functions. -/
theorem nodup_flatMap_decisionPlaces (source : Source) (root : Node) :
    ((functionSpots source root).flatMap decisionPlaces).Nodup := by
  refine Spot.nodup_flatMap_of_apart (apart_functionSpots source root) ?_ nodup_decisionPlaces
  intro spot place member
  obtain ⟨inner, isDecision, rfl⟩ := List.mem_map.mp member
  exact (has_own (List.mem_filter.mp isDecision).1).isPrefix

/-- All functions together count no more decisions than there are. -/
theorem length_flatMap_decisionPlaces_le (source : Source) (root : Node) :
    ((functionSpots source root).flatMap decisionPlaces).length ≤ decisionsIn (allNodes root) := by
  refine length_le_decisionsIn (nodup_flatMap_decisionPlaces source root) ?_
  intro place member
  obtain ⟨spot, isFunction, isCounted⟩ := List.mem_flatMap.mp member
  exact isDecision_of_mem_decisionPlaces (has_of_mem_functionSpots isFunction) isCounted

/-- A function counts no more decisions than there are. -/
theorem length_decisionPlaces_le
    (isFunction : spot ∈ functionSpots source root) :
    (decisionPlaces spot).length ≤ decisionsIn (allNodes root) :=
  length_le_decisionsIn (nodup_decisionPlaces spot) fun _ member =>
    isDecision_of_mem_decisionPlaces (has_of_mem_functionSpots isFunction) member

/-! ## Conservation -/

/-- The complexity of a file is shared out among its functions. -/
structure ConservesComplexity (source : Source) (root : Node) (model : Model) : Prop where
  /-- The functions and methods are those that are defined at some spots. -/
  functions : model.allFunctions.map some =
    (functionSpots source root).map (definedFunction? source ·.node)
  /-- None of these is at or below another one. -/
  apart : (functionSpots source root).Pairwise Spot.Apart
  /-- Each counts the places of the decisions in its body outside nested scopes. -/
  decisions : ∀ spot ∈ functionSpots source root,
    (decisionPlaces spot).map root.at? =
      ((ownNodes (source.undecorated spot.node).1).filter (isDecisionPoint ·.kind)).map some
  /-- Its complexity is one more than their number. -/
  complexities : model.allFunctions.map (·.complexity.toNat) =
    (functionSpots source root).map fun spot => (decisionPlaces spot).length + 1
  /-- No place is counted twice. -/
  once : ((functionSpots source root).flatMap decisionPlaces).Nodup
  /-- The complexity of the file is one more than the number of all its decisions. -/
  complexity : model.complexity.toNat = decisionsIn (allNodes root) + 1
  /-- The functions together have no more of it than there is. -/
  conserved : total (·.complexity.toNat - 1) model.allFunctions ≤ model.complexity.toNat - 1

/-- Decisions of trees that may be counted in a word can be counted from one on. -/
theorem toNat_ofNat_succ
    {number : Nat}
    (few : root.count < 4294967295)
    (within : number ≤ decisionsIn (allNodes root)) :
    (UInt32.ofNat (number + 1)).toNat = number + 1 := by
  have fewDecisions : decisionsIn (allNodes root) ≤ root.count :=
    Nat.le_trans List.countP_le_length (Node.length_within_le _ root)
  rw [UInt32.toNat_ofNat', Nat.mod_eq_of_lt (by omega)]

/-- If nothing is left out, the functions of a file share its complexity. -/
theorem model_conservesComplexity
    (path text : String)
    (root : Node)
    (budget : Budget)
    (few : root.count < 4294967295)
    (nothing : ImportsDecideNothing (allNodes root))
    (complete : (model path text root budget).2.truncated = false) :
    ConservesComplexity (Source.ofString text) root (model path text root budget).2 := by
  rw [model_eq_plainModel few complete]
  let source := Source.ofString text
  have functions := allFunctions_plainModel path text root
  have complexity : (plainModel path text root).complexity.toNat =
      decisionsIn (allNodes root) + 1 := by
    rw [plainModel, decisionsIn_outsideImports nothing, Nat.add_comm]
    exact toNat_ofNat_succ few (Nat.le_refl _)
  have complexities : (plainModel path text root).allFunctions.map (·.complexity.toNat) =
      (functionSpots source root).map fun spot => (decisionPlaces spot).length + 1 := by
    refine List.map_injective_iff.mpr (fun _ _ => Option.some.inj) ?_
    have counted := congrArg (List.map (Option.map (·.complexity.toNat))) functions
    rw [List.map_map, List.map_map] at counted
    rw [List.map_map, List.map_map]
    refine counted.trans (List.map_congr_left fun spot isFunction => ?_)
    obtain ⟨function, isDefined⟩ := Option.isSome_iff_exists.mp (List.mem_filter.mp isFunction).2
    rw [Function.comp_apply, isDefined, Option.map_some,
      complexity_of_definedFunction? isDefined,
      toNat_ofNat_succ few (length_decisionPlaces_le isFunction)]
    rfl
  refine ⟨functions, apart_functionSpots source root, ?_, complexities,
    nodup_flatMap_decisionPlaces source root, complexity, ?_⟩
  · intro spot isFunction
    exact at?_decisionPlaces (has_of_mem_functionSpots isFunction)
  · have shares : total (·.complexity.toNat - 1) (plainModel path text root).allFunctions =
        total (fun spot => (decisionPlaces spot).length) (functionSpots source root) := by
      have lessOne := congrArg (total (· - 1)) complexities
      rwa [total_map, total_map] at lessOne
    rw [shares, ← length_flatMap_eq_total, complexity, Nat.add_sub_cancel]
    exact length_flatMap_decisionPlaces_le source root

/-- A file that imports, branches in a function and loops in a method. -/
def sharedText : String :=
  "import os\ndef f():\n if a: pass\nclass C:\n def m():\n  while b: pass"

/-- Its tree. -/
def sharedTree : Node :=
  let named (first : Nat) : Node :=
    .mk { kind := "identifier", field? := some "name",
          start := { chars := first }, stop := { chars := first + 1 } } []
  let body (statement : Node) : Node := .mk { kind := "block", field? := some "body" } [statement]
  .mk { kind := "module" }
    [.mk { kind := "import_statement", stop := { chars := 9 } }
      [.mk { kind := "dotted_name", field? := some "name",
             start := { chars := 7 }, stop := { chars := 9 } } []],
     .mk { kind := "function_definition", start := { chars := 10 }, stop := { chars := 30 } }
      [named 14, body (.mk { kind := "if_statement" } [])],
     .mk { kind := "class_definition", start := { chars := 31 }, stop := { chars := 65 } }
      [named 37,
       body (.mk { kind := "function_definition", start := { chars := 41 },
                   stop := { chars := 65 } }
        [named 45, body (.mk { kind := "while_statement" } [])])]]

/-- Its function and its method have one decision each of the two of the file. -/
theorem model_conservesComplexity_sharedTree :
    sharedTree.count < 4294967295 ∧ ImportsDecideNothing (allNodes sharedTree) ∧
      (model "f.py" sharedText sharedTree {}).2.truncated = false ∧
      ConservesComplexity (Source.ofString sharedText) sharedTree
        (model "f.py" sharedText sharedTree {}).2 ∧
      (model "f.py" sharedText sharedTree {}).2.allFunctions.map (·.complexity) = [2, 2] ∧
      (model "f.py" sharedText sharedTree {}).2.complexity = 3 := by
  have few : sharedTree.count < 4294967295 := by decide +kernel
  have nothing : ImportsDecideNothing (allNodes sharedTree) := by
    unfold ImportsDecideNothing
    decide +kernel
  have complete : (model "f.py" sharedText sharedTree {}).2.truncated = false := by decide +kernel
  exact ⟨few, nothing, complete, model_conservesComplexity _ _ _ _ few nothing complete,
    by decide +kernel, by decide +kernel⟩

end SourceFacts.Extraction
