import Mathlib.Data.List.Flatten
import Mathlib.Data.List.Perm.Basic
import SourceFacts.Proofs.Extraction.FirstBindings
import SourceFacts.Proofs.Syntax.Calls

namespace SourceFacts.Extraction

open Syntax List

/-!
# Names that assignments bind

A target of an assignment is a name, an attribute, a subscript, or a pattern of targets, some of
them starred, to any depth. An assignment binds every name that is reached through patterns and
stars. Reported are the names that are targets themselves or stand directly in a pattern; those
further below are buried. A chain of assignments has many targets, none of which is passed over.

In the body of a class, the names of the first target of an assignment are recorded and those of the
others are passed over, so that a class and a module agree on it unless a later target has a name of
its own.
-/

/-- Whether nodes of a kind are patterns, which stand for several targets. -/
def isPattern (kind : String) : Bool :=
  ["pattern_list", "tuple_pattern", "list_pattern"].contains kind

mutual

/-- The names that a target binds. An attribute or a subscript binds none. -/
def boundNames (source : Source) : Node → List String
  | .mk info children =>
      if info.kind = "identifier" then [source.textOf (.mk info children)]
      else if isPattern info.kind || info.kind == "list_splat_pattern" then
        boundByAll source children
      else []

/-- The names that the named ones of some nodes bind. -/
def boundByAll (source : Source) : List Node → List String
  | [] => []
  | node :: rest =>
      (if node.isNamed then boundNames source node else []) ++ boundByAll source rest

end

variable {source : Source} {target : Node}

theorem boundByAll_eq (nodes : List Node) :
    boundByAll source nodes = (nodes.filter (·.isNamed)).flatMap (boundNames source) := by
  induction nodes with
  | nil =>
      rw [boundByAll]
      rfl
  | cons node rest inductionHypothesis =>
      rw [boundByAll, inductionHypothesis, List.filter_cons]
      cases node.isNamed <;> rfl

theorem boundNames_eq (target : Node) :
    boundNames source target =
      if target.kind = "identifier" then [source.textOf target]
      else if isPattern target.kind || target.kind == "list_splat_pattern" then
        target.namedChildren.flatMap (boundNames source)
      else [] := by
  cases target with
  | mk info children =>
      rw [boundNames, boundByAll_eq]
      rfl

theorem boundNames_identifier
    (isIdentifier : target.kind = "identifier") :
    boundNames source target = [source.textOf target] := by
  rw [boundNames_eq, if_pos isIdentifier]

theorem boundNames_pattern
    (noIdentifier : target.kind ≠ "identifier")
    (isPattern : isPattern target.kind = true) :
    boundNames source target = target.namedChildren.flatMap (boundNames source) := by
  rw [boundNames_eq, if_neg noIdentifier, isPattern, Bool.true_or, if_pos rfl]

/-! ## Targets -/

/-- Whether a node is an identifier. -/
def isIdentifier (node : Node) : Bool := node.kind == "identifier"

/-- The names that a target binds without reporting them. -/
def buriedNames (source : Source) (target : Node) : List String :=
  if target.kind = "identifier" then []
  else if isPattern target.kind then
    (target.namedChildren.filter (!isIdentifier ·)).flatMap (boundNames source)
  else boundNames source target

/-- Identifiers bind themselves. -/
theorem flatMap_boundNames_identifiers (nodes : List Node) :
    (nodes.filter isIdentifier).flatMap (boundNames source) =
      (nodes.filter isIdentifier).map source.textOf := by
  induction nodes with
  | nil =>
      rfl
  | cons node rest inductionHypothesis =>
      rw [List.filter_cons]
      split
      next isOne =>
        rw [List.flatMap_cons, boundNames_identifier (beq_iff_eq.mp isOne), inductionHypothesis]
        rfl
      next =>
        exact inductionHypothesis

theorem targetNames_eq (target : Node) :
    targetNames source target =
      if target.kind = "identifier" then [source.textOf target]
      else if isPattern target.kind then
        (target.namedChildren.filter isIdentifier).flatMap (boundNames source)
      else [] := by
  rw [flatMap_boundNames_identifiers]
  rfl

/-- The names that are reported of a target are those of identifiers, which are the target itself or
stand in it if it is a pattern. -/
theorem mem_targetNames
    {name : String} :
    name ∈ targetNames source target ↔
      ∃ node, isIdentifier node = true ∧ source.textOf node = name ∧
        (node = target ∨ isPattern target.kind = true ∧ node ∈ target.namedChildren) := by
  rw [targetNames_eq, flatMap_boundNames_identifiers]
  split
  next isOne =>
    have noPattern : isPattern target.kind = false := by
      rw [isOne]
      decide
    rw [List.mem_singleton, noPattern]
    constructor
    · rintro rfl
      exact ⟨target, beq_iff_eq.mpr isOne, rfl, .inl rfl⟩
    · rintro ⟨node, _, rfl, rfl | ⟨isFalse, _⟩⟩
      · rfl
      · cases isFalse
  next isNone =>
    have noTarget : ∀ node, isIdentifier node = true → node ≠ target :=
      fun node isOne same => isNone (same ▸ beq_iff_eq.mp isOne)
    split
    next areParts =>
      rw [List.mem_map]
      constructor
      · rintro ⟨node, member, rfl⟩
        obtain ⟨isPart, isOne⟩ := List.mem_filter.mp member
        exact ⟨node, isOne, rfl, .inr ⟨areParts, isPart⟩⟩
      · rintro ⟨node, isOne, rfl, same | ⟨_, isPart⟩⟩
        · exact absurd same (noTarget node isOne)
        · exact ⟨node, List.mem_filter.mpr ⟨isPart, isOne⟩, rfl⟩
    next noParts =>
      refine iff_of_false List.not_mem_nil ?_
      rintro ⟨node, isOne, _, same | ⟨areParts, _⟩⟩
      · exact noTarget node isOne same
      · exact noParts areParts

/-- The names that are reported of a target are bound by it, in this order. -/
theorem targetNames_sublist (target : Node) :
    targetNames source target <+ boundNames source target := by
  rw [targetNames_eq]
  split
  next isOne =>
    rw [boundNames_identifier isOne]
  next isNone =>
    split
    next isPattern =>
      rw [boundNames_pattern isNone isPattern]
      exact List.filter_sublist.flatMap _
    next =>
      exact List.nil_sublist _

/-- A target binds the names that are reported and those that are buried. -/
theorem boundNames_perm (target : Node) :
    boundNames source target ~ targetNames source target ++ buriedNames source target := by
  rw [targetNames_eq, buriedNames]
  split
  next isOne =>
    rw [boundNames_identifier isOne, List.append_nil]
  next isNone =>
    split
    next isPattern =>
      rw [boundNames_pattern isNone isPattern, ← List.flatMap_append]
      exact (List.filter_append_perm isIdentifier target.namedChildren).symm.flatMap_right _
    next =>
      rw [List.nil_append]

/-! ## Chains -/

/-- The targets of a chain of assignments. -/
def chainTargets (assignment : Node) : List Node :=
  (assignment.child? "left").toList ++
    match _found : assignment.child? "right" with
    | some value => if value.kind = "assignment" then chainTargets value else []
    | none => []
termination_by assignment.count
decreasing_by exact Node.count_lt_of_child? _found

/-- The targets of a statement, if it is an assignment. -/
def targets (statement : Node) : List Node :=
  if statement.kind = "expression_statement" then
    ((assignment? statement).map chainTargets).getD []
  else []

/-- No target of a chain is passed over. -/
theorem chainNames_eq (assignment : Node) :
    chainNames source assignment = (chainTargets assignment).flatMap (targetNames source) := by
  have first : ((assignment.child? "left").map (targetNames source)).getD [] =
      (assignment.child? "left").toList.flatMap (targetNames source) := by
    cases assignment.child? "left" with
    | none =>
        rfl
    | some target =>
        exact (List.flatMap_singleton _ _).symm
  rw [chainNames, chainTargets, List.flatMap_append, first]
  cases isValue : assignment.child? "right" with
  | none =>
      rw [List.flatMap_nil]
  | some value =>
      have fewer := Node.count_lt_of_child? isValue
      have others := chainNames_eq value
      by_cases isAssignment : value.kind = "assignment"
      · simp only [if_pos isAssignment, others]
      · simp only [if_neg isAssignment, List.flatMap_nil]
termination_by assignment.count

theorem assignedNames_eq (statement : Node) :
    assignedNames source statement = (targets statement).flatMap (targetNames source) := by
  rw [assignedNames, targets]
  split
  · cases assignment? statement with
    | none =>
        rfl
    | some assignment =>
        exact chainNames_eq assignment
  · rfl

/-! ## Statements -/

/-- The names that a statement binds, in order. -/
def namesBoundBy (source : Source) (statement : Node) : List String :=
  (targets statement).flatMap (boundNames source)

/-- The names that a statement binds without reporting them. -/
def namesBuriedBy (source : Source) (statement : Node) : List String :=
  (targets statement).flatMap (buriedNames source)

/-- Which of the names that a statement binds are reported. -/
structure ReportsDirectNames (source : Source) (statement : Node) : Prop where
  /-- A name is reported if an identifier of it is a target, or stands directly in a pattern that is
  one; attributes and subscripts give none. -/
  mem_iff : ∀ name, name ∈ assignedNames source statement ↔
    ∃ target ∈ targets statement, ∃ node, isIdentifier node = true ∧ source.textOf node = name ∧
      (node = target ∨ isPattern target.kind = true ∧ node ∈ target.namedChildren)
  /-- The names are reported in the order of the source, and none that is not bound. -/
  ordered : assignedNames source statement <+ namesBoundBy source statement
  /-- Every name that is bound is reported or buried. -/
  others : namesBoundBy source statement ~
    assignedNames source statement ++ namesBuriedBy source statement
  /-- All names are reported exactly if no target binds one in a pattern or behind a star within
  it. -/
  complete_iff : assignedNames source statement = namesBoundBy source statement ↔
    ∀ target ∈ targets statement, buriedNames source target = []

/-- Every statement reports its names in this way. -/
theorem reportsDirectNames
    (source : Source)
    (statement : Node) :
    ReportsDirectNames source statement := by
  have ordered : assignedNames source statement <+ namesBoundBy source statement := by
    rw [assignedNames_eq, namesBoundBy]
    exact Sublist.flatMap_right _ fun target _ => targetNames_sublist target
  have others : namesBoundBy source statement ~
      assignedNames source statement ++ namesBuriedBy source statement := by
    rw [assignedNames_eq, namesBoundBy, namesBuriedBy]
    exact (Perm.flatMap_left _ fun target _ => boundNames_perm target).trans
      (List.flatMap_append_perm _ _ _).symm
  refine ⟨fun name => ?_, ordered, others, ?_⟩
  · rw [assignedNames_eq, List.mem_flatMap]
    simp only [mem_targetNames]
  · have lengths := others.length_eq
    rw [List.length_append] at lengths
    rw [← List.flatMap_eq_nil_iff, ← namesBuriedBy]
    constructor
    · intro complete
      rw [← complete] at lengths
      exact List.eq_nil_of_length_eq_zero (by omega)
    · intro nothing
      rw [nothing, List.length_nil, Nat.add_zero] at lengths
      exact ordered.eq_of_length lengths.symm

/-- The statement `a, (b, *c) = x`. -/
def nestedAssignment : Node :=
  .mk { kind := "expression_statement" }
    [.mk { kind := "assignment" }
      [.mk { kind := "pattern_list", field? := some "left" }
        [.mk { kind := "identifier", stop := { chars := 1 } } [],
         .mk { kind := ",", isNamed := false } [],
         .mk { kind := "tuple_pattern" }
          [.mk { kind := "(", isNamed := false } [],
           .mk { kind := "identifier", start := { chars := 4 }, stop := { chars := 5 } } [],
           .mk { kind := ",", isNamed := false } [],
           .mk { kind := "list_splat_pattern" }
            [.mk { kind := "*", isNamed := false } [],
             .mk { kind := "identifier", start := { chars := 8 }, stop := { chars := 9 } } []],
           .mk { kind := ")", isNamed := false } []]],
       .mk { kind := "=", isNamed := false } [],
       .mk { kind := "identifier", field? := some "right",
             start := { chars := 13 }, stop := { chars := 14 } } []]]

/-- Of three names that a statement binds, those in a nested pattern are not reported. -/
theorem exists_name_unreported :
    (assignedNames (Source.ofString "a, (b, *c) = x") nestedAssignment = ["a"] ∧
        namesBoundBy (Source.ofString "a, (b, *c) = x") nestedAssignment = ["a", "b", "c"]) ∧
      ¬ ∀ (source : Source) (statement : Node),
        assignedNames source statement = namesBoundBy source statement := by
  have reported : assignedNames (Source.ofString "a, (b, *c) = x") nestedAssignment = ["a"] := by
    decide +kernel
  have bound : namesBoundBy (Source.ofString "a, (b, *c) = x") nestedAssignment =
      ["a", "b", "c"] := by
    decide +kernel
  refine ⟨⟨reported, bound⟩, fun complete => ?_⟩
  have same := complete (Source.ofString "a, (b, *c) = x") nestedAssignment
  rw [reported, bound] at same
  exact absurd same (by decide)

/-! ## Assignments in classes -/

open Facts

variable {statement : Node} {limits : Limits} {depth room : Nat}

/-! ### The first target and the others -/

/-- The target that an assignment begins with. -/
def firstTarget? (statement : Node) : Option Node :=
  if statement.kind = "expression_statement" then
    (assignment? statement).bind (·.child? "left")
  else none

/-- The targets behind the first value of an assignment, which its chain goes on with. -/
def laterTargets (statement : Node) : List Node :=
  if statement.kind = "expression_statement" then
    (((assignment? statement).bind (·.child? "right")).map fun value =>
      if value.kind = "assignment" then chainTargets value else []).getD []
  else []

/-- The targets of an assignment are the first one and the later ones. -/
theorem targets_eq (statement : Node) :
    targets statement = (firstTarget? statement).toList ++ laterTargets statement := by
  rw [targets, firstTarget?, laterTargets]
  split
  · cases assignment? statement with
    | none =>
        rfl
    | some assignment =>
        rw [Option.map_some, Option.getD_some, chainTargets]
        cases isValue : assignment.child? "right" <;> simp [isValue]
  · rfl

/-- The names that are reported are those of the first target and of the later ones. -/
theorem mem_assignedNames
    {name : String} :
    name ∈ assignedNames source statement ↔
      (∃ target ∈ firstTarget? statement, name ∈ targetNames source target) ∨
        ∃ target ∈ laterTargets statement, name ∈ targetNames source target := by
  rw [assignedNames_eq, targets_eq, List.flatMap_append, List.mem_append, List.mem_flatMap,
    List.mem_flatMap]
  simp only [Option.mem_toList, Option.mem_def]

/-- The names that are bound in a class are those of the first target. -/
theorem mem_names_classBindings
    {name : String} :
    name ∈ (classBindings source statement).map (·.name) ↔
      ∃ target ∈ firstTarget? statement, name ∈ targetNames source target := by
  rw [classBindings, firstTarget?]
  split
  · cases assignment? statement with
    | none =>
        simp
    | some assignment =>
        rw [Option.map_some, Option.getD_some, Option.bind_some, assignmentBindings]
        cases assignment.child? "left" <;> simp
  · simp

/-- The bindings of an assignment in the body of a class belong to the class. -/
theorem isClassLevel_of_mem_classBindings
    {binding : Binding}
    (member : binding ∈ classBindings source statement) :
    binding.isClassLevel = true := by
  rw [classBindings] at member
  split at member
  · cases isAssignment : assignment? statement with
    | none =>
        rw [isAssignment] at member
        cases member
    | some assignment =>
        rw [isAssignment, Option.map_some, Option.getD_some, assignmentBindings] at member
        split at member
        · obtain ⟨name, _, rfl⟩ := List.mem_map.mp member
          rfl
        · cases member
  · cases member

/-! ### Statements one after another -/

/-- The number of visits in statements at a depth, of which each takes one itself. -/
def visitsThrough (source : Source) (limits : Limits) (depth : Nat) : List Node → Nat :=
  total fun statement => visitsOf source limits depth statement + 1

/-- What is come by in later statements is come by in the room that the earlier ones leave. -/
theorem encountered_append
    (room : Nat)
    (earlier later : List Node) :
    encountered source limits depth room (earlier ++ later) =
      encountered source limits depth room earlier ++
        encountered source limits depth (room - visitsThrough source limits depth earlier)
          later := by
  induction earlier generalizing room with
  | nil =>
      rw [encountered]
      rfl
  | cons statement rest inductionHypothesis =>
      cases room with
      | zero =>
          rw [Nat.zero_sub, encountered_zero, encountered_zero, encountered_zero]
          rfl
      | succ room =>
          have left : room + 1 - visitsThrough source limits depth (statement :: rest) =
              room - visitsOf source limits depth statement -
                visitsThrough source limits depth rest := by
            rw [visitsThrough, total_cons, ← visitsThrough]
            omega
          rw [List.cons_append, encountered, encountered, inductionHypothesis, left,
            List.append_assoc]

/-- What is come by in an assignment are its bindings. -/
theorem bindingsWithin_of_expression
    (isExpression : statement.kind = "expression_statement") :
    bindingsWithin source limits depth room statement = classBindings source statement := by
  have noFunction : (source.undecorated statement).1.kind ≠ "function_definition" := by
    rw [kind_undecorated_of_expression isExpression]
    decide
  rw [bindingsWithin, method?, if_neg (noFunction ·.1)]
  exact List.append_nil _

/-! ### What a statement records -/

/-- The attributes that a statement in the body of a class records, unless their names are bound
before. -/
def recordedBy (source : Source) (statement : Node) : List Attribute :=
  (firstBindings (classBindings source statement)).map (·.toAttribute source)

/-- The names that are recorded are those of the first target. -/
theorem mem_names_recordedBy
    {name : String} :
    name ∈ (recordedBy source statement).map (·.name) ↔
      ∃ target ∈ firstTarget? statement, name ∈ targetNames source target := by
  rw [← mem_names_classBindings, recordedBy, List.map_map]
  constructor
  · exact fun member => ((firstBindings_sublist _).map _).subset member
  · intro member
    obtain ⟨binding, isBinding, rfl⟩ := List.mem_map.mp member
    exact name_mem_firstBindings isBinding

/-- What an assignment records in a class, compared with what it reports in a module. -/
structure RecordsFirstTarget (source : Source) (statement : Node) (recorded : List Attribute) :
    Prop where
  /-- The names of the first target are recorded. -/
  mem_iff : ∀ name, name ∈ recorded.map (·.name) ↔
    ∃ target ∈ firstTarget? statement, name ∈ targetNames source target
  /-- Everything that is recorded belongs to the class. -/
  isClassLevel : ∀ found ∈ recorded, found.isClassLevel = true
  /-- No name is recorded twice. -/
  distinct : (recorded.map (·.name)).Nodup
  /-- Every name that is recorded is reported. -/
  reported : ∀ name ∈ recorded.map (·.name), name ∈ assignedNames source statement
  /-- The names that are recorded are those that are reported exactly if the later targets of the
  chain have no others. -/
  agrees_iff :
    (∀ name, name ∈ recorded.map (·.name) ↔ name ∈ assignedNames source statement) ↔
      ∀ target ∈ laterTargets statement, ∀ name ∈ targetNames source target,
        name ∈ recorded.map (·.name)

/-- Every statement records the names of its first target. -/
theorem recordsFirstTarget
    (source : Source)
    (statement : Node) :
    RecordsFirstTarget source statement (recordedBy source statement) := by
  refine ⟨fun name => mem_names_recordedBy, ?_, ?_, ?_, ?_⟩
  · intro found member
    obtain ⟨binding, isFirst, rfl⟩ := List.mem_map.mp member
    exact isClassLevel_of_mem_classBindings ((firstBindings_sublist _).subset isFirst)
  · rw [recordedBy, List.map_map]
    exact nodup_firstBindings _
  · intro name member
    exact mem_assignedNames.mpr (.inl (mem_names_recordedBy.mp member))
  · constructor
    · intro agrees target isLater name isName
      exact (agrees name).mpr (mem_assignedNames.mpr (.inr ⟨target, isLater, isName⟩))
    · intro nothing name
      rw [mem_assignedNames, ← mem_names_recordedBy]
      refine ⟨.inl, ?_⟩
      rintro (isFirst | ⟨target, isLater, isName⟩)
      · exact isFirst
      · exact nothing target isLater name isName

/-- An assignment that stands in the body of a class between earlier and later statements, is come by
and has no name that is bound before. -/
structure StandsFresh
    (source : Source)
    (node : Node)
    (depth : Nat)
    (budget : Budget)
    (earlier later : List Node)
    (statement : Node) :
    Prop where
  /-- The statement stands in the body of the class itself, within limits. -/
  stands : classStatements budget.limits node depth = earlier ++ statement :: later
  isExpression : statement.kind = "expression_statement"
  /-- The budget is not spent before. -/
  isReached :
    visitsThrough source budget.limits (depth + 2) earlier < budget.room - 1
  /-- No name of the statement is bound before. -/
  isFresh : ∀ name ∈ (encountered source budget.limits (depth + 2) (budget.room - 1) earlier).map
    (·.name), name ∉ assignedNames source statement

/-- Where a class has what it records of an assignment. -/
structure RecordsAmid
    (source : Source)
    (earlier later : List Node)
    (statement : Node)
    (attributes : List Attribute) :
    Prop where
  /-- What is recorded stands between what earlier and later statements bind. -/
  stands : ∃ before after, attributes = before ++ recordedBy source statement ++ after ∧
    before <+ (earlier.flatMap (bindingsOf source)).map (·.toAttribute source) ∧
    after <+ (later.flatMap (bindingsOf source)).map (·.toAttribute source)
  /-- It has the names of the first target. -/
  records : RecordsFirstTarget source statement (recordedBy source statement)

/-- A class records the names of the first target of an assignment in its body. -/
theorem class?_recordsAmid
    {source : Source}
    {node : Node}
    {decorators : List String}
    {depth : Nat}
    {budget left : Budget}
    {cls : Facts.Class}
    (isClass : class? source node decorators depth budget = (left, some cls))
    {earlier later : List Node}
    {statement : Node}
    (isFresh : StandsFresh source node depth budget earlier later statement) :
    RecordsAmid source earlier later statement cls.attributes := by
  obtain ⟨room, isRoom⟩ := Nat.exists_eq_add_of_lt isFresh.isReached
  have isLeft : budget.room - 1 - visitsThrough source budget.limits (depth + 2) earlier =
      room + 1 := by
    omega
  have areFresh : freshBindings
      (firstBindings (encountered source budget.limits (depth + 2) (budget.room - 1) earlier))
      (classBindings source statement) = classBindings source statement := by
    refine freshBindings_eq_self fun binding member named => ?_
    have isEarlier := (firstBindings_sublist _).subset member
    exact isFresh.isFresh binding.name (List.mem_map_of_mem isEarlier)
      (mem_assignedNames.mpr (.inl (mem_names_classBindings.mp named)))
  refine ⟨?_, recordsFirstTarget source statement⟩
  -- Attributes are added in three turns: those before the statement, its own and those behind it.
  rw [(attributes_class? isClass).2, encounteredIn, isFresh.stands, encountered_append, isLeft,
    encountered, bindingsWithin_of_expression isFresh.isExpression, ← foldl_addAttribute_nil,
    List.map_append, List.map_append, List.foldl_append, List.foldl_append,
    foldl_addAttribute_nil, foldl_addAttribute, areFresh, foldl_addAttribute, List.map_append,
    List.map_append]
  refine ⟨_, _, rfl, ?_, ?_⟩
  · exact ((firstBindings_sublist _).trans (encountered_sublist _ _ _ _)).map _
  · exact (((firstBindings_sublist _).trans List.filter_sublist).trans
      (encountered_sublist _ _ _ _)).map _

/-- A class with a chain of assignments behind another one. -/
def chainedText : String := "class A:\n    x = 1\n    a = b = x\n"

/-- A word of its text in a field. -/
def chainedWord (field : String) (first : Nat) : Node :=
  .mk { kind := "identifier", field? := some field,
        start := { chars := first }, stop := { chars := first + 1 } } []

/-- The statement `x = 1`. -/
def plainStatement : Node :=
  .mk { kind := "expression_statement" }
    [.mk { kind := "assignment" } [chainedWord "left" 13, chainedWord "right" 17]]

/-- The statement `a = b = x`. -/
def chainedStatement : Node :=
  .mk { kind := "expression_statement" }
    [.mk { kind := "assignment" }
      [chainedWord "left" 23,
       .mk { kind := "assignment", field? := some "right" }
        [chainedWord "left" 27, chainedWord "right" 31]]]

/-- The tree of the class. -/
def chainedClass : Node :=
  .mk { kind := "class_definition" }
    [chainedWord "name" 6,
     .mk { kind := "block", field? := some "body" } [plainStatement, chainedStatement]]

theorem standsFresh_chainedStatement :
    StandsFresh (Source.ofString chainedText) chainedClass 0 {} [plainStatement] []
      chainedStatement where
  stands := rfl
  isExpression := rfl
  isReached := by decide +kernel
  isFresh := by decide +kernel

/-- Of the chain its first target is recorded, behind what is bound before. -/
theorem class?_recordsAmid_chainedClass :
    ∃ left cls,
      class? (Source.ofString chainedText) chainedClass [] 0 {} = (left, some cls) ∧
        StandsFresh (Source.ofString chainedText) chainedClass 0 {} [plainStatement] []
          chainedStatement ∧
        RecordsAmid (Source.ofString chainedText) [plainStatement] [] chainedStatement
          cls.attributes ∧
        cls.attributes.map (·.name) = ["x", "a"] := by
  have names : (class? (Source.ofString chainedText) chainedClass [] 0 {}).2.map
      (·.attributes.map (·.name)) = some ["x", "a"] := by
    decide +kernel
  obtain ⟨cls, isClass, inClass⟩ := Option.map_eq_some_iff.mp names
  exact ⟨_, cls, Prod.ext rfl isClass, standsFresh_chainedStatement,
    class?_recordsAmid (Prod.ext rfl isClass) standsFresh_chainedStatement, inClass⟩

/-- A class does not record the second target of a chain, which a module reports. -/
theorem exists_target_unrecorded :
    ¬ ∀ (source : Source) (node : Node) (decorators : List String) (depth : Nat)
        (budget left : Budget) (cls : Facts.Class) (earlier later : List Node) (statement : Node),
      class? source node decorators depth budget = (left, some cls) →
        StandsFresh source node depth budget earlier later statement →
          ∀ name ∈ assignedNames source statement, name ∈ cls.attributes.map (·.name) := by
  intro agrees
  have names : (class? (Source.ofString chainedText) chainedClass [] 0 {}).2.map
      (·.attributes.map (·.name)) = some ["x", "a"] := by
    decide +kernel
  have reported : assignedNames (Source.ofString chainedText) chainedStatement = ["a", "b"] := by
    decide +kernel
  obtain ⟨cls, isClass, inClass⟩ := Option.map_eq_some_iff.mp names
  have recorded := agrees _ _ _ _ _ _ _ _ _ _ (Prod.ext rfl isClass) standsFresh_chainedStatement
    "b" (by rw [reported]; decide)
  rw [inClass] at recorded
  exact absurd recorded (by decide)

end SourceFacts.Extraction
