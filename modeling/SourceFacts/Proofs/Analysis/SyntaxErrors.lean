import SourceFacts.Proofs.Extraction.Completeness
import SourceFacts.Python.Parser

namespace SourceFacts.Analysis

/-!
# Errors in syntax trees

The search for errors keeps the nodes that wait on a list, leaves alone what has no error in it and
ends when enough are found. In a tree whose nodes tell whether there is an error at or below them,
it finds the first of those errors that are not inside others, in preorder, and the first of them
is the first error of all. So a text is refused with the line of its first error if and only if it
has one, and no statement of the module or of the body of one of its classes is free of them.
-/

open Grammar Syntax Facts
open Extraction (allNodes)

namespace Parsed

/-! ## Faults -/

/-- Whether a node is an error: it covers text that fits nowhere, or it is missing. -/
def isFault (node : Node) : Bool := node.isError || node.isMissing

/-- The errors in a tree, in preorder. -/
def faults (root : Node) : List Node := (allNodes root).filter isFault

/-- The errors in a tree that are not inside others, in preorder. -/
def outermostFaults (root : Node) : List Node :=
  (root.within fun node => !isFault node).filter isFault

/-- The nodes of a tree tell whether there is an error at or below them. -/
def TellsFaults (root : Node) : Prop :=
  ∀ node ∈ allNodes root, node.hasError = true ↔ faults node ≠ []

/-- A node is an error of a text if and only if it is one of a tree. -/
theorem isSome_error? (node : Node) : (error? node).isSome = isFault node := by
  rw [error?, isFault]
  cases node.isError <;> cases node.isMissing <;> rfl

theorem allNodes_eq (root : Node) : allNodes root = root :: root.children.flatMap allNodes := by
  rw [allNodes, Node.within_eq]
  rfl

theorem faults_eq (root : Node) :
    faults root = (if isFault root then [root] else []) ++ root.children.flatMap faults := by
  rw [faults, allNodes_eq, List.filter_cons, List.filter_flatMap]
  split <;> rfl

theorem outermostFaults_eq (root : Node) :
    outermostFaults root =
      if isFault root then [root] else root.children.flatMap outermostFaults := by
  rw [outermostFaults, Node.within_eq, List.filter_cons]
  cases isFault root with
  | true =>
      rfl
  | false =>
      rw [Bool.not_false, if_pos rfl, List.filter_flatMap]
      rfl

/-- The first item of parts that begin alike is the same. -/
theorem head?_flatMap_congr
    {parts others : α → List β}
    {items : List α}
    (alike : ∀ item ∈ items, (parts item).head? = (others item).head?) :
    (items.flatMap parts).head? = (items.flatMap others).head? := by
  induction items with
  | nil =>
      rfl
  | cons item rest inductionHypothesis =>
      rw [List.forall_mem_cons] at alike
      rw [List.flatMap_cons, List.flatMap_cons, List.head?_append, List.head?_append, alike.1,
        inductionHypothesis alike.2]

/-- The first of the outermost errors is the first of all. -/
theorem head?_outermostFaults (root : Node) :
    (outermostFaults root).head? = (faults root).head? := by
  have below : ∀ child ∈ root.children,
      (outermostFaults child).head? = (faults child).head? :=
    fun child isChild => head?_outermostFaults child
  rw [outermostFaults_eq, faults_eq]
  split
  · rfl
  · rw [List.nil_append]
    exact head?_flatMap_congr below
termination_by root.count
decreasing_by exact Node.count_lt_of_mem isChild

/-- There is an error if and only if one is outermost. -/
theorem outermostFaults_eq_nil_iff (root : Node) :
    outermostFaults root = [] ↔ faults root = [] := by
  rw [← List.head?_eq_none_iff, ← List.head?_eq_none_iff, head?_outermostFaults]

theorem TellsFaults.child
    {node child : Node}
    (tells : TellsFaults node)
    (isChild : child ∈ node.children) :
    TellsFaults child := by
  intro inner isInner
  refine tells inner ?_
  rw [allNodes_eq]
  exact List.mem_cons_of_mem node (List.mem_flatMap.mpr ⟨child, isChild, isInner⟩)

theorem TellsFaults.hasError_eq_false_iff
    {node : Node}
    (tells : TellsFaults node) :
    node.hasError = false ↔ faults node = [] := by
  have isNode : node ∈ allNodes node := by
    rw [allNodes_eq]
    exact List.mem_cons_self
  rw [← Bool.not_eq_true, tells node isNode, Classical.not_not]

/-! ## The search -/

/-- Children that are left alone have no errors. -/
theorem flatMap_filter_isSuspect
    {nodes : List Node}
    (tells : ∀ node ∈ nodes, TellsFaults node) :
    (nodes.filter isSuspect).flatMap outermostFaults = nodes.flatMap outermostFaults := by
  induction nodes with
  | nil =>
      rfl
  | cons node rest inductionHypothesis =>
      rw [List.forall_mem_cons] at tells
      rw [List.filter_cons, List.flatMap_cons]
      split
      next =>
        rw [List.flatMap_cons, inductionHypothesis tells.2]
      next isClear =>
        have noError : node.hasError = false := by
          rw [isSuspect, Bool.not_eq_true, Bool.or_eq_false_iff] at isClear
          exact isClear.1
        rw [(outermostFaults_eq_nil_iff node).mpr (tells.1.hasError_eq_false_iff.mp noError),
          List.nil_append, inductionHypothesis tells.2]

/-- The search finds the outermost errors of the nodes that wait, as many as may be reported. -/
theorem map_searchErrors
    {waiting : List Node}
    {found : List ParseError}
    (tells : ∀ node ∈ waiting, TellsFaults node)
    (few : found.length ≤ maxReportedErrors) :
    (searchErrors waiting found).map some =
      found.map some ++
        ((waiting.flatMap outermostFaults).take (maxReportedErrors - found.length)).map error? := by
  fun_induction searchErrors waiting found with
  | case1 found =>
      simp
  | case2 found node rest isFull =>
      rw [Nat.sub_eq_zero_of_le isFull]
      simp
  | case3 found node rest isLeft error isError inductionHypothesis =>
      rw [List.forall_mem_cons] at tells
      have isHere : isFault node = true := by
        rw [← isSome_error?, isError]
        rfl
      have room : maxReportedErrors - found.length =
          maxReportedErrors - (found ++ [error]).length + 1 := by
        rw [List.length_append, List.length_singleton]
        omega
      have fewStill : (found ++ [error]).length ≤ maxReportedErrors := by
        rw [List.length_append, List.length_singleton]
        omega
      rw [inductionHypothesis tells.2 fewStill, List.flatMap_cons, outermostFaults_eq node,
        if_pos isHere, List.singleton_append, room, List.take_succ_cons, List.map_cons, isError,
        List.map_append, List.append_assoc]
      rfl
  | case4 found node rest isLeft isNone inductionHypothesis =>
      rw [List.forall_mem_cons] at tells
      have isHere : isFault node = false := by
        rw [← isSome_error?, isNone]
        rfl
      have tellsBelow : ∀ child ∈ node.children, TellsFaults child :=
        fun child isChild => tells.1.child isChild
      have tellsWaiting : ∀ other ∈ node.children.filter isSuspect ++ rest, TellsFaults other := by
        rw [List.forall_mem_append]
        exact ⟨fun child kept => tellsBelow child (List.mem_filter.mp kept).1, tells.2⟩
      rw [inductionHypothesis tellsWaiting few, List.flatMap_append,
        flatMap_filter_isSuspect tellsBelow, List.flatMap_cons, outermostFaults_eq node, isHere,
        if_neg Bool.false_ne_true]

variable {root : Node}

/-- The errors that are reported are the first of the outermost ones. -/
theorem map_reportedErrors (tells : TellsFaults root) :
    (reportedErrors root).map some =
      ((outermostFaults root).take maxReportedErrors).map error? := by
  have few : ([] : List ParseError).length ≤ maxReportedErrors := Nat.zero_le _
  have searched := map_searchErrors (List.forall_mem_singleton.mpr tells) few
  rwa [List.flatMap_singleton] at searched

/-- No errors are reported if and only if there are none. -/
theorem reportedErrors_eq_nil_iff (tells : TellsFaults root) :
    reportedErrors root = [] ↔ root.hasError = false := by
  rw [tells.hasError_eq_false_iff, ← outermostFaults_eq_nil_iff, ← List.map_eq_nil_iff,
    map_reportedErrors tells, List.map_eq_nil_iff, List.take_eq_nil_iff]
  exact or_iff_right (by decide)

/-- The first error that is reported is the first error of all. -/
theorem head?_reportedErrors (tells : TellsFaults root) :
    (reportedErrors root).head? = (faults root).head?.bind error? := by
  have first := congrArg List.head? (map_reportedErrors tells)
  rw [List.head?_map, List.head?_map, List.head?_take, if_neg (by decide),
    head?_outermostFaults] at first
  cases isFirst : (faults root).head? with
  | none =>
      rw [isFirst] at first
      exact Option.map_eq_none_iff.mp first
  | some fault =>
      rw [isFirst, Option.map_some, Option.map_eq_some_iff] at first
      obtain ⟨error, isReported, isError⟩ := first
      rw [isReported, Option.bind_some, isError]

/-! ## Statements -/

/-- Whether nodes of a kind are statements. -/
def isStatementKind (kind : String) : Bool :=
  Text.endsWith kind "_statement" || Text.endsWith kind "_definition"

/-- The names of rules of which a rule is one. -/
def alternatives : Rule String → List String
  | .symbol name => [name]
  | .either left right => alternatives left ++ alternatives right
  | _ => []

/-- The rules that are a rule of the language, by its name. -/
def ruleAlternatives (name : String) : List String :=
  ((Python.grammar.rules.lookup name).map alternatives).getD []

/-- The kinds of statements are the simple and the compound statements of the language. -/
theorem isStatementKind_iff :
    ∀ kind ∈ Python.grammar.rules.map (·.1),
      isStatementKind kind = true ∧ kind ∉ Python.grammar.supertypes ∧ kind ≠ "_statement" ↔
      kind ∈ ruleAlternatives "_simple_statement" ++ ruleAlternatives "_compound_statement" := by
  decide +kernel

/-- Whether a node is a statement. -/
def isStatement (node : Node) : Bool := isStatementKind node.kind && !node.isExtra

/-- The statements in a node. -/
def statementsOf (node : Node) : List Node := node.namedChildren.filter isStatement

/-- The bodies of the classes in a node, which may be decorated. -/
def classBodies (node : Node) : List Node :=
  node.namedChildren.filterMap fun child => (classDefinition? child).bind (·.child? "body")

/-- The statements of a module and of the bodies of its classes. -/
def statements (root : Node) : List Node :=
  statementsOf root ++ (classBodies root).flatMap statementsOf

/-- A class definition is the node itself or a child of it. -/
theorem eq_or_mem_of_classDefinition?
    {node definition : Node}
    (isDefinition : classDefinition? node = some definition) :
    definition = node ∨ definition ∈ node.children := by
  rw [classDefinition?] at isDefinition
  split at isDefinition
  · exact .inl (Option.some.inj isDefinition).symm
  · exact .inr (List.mem_of_find?_eq_some (Option.eq_some_of_filter_eq_some isDefinition))
  · cases isDefinition

theorem TellsFaults.classBody
    {body : Node}
    (tells : TellsFaults root)
    (isBody : body ∈ classBodies root) :
    TellsFaults body := by
  obtain ⟨node, isNamed, found⟩ := List.mem_filterMap.mp isBody
  obtain ⟨definition, isDefinition, isChild⟩ := Option.bind_eq_some_iff.mp found
  have tellsNode := tells.child (List.mem_filter.mp isNamed).1
  have inside : body ∈ definition.children := List.mem_of_find?_eq_some isChild
  rcases eq_or_mem_of_classDefinition? isDefinition with rfl | isBelow
  · exact tellsNode.child inside
  · exact (tellsNode.child isBelow).child inside

/-- A node has a clean statement if and only if one of its statements is free of errors. -/
theorem TellsFaults.any_isCleanStatement
    {node : Node}
    (tells : TellsFaults node) :
    node.namedChildren.any isCleanStatement = true ↔
      ∃ statement ∈ statementsOf node, faults statement = [] := by
  rw [List.any_eq_true]
  refine exists_congr fun child => ?_
  rw [statementsOf, List.mem_filter, and_assoc]
  refine and_congr_right fun isNamed => ?_
  rw [← (tells.child (List.mem_filter.mp isNamed).1).hasError_eq_false_iff, isCleanStatement,
    isStatement, isStatementKind, Bool.and_eq_true, Bool.not_eq_true']

/-- A module can be used if and only if one of its statements is free of errors. -/
theorem hasUsableStatement_iff (tells : TellsFaults root) :
    hasUsableStatement root = true ↔
      root.kind = "module" ∧ ∃ statement ∈ statements root, faults statement = [] := by
  have inClasses : root.namedChildren.any isUsableClass = true ↔
      ∃ body ∈ classBodies root, ∃ statement ∈ statementsOf body, faults statement = [] := by
    rw [List.any_eq_true]
    constructor
    · rintro ⟨node, isNamed, isUsable⟩
      rw [isUsableClass] at isUsable
      split at isUsable
      next => cases isUsable
      next body found =>
        have isBody : body ∈ classBodies root := List.mem_filterMap.mpr ⟨node, isNamed, found⟩
        exact ⟨body, isBody, (tells.classBody isBody).any_isCleanStatement.mp isUsable⟩
    · rintro ⟨body, isBody, isUsable⟩
      obtain ⟨node, isNamed, found⟩ := List.mem_filterMap.mp isBody
      refine ⟨node, isNamed, ?_⟩
      rw [isUsableClass, found]
      exact (tells.classBody isBody).any_isCleanStatement.mpr isUsable
  have either : (root.namedChildren.any fun node => isCleanStatement node || isUsableClass node) =
      (root.namedChildren.any isCleanStatement || root.namedChildren.any isUsableClass) := by
    rw [Bool.eq_iff_iff]
    simp only [List.any_eq_true, Bool.or_eq_true, and_or_left, exists_or]
  rw [hasUsableStatement, Bool.and_eq_true, beq_iff_eq, either, Bool.or_eq_true,
    tells.any_isCleanStatement, inClasses]
  refine and_congr_right fun _ => ?_
  simp only [statements, List.mem_append, List.mem_flatMap, or_and_right, exists_or]
  refine or_congr_right ⟨?_, ?_⟩
  · rintro ⟨body, isBody, statement, isStatement, isFree⟩
    exact ⟨statement, ⟨body, isBody, isStatement⟩, isFree⟩
  · rintro ⟨statement, ⟨body, isBody, isStatement⟩, isFree⟩
    exact ⟨body, isBody, statement, isStatement, isFree⟩

/-! ## The verdict on a tree -/

/-- What is made of a tree with or without errors. -/
structure IsJudged (root : Node) : Prop where
  /-- The first hundred of the outermost errors are reported, in preorder. -/
  errors : (reportedErrors root).map some = ((outermostFaults root).take 100).map error?
  /-- No errors are reported if and only if the tree has none. -/
  errors_eq_nil_iff : reportedErrors root = [] ↔ root.hasError = false
  /-- The tree is refused if and only if it has errors, and is no module or has no statement that
  is free of them, itself in the module or in the body of a class of it. -/
  refused_iff : (∃ failure, ofTree root = .error failure) ↔
    root.hasError = true ∧
      (root.kind ≠ "module" ∨ ∀ statement ∈ statements root, faults statement ≠ [])
  /-- It is refused with the line of its first error. -/
  failure : ∀ failure, ofTree root = .error failure →
    ∃ fault, (faults root).head? = some fault ∧
      failure = .syntaxError (Span.lineOf fault.info.start)
  /-- Otherwise it is used as it is, with the errors that are reported. -/
  parsed : ∀ parsed, ofTree root = .ok parsed →
    parsed = { root, errors := reportedErrors root }
  /-- This is what parsing a text with this tree comes to, unless there is no time for it. -/
  parse : ∀ timeout text, timeout ≠ 0 → Python.tree? text = some root →
    Python.parse timeout text = ofTree root

/-- The span of an error begins where the node does. -/
theorem startLine_of_error?
    {node : Node}
    {error : ParseError}
    (isError : error? node = some error) :
    error.span.startLine = Span.lineOf node.info.start := by
  rw [error?] at isError
  split at isError
  · rw [← Option.some.inj isError]
    rfl
  · split at isError
    · rw [← Option.some.inj isError]
      rfl
    · cases isError

/-- Every tree whose nodes tell whether there are errors is judged in this way. -/
theorem TellsFaults.isJudged (tells : TellsFaults root) : IsJudged root where
  errors := map_reportedErrors tells
  errors_eq_nil_iff := reportedErrors_eq_nil_iff tells
  refused_iff := by
    have unusable : hasUsableStatement root = false ↔
        root.kind ≠ "module" ∨ ∀ statement ∈ statements root, faults statement ≠ [] := by
      rw [← Bool.not_eq_true, hasUsableStatement_iff tells,
        Classical.not_and_iff_not_or_not]
      simp only [not_exists, not_and]
    rw [← unusable, ofTree]
    cases root.hasError <;> cases hasUsableStatement root <;> simp
  failure := by
    intro failure isRefused
    rw [ofTree] at isRefused
    split at isRefused
    next isHopeless =>
      rw [Bool.and_eq_true] at isHopeless
      have first := head?_reportedErrors tells
      cases isFirst : (faults root).head? with
      | none =>
          rw [List.head?_eq_none_iff, ← tells.hasError_eq_false_iff, isHopeless.1] at isFirst
          cases isFirst
      | some fault =>
          have isFault : (error? fault).isSome = true := by
            rw [isSome_error?]
            exact (List.mem_filter.mp (List.mem_of_head? isFirst)).2
          obtain ⟨error, isError⟩ := Option.isSome_iff_exists.mp isFault
          rw [first, isFirst, Option.bind_some, isError] at isRefused
          refine ⟨fault, rfl, ?_⟩
          rw [← Except.error.inj isRefused, ← startLine_of_error? isError]
          rfl
    next => cases isRefused
  parsed := by
    intro parsed isUsed
    rw [ofTree] at isUsed
    split at isUsed
    · cases isUsed
    · exact (Except.ok.inj isUsed).symm
  parse := by
    intro timeout text hasTime isTree
    rw [Python.parse, if_neg hasTime, isTree]

/-- A module with a class whose only statement lacks something, and a piece that fits nowhere. -/
def hopelessTree : Node :=
  .mk { kind := "module", hasError := true } [
    .mk { kind := "class_definition", hasError := true } [
      .mk { kind := "block", hasError := true, field? := some "body", start := { rows := 1 } } [
        .mk { kind := "return_statement", hasError := true, start := { rows := 1 } } [
          .mk { kind := "identifier", isMissing := true, hasError := true,
                start := { rows := 1 } } []]]],
    .mk { kind := "ERROR", isError := true, hasError := true, start := { rows := 2 } } [
      .mk { kind := "def", isNamed := false, start := { rows := 2 } } []]]

/-- It is refused with the line of what is missing. -/
theorem TellsFaults.isJudged_hopelessTree :
    TellsFaults hopelessTree ∧ IsJudged hopelessTree ∧
      ofTree hopelessTree = .error (.syntaxError 2) := by
  have tells : TellsFaults hopelessTree := by
    unfold TellsFaults
    decide +kernel
  have refused : ∃ failure, ofTree hopelessTree = .error failure := by
    refine tells.isJudged.refused_iff.mpr ⟨rfl, .inr ?_⟩
    decide +kernel
  obtain ⟨failure, isRefused⟩ := refused
  obtain ⟨fault, isFirst, rfl⟩ := tells.isJudged.failure failure isRefused
  have line : (faults hopelessTree).head?.map (Span.lineOf ·.info.start) = some 2 := by
    decide +kernel
  rw [isFirst] at line
  have isLine : Span.lineOf fault.info.start = 2 := Option.some.inj line
  rw [isRefused, isLine]
  exact ⟨tells, tells.isJudged, rfl⟩

end Parsed

end SourceFacts.Analysis
