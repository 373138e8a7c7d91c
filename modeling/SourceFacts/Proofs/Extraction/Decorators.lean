import SourceFacts.Proofs.Extraction.FanOut
import SourceFacts.Proofs.Extraction.Wording

namespace SourceFacts.Extraction

open Syntax Facts Text List

/-!
# What is recorded of decorators

The text of a decorator is what its node covers behind the sign, and a node covers the comments and
the continued lines among its children as well. A decorator is recorded as its expression where only
blanks stand beside it. The markers of functions and classes go by the name that the text begins
with. A comment behind a call does no harm to it, any other becomes a part of it: markers that the
expression makes are lost, and others are made by what the comment says.
-/

/-! ## Names of decorators -/

theorem toList_before
    (mark : Char)
    (text : String) :
    (before mark text).toList = text.toList.takeWhile (· ≠ mark) :=
  String.toList_ofList

/-- A name ends where the arguments begin, whatever follows them. -/
theorem decoratorName_of_call
    {expression : List Char}
    (isCall : '(' ∈ expression)
    (rest : List Char) :
    decoratorName (String.ofList (expression ++ rest)) =
      decoratorName (String.ofList expression) := by
  have notAll : (expression.takeWhile (· ≠ '(')).length ≠ expression.length := by
    intro all
    have same := (List.takeWhile_prefix _).eq_of_length all
    rw [List.takeWhile_eq_self_iff] at same
    simpa using same '(' isCall
  have sameBefore : before '(' (String.ofList (expression ++ rest)) =
      before '(' (String.ofList expression) := by
    rw [before, before, String.toList_ofList, String.toList_ofList, List.takeWhile_append,
      if_neg notAll]
  rw [decoratorName, sameBefore, decoratorName]

/-- Without arguments, all of a decorator is its name. -/
theorem decoratorName_of_noCall
    {expression : List Char}
    (isTrimmed : IsTrimmed expression)
    (noCall : '(' ∉ expression)
    (rest : List Char) :
    decoratorName (String.ofList (expression ++ rest)) =
      String.ofList (expression ++ dropBlanksEnd (rest.takeWhile (· ≠ '('))) := by
  have trimmed := trim_append isTrimmed [] (rest.takeWhile (· ≠ '('))
  rw [decoratorName, before, String.toList_ofList, takeWhile_ne_append noCall]
  exact trimmed

/-- A name begins like the decorator, unless arguments come first. -/
theorem head?_decoratorName
    {first : Char}
    (noBlank : isBlank first = false)
    (rest : List Char) :
    (decoratorName (String.ofList (first :: rest))).toList.head? =
      if first = '(' then none else some first := by
  rw [decoratorName, trim, toList_before, String.toList_ofList, String.toList_ofList,
    List.takeWhile_cons]
  by_cases isCall : first = '('
  · simp [isCall, dropBlanks, dropBlanksEnd]
  · have ends : EndsWritten [first] := ⟨first, rfl, noBlank⟩
    have kept := dropBlanksEnd_append ends (rest.takeWhile (· ≠ '('))
    rw [if_neg isCall, if_pos (by simpa using isCall), dropBlanks,
      List.dropWhile_cons_of_neg (by simp [noBlank]), ← List.singleton_append, kept]
    rfl

/-! ## Decorators -/

/-- The expression of a decorator, which is the last of its parts. -/
def expressionOf (decorator : Node) : Node := (parts decorator).getLast?.getD decorator

namespace Source

variable (source : Source) (decorator : Node)

/-- What a source says at the expression of a decorator. -/
def expressionText : String := source.textOf (expressionOf decorator)

/-- What stands between the sign of a decorator and its expression. -/
def leading : List Char :=
  source.between (decorator.info.start.chars + 1) (expressionOf decorator).info.start.chars

/-- What stands in a decorator behind its expression. -/
def trailing : List Char :=
  source.between (expressionOf decorator).info.stop.chars decorator.info.stop.chars

end Source

/-- A decorator in a source: a sign and an expression, and beside the expression comments and
continued lines, if anything. -/
structure IsDecorator (source : Source) (decorator : Node) : Prop where
  sign : source.between decorator.info.start.chars (decorator.info.start.chars + 1) = ['@']
  behind : decorator.info.start.chars + 1 ≤ (expressionOf decorator).info.start.chars
  forward : (expressionOf decorator).info.start.chars ≤ (expressionOf decorator).info.stop.chars
  inside : (expressionOf decorator).info.stop.chars ≤ decorator.info.stop.chars
  /-- An expression neither begins nor ends with a blank, and it does not begin like a decorator, a
  comment or a continued line. -/
  isTrimmed : IsTrimmed (source.expressionText decorator).toList
  begins : ∀ c ∈ (source.expressionText decorator).toList.head?, c ≠ '@' ∧ c ∉ layoutMarks
  leads : IsLayout (source.leading decorator)
  trails : IsLayout (source.trailing decorator)
  /-- What is no part of the decorator is not blank, and stands on one side of the expression. -/
  extras : ∀ extra ∈ decorator.children, extra.isExtra = true →
    SomeWritten (source.textOf extra).toList ∧
      (decorator.info.start.chars + 1 ≤ extra.info.start.chars ∧
          extra.info.stop.chars ≤ (expressionOf decorator).info.start.chars ∨
        (expressionOf decorator).info.stop.chars ≤ extra.info.start.chars ∧
          extra.info.stop.chars ≤ decorator.info.stop.chars)

/-- Only blanks stand beside the expression of a decorator. -/
def IsBare (source : Source) (decorator : Node) : Prop :=
  (∀ c ∈ source.leading decorator, isBlank c = true) ∧
    ∀ c ∈ source.trailing decorator, isBlank c = true

/-- Only blanks stand in front of the expression of a decorator, and behind it if it has no
arguments. -/
def IsSpared (source : Source) (decorator : Node) : Prop :=
  (∀ c ∈ source.leading decorator, isBlank c = true) ∧
    ((∀ c ∈ source.trailing decorator, isBlank c = true) ∨
      '(' ∈ (source.expressionText decorator).toList)

namespace IsDecorator

variable {source : Source} {decorator : Node}

theorem between_eq (isDecorator : IsDecorator source decorator) :
    source.between decorator.info.start.chars decorator.info.stop.chars =
      '@' :: (source.leading decorator ++ (source.expressionText decorator).toList ++
        source.trailing decorator) := by
  have inner := source.between_append isDecorator.behind
    (Nat.le_trans isDecorator.forward isDecorator.inside)
  have ending := source.between_append isDecorator.forward isDecorator.inside
  rw [← source.between_append (Nat.le_succ _) (Nat.le_trans isDecorator.behind
      (Nat.le_trans isDecorator.forward isDecorator.inside)),
    isDecorator.sign, ← inner, ← ending, Source.leading, Source.trailing, Source.expressionText,
    Source.toList_textOf, List.append_assoc, List.singleton_append]

/-- What stands behind the sign does not begin with another. -/
theorem dropWhile_sign
    (isDecorator : IsDecorator source decorator)
    (rest : List Char) :
    (source.leading decorator ++ (source.expressionText decorator).toList ++ rest).dropWhile
        (· == '@') =
      source.leading decorator ++ (source.expressionText decorator).toList ++ rest := by
  cases lead : source.leading decorator with
  | nil =>
      obtain ⟨c, isFirst, _⟩ := isDecorator.isTrimmed.begins
      have noSign := (isDecorator.begins c isFirst).1
      obtain ⟨more, text⟩ := List.head?_eq_some_iff.mp isFirst
      rw [text, List.nil_append, List.cons_append,
        List.dropWhile_cons_of_neg (by simpa using noSign)]
  | cons c more =>
      have noSign : c ≠ '@' := by
        rintro rfl
        have isLayout := isDecorator.leads.of_head? (c := '@') (by rw [lead]; rfl)
        revert isLayout
        decide
      rw [List.cons_append, List.cons_append, List.dropWhile_cons_of_neg (by simpa using noSign)]

/-- A decorator is recorded with all that stands beside its expression but blanks. -/
theorem decoratorText_eq (isDecorator : IsDecorator source decorator) :
    source.decoratorText decorator =
      String.ofList (dropBlanks (source.leading decorator) ++
        (source.expressionText decorator).toList ++ dropBlanksEnd (source.trailing decorator)) := by
  have signed : IsTrimmed ('@' :: (source.leading decorator ++
      (source.expressionText decorator).toList)) :=
    isDecorator.isTrimmed.after (by decide) _
  have trimmed := trim_append signed [] (source.trailing decorator)
  have again := trim_append isDecorator.isTrimmed (source.leading decorator)
    (dropBlanksEnd (source.trailing decorator))
  rw [dropBlanksEnd_dropBlanksEnd] at again
  have text : source.trimmedTextOf decorator =
      String.ofList ('@' ::
        (source.leading decorator ++ (source.expressionText decorator).toList ++
          dropBlanksEnd (source.trailing decorator))) := by
    rw [Source.trimmedTextOf, Source.textOf_eq, isDecorator.between_eq]
    exact trimmed
  rw [Source.decoratorText, text, String.toList_ofList,
    List.dropWhile_cons, if_pos (beq_self_eq_true '@'), isDecorator.dropWhile_sign]
  exact again

theorem decoratorText_eq_iff (isDecorator : IsDecorator source decorator) :
    source.decoratorText decorator = source.expressionText decorator ↔ IsBare source decorator := by
  rw [isDecorator.decoratorText_eq, IsBare, ← dropBlanks_eq_nil_iff, ← dropBlanksEnd_eq_nil_iff,
    ← String.toList_inj, String.toList_ofList]
  constructor
  · intro same
    have lengths := congrArg List.length same
    simp only [List.length_append] at lengths
    exact ⟨List.eq_nil_of_length_eq_zero (by omega), List.eq_nil_of_length_eq_zero (by omega)⟩
  · rintro ⟨noLead, noTrail⟩
    rw [noLead, noTrail, List.nil_append, List.append_nil]

/-- A comment or a continued line is a part of what is recorded. -/
theorem not_isBare
    (isDecorator : IsDecorator source decorator)
    {extra : Node}
    (isChild : extra ∈ decorator.children)
    (isExtra : extra.isExtra = true) :
    ¬ IsBare source decorator := by
  rintro ⟨leads, trails⟩
  obtain ⟨⟨c, member, noBlank⟩, side⟩ := isDecorator.extras extra isChild isExtra
  rw [Source.toList_textOf] at member
  have blank : isBlank c = true := by
    rcases side with before | behind
    · exact leads c (source.between_subset before.1 before.2 member)
    · exact trails c (source.between_subset behind.1 behind.2 member)
  rw [noBlank] at blank
  cases blank

/-- What stands in front of an expression takes the place of its name. -/
theorem decoratorName_ne_of_leading
    (isDecorator : IsDecorator source decorator)
    (leads : ¬ ∀ c ∈ source.leading decorator, isBlank c = true) :
    decoratorName (source.decoratorText decorator) ≠
      decoratorName (source.expressionText decorator) := by
  obtain ⟨_, mark, rest, _, isLead, _, isMark⟩ := isDecorator.leads.eq_append leads
  obtain ⟨first, isFirst, noBlank⟩ := isDecorator.isTrimmed.begins
  have noMark := (isDecorator.begins first isFirst).2
  obtain ⟨more, text⟩ := List.head?_eq_some_iff.mp isFirst
  have expression : source.expressionText decorator = String.ofList (first :: more) := by
    rw [← text, String.ofList_toList]
  have noCall : mark ≠ '(' := by
    rintro rfl
    revert isMark
    decide
  rw [isDecorator.decoratorText_eq, isLead, List.cons_append, List.cons_append, expression]
  intro same
  have heads := congrArg (·.toList.head?) same
  rw [head?_decoratorName (isBlank_of_mem_layoutMarks isMark), head?_decoratorName noBlank,
    if_neg noCall] at heads
  split at heads
  · cases heads
  · exact noMark (Option.some.inj heads ▸ isMark)

/-- What stands behind an expression without arguments becomes a part of its name. -/
theorem decoratorName_ne_of_trailing
    (isDecorator : IsDecorator source decorator)
    (leads : ∀ c ∈ source.leading decorator, isBlank c = true)
    (noCall : '(' ∉ (source.expressionText decorator).toList)
    (trails : ¬ ∀ c ∈ source.trailing decorator, isBlank c = true) :
    decoratorName (source.decoratorText decorator) ≠
      decoratorName (source.expressionText decorator) := by
  obtain ⟨blanks, mark, rest, isTrail, _, areBlank, isMark⟩ := isDecorator.trails.eq_append trails
  have noBlank := isBlank_of_mem_layoutMarks isMark
  -- The name is cut at a bracket, which a comment may hold, but not before its mark.
  have noBracket : '(' ∉ blanks ++ [mark] := by
    intro member
    rcases List.mem_append.mp member with isBlank | isLast
    · have blank := areBlank '(' isBlank
      revert blank
      decide
    · rw [← List.mem_singleton.mp isLast] at isMark
      revert isMark
      decide
  have kept : mark ∈ (dropBlanksEnd (source.trailing decorator)).takeWhile (· ≠ '(') := by
    have ends : EndsWritten [mark] := ⟨mark, rfl, noBlank⟩
    rw [isTrail, List.append_cons, dropBlanksEnd_append (ends.append blanks),
      takeWhile_ne_append noBracket]
    simp
  have recorded := decoratorName_of_noCall isDecorator.isTrimmed noCall
    (dropBlanksEnd (source.trailing decorator))
  have written := decoratorName_of_noCall isDecorator.isTrimmed noCall []
  rw [List.append_nil, String.ofList_toList] at written
  rw [isDecorator.decoratorText_eq, dropBlanks_eq_nil_iff.mpr leads, List.nil_append, recorded,
    written]
  intro same
  have nothing : dropBlanksEnd ((dropBlanksEnd (source.trailing decorator)).takeWhile (· ≠ '(')) =
      [] :=
    List.append_cancel_left (String.ofList_injective same)
  have blank := dropBlanksEnd_eq_nil_iff.mp nothing mark kept
  rw [noBlank] at blank
  cases blank

/-- A decorator is known by the name of its expression exactly if comments and continued lines stand
behind a call, if anywhere. -/
theorem decoratorName_eq_iff (isDecorator : IsDecorator source decorator) :
    decoratorName (source.decoratorText decorator) =
        decoratorName (source.expressionText decorator) ↔
      IsSpared source decorator := by
  by_cases leads : ∀ c ∈ source.leading decorator, isBlank c = true
  · by_cases isCall : '(' ∈ (source.expressionText decorator).toList
    · refine iff_of_true ?_ ⟨leads, .inr isCall⟩
      rw [isDecorator.decoratorText_eq, dropBlanks_eq_nil_iff.mpr leads, List.nil_append,
        decoratorName_of_call isCall, String.ofList_toList]
    · by_cases trails : ∀ c ∈ source.trailing decorator, isBlank c = true
      · refine iff_of_true ?_ ⟨leads, .inl trails⟩
        rw [isDecorator.decoratorText_eq_iff.mpr ⟨leads, trails⟩]
      · exact iff_of_false (isDecorator.decoratorName_ne_of_trailing leads isCall trails)
          fun spared => spared.2.elim trails isCall
  · exact iff_of_false (isDecorator.decoratorName_ne_of_leading leads) fun spared => leads spared.1

end IsDecorator

/-! ## Decorated definitions -/

/-- The decorators of the definition that a node is. -/
def decoratorsOf (node : Node) : List Node :=
  if node.kind = "decorated_definition" ∧ (node.child? "definition").isSome = true then
    node.namedChildren.filter (·.kind == "decorator")
  else []

/-- What a source says at the expressions of the decorators of a definition. -/
def Source.expressions (source : Source) (node : Node) : List String :=
  (decoratorsOf node).map source.expressionText

theorem undecorated_snd
    (source : Source)
    (node : Node) :
    (source.undecorated node).2 = (decoratorsOf node).map source.decoratorText := by
  rw [Source.undecorated, decoratorsOf]
  by_cases isDecorated : node.kind = "decorated_definition"
  · rw [if_pos isDecorated]
    cases node.child? "definition" with
    | none =>
        simp
    | some definition =>
        simp [isDecorated, Source.decorators]
  · simp [isDecorated]

/-- How the texts that are recorded for the decorators of a definition depend on what stands beside
their expressions. -/
structure ReadsDecorators (source : Source) (node : Node) (recorded : List String) : Prop where
  /-- Each decorator is recorded with all that stands beside its expression but blanks. -/
  texts : recorded = (decoratorsOf node).map fun decorator =>
    String.ofList (dropBlanks (source.leading decorator) ++
      (source.expressionText decorator).toList ++ dropBlanksEnd (source.trailing decorator))
  /-- The expressions are recorded exactly if all decorators are bare. -/
  exact_iff : recorded = source.expressions node ↔
    ∀ decorator ∈ decoratorsOf node, IsBare source decorator
  /-- They are not if there is a comment or a continued line. -/
  inexact : (∃ decorator ∈ decoratorsOf node, ∃ extra ∈ decorator.children,
    extra.isExtra = true) → recorded ≠ source.expressions node
  /-- The names of the decorators are those of the expressions exactly if all are spared. -/
  names_iff : recorded.map decoratorName = (source.expressions node).map decoratorName ↔
    ∀ decorator ∈ decoratorsOf node, IsSpared source decorator

variable {source : Source} {root node : Node}

theorem readsDecorators_undecorated
    (areDecorators : ∀ decorator ∈ decoratorsOf node, IsDecorator source decorator) :
    ReadsDecorators source node (source.undecorated node).2 := by
  have exact_iff : (source.undecorated node).2 = source.expressions node ↔
      ∀ decorator ∈ decoratorsOf node, IsBare source decorator := by
    rw [undecorated_snd, Source.expressions, List.map_inj_left]
    exact forall₂_congr fun decorator member =>
      (areDecorators decorator member).decoratorText_eq_iff
  refine ⟨?_, exact_iff, ?_, ?_⟩
  · rw [undecorated_snd]
    exact List.map_congr_left fun decorator member =>
      (areDecorators decorator member).decoratorText_eq
  · rintro ⟨decorator, member, extra, isChild, isExtra⟩ same
    exact (areDecorators decorator member).not_isBare isChild isExtra
      (exact_iff.mp same decorator member)
  · rw [undecorated_snd, Source.expressions, List.map_map, List.map_map, List.map_inj_left]
    exact forall₂_congr fun decorator member =>
      (areDecorators decorator member).decoratorName_eq_iff

/-- What goes by the names of decorators is the same for decorators of the same names. -/
theorem any_eq_of_names
    {first second : List String}
    (names : first.map decoratorName = second.map decoratorName)
    (test : String → Bool) :
    first.any (test <| decoratorName ·) = second.any (test <| decoratorName ·) := by
  have tested := congrArg (List.any · test) names
  simpa only [List.any_map, Function.comp_def] using tested

/-! ## Functions and classes -/

/-- A function with the decorators of a node, and with the markers that they make. -/
structure IsMarkedFunction (source : Source) (node : Node) (function : Function) : Prop where
  decorators : ReadsDecorators source node function.decorators
  /-- Where all decorators are spared, the markers are those that the expressions make. -/
  markers : (∀ decorator ∈ decoratorsOf node, IsSpared source decorator) →
    function.isProperty = (source.expressions node).any isPropertyDecorator ∧
      function.isStaticOrClassMethod = (source.expressions node).any isStaticDecorator ∧
      function.decorators.any isAbstractDecorator =
        (source.expressions node).any isAbstractDecorator ∧
      ∀ name, function.hasDecorator name = (source.expressions node).any (decoratorMatches name)

theorem isMarkedFunction_functionOf
    (areDecorators : ∀ decorator ∈ decoratorsOf node, IsDecorator source decorator)
    (definition : Node)
    (name : String)
    (complexity : UInt32)
    (yields : Bool) :
    IsMarkedFunction source node
      (functionOf source definition (source.undecorated node).2 name complexity yields) := by
  have reads := readsDecorators_undecorated areDecorators
  refine ⟨reads, fun spared => ?_⟩
  have tests := any_eq_of_names (reads.names_iff.mpr spared)
  exact ⟨tests fun name => ["property", "cached_property", "abstractproperty"].contains
      (lastPart name) || (["setter", "getter", "deleter"].contains (lastPart name) &&
        name.toList.contains '.'),
    tests fun name => ["staticmethod", "classmethod"].contains name,
    tests fun name => lastPart name == "abstractmethod",
    fun wanted => tests fun name => name == wanted || lastPart name == wanted⟩

/-- A class with the decorators of a node, with the markers that they make, and with methods that
are marked by nodes of the tree. -/
structure IsMarkedClass (source : Source) (root node : Node) (cls : Facts.Class) : Prop where
  decorators : ReadsDecorators source node cls.decorators
  markers : (∀ decorator ∈ decoratorsOf node, IsSpared source decorator) →
    cls.isDataclass = (source.expressions node).any isDataclassDecorator ∧
      ∀ name, cls.hasDecorator name = (source.expressions node).any (decoratorMatches name)
  methods : ∀ method ∈ cls.methods,
    ∃ node, root.Has node ∧ IsMarkedFunction source node method
  /-- Besides its bases and its metaclass, the decorators of methods make a class abstract. -/
  isAbstract : cls.isAbstract =
    (cls.bases.any (lastPart · == "ABC") ||
        (((source.undecorated node).1.child? "superclasses").bind (metaclassOf source)).map
          lastPart == some "ABCMeta" ||
      cls.methods.any (·.decorators.any isAbstractDecorator))

theorem isMarkedClass_classOf
    (areDecorators : ∀ decorator ∈ decoratorsOf node, IsDecorator source decorator)
    (name : Node)
    {collected : ClassBody}
    (methods : ∀ method ∈ collected.methods,
      ∃ node, root.Has node ∧ IsMarkedFunction source node method) :
    IsMarkedClass source root node
      (classOf source (source.undecorated node).1 (source.undecorated node).2 name collected) := by
  have reads := readsDecorators_undecorated areDecorators
  refine ⟨reads, fun spared => ?_, methods, rfl⟩
  have tests := any_eq_of_names (reads.names_iff.mpr spared)
  exact ⟨tests fun name => lastPart name == "dataclass",
    fun wanted => tests fun name => name == wanted || lastPart name == wanted⟩

/-! ## Files -/

/-- A tree in which all decorators are such in a source. -/
def AreDecorated (source : Source) (root : Node) : Prop :=
  ∀ node, root.Has node → ∀ decorator ∈ decoratorsOf node, IsDecorator source decorator

/-- Functions that nodes of a tree mark. -/
def AreMarked (source : Source) (root : Node) (functions : List Function) : Prop :=
  ∀ function ∈ functions, ∃ node, root.Has node ∧ IsMarkedFunction source node function

/-- A function that is made from a definition in a tree is marked by it. -/
theorem AreDecorated.marks
    (decorated : AreDecorated source root) :
    HoldsOfMade source root fun function =>
      ∃ node, root.Has node ∧ IsMarkedFunction source node function := by
  intro node has depth budget
  cases named : source.fieldText? (source.undecorated node).1 "name" with
  | none =>
      rw [function?_of_unnamed named]
      rintro function ⟨⟩
  | some name =>
      rw [function?_of_name named]
      rintro function ⟨⟩
      exact ⟨node, has, isMarkedFunction_functionOf (decorated node has) _ _ _ _⟩

/-- The functions and classes of a file are marked by the decorators of its tree. -/
structure HasMarkers (source : Source) (root : Node) (functions : List Function)
    (classes : List Facts.Class) : Prop where
  functions : AreMarked source root functions
  classes : ∀ cls ∈ classes, ∃ node, root.Has node ∧ IsMarkedClass source root node cls

/-- In a file, decorators are recorded and make markers in this way. -/
theorem model_hasMarkers
    (path text : String)
    {root : Node}
    (decorated : AreDecorated (Source.ofString text) root)
    (budget : Budget) :
    HasMarkers (Source.ofString text) root (model path text root budget).2.functions
      (model path text root budget).2.classes := by
  obtain ⟨functions, classes⟩ := decorated.marks.model path budget
  refine ⟨functions, fun cls member => ?_⟩
  obtain ⟨node, name, _, has, methods, rfl⟩ := classes cls member
  exact ⟨node, has, isMarkedClass_classOf (decorated node has) name methods⟩

/-- What stands below a child stands in the tree. -/
theorem has_of_child
    {child : Node}
    (isChild : child ∈ root.children)
    (below : child.Has node) :
    root.Has node := by
  obtain ⟨place, isThere⟩ := below
  obtain ⟨number, isNumber⟩ := List.mem_iff_getElem?.mp isChild
  refine ⟨number :: place, ?_⟩
  rw [Node.at?, isNumber]
  exact isThere

/-- What stands in a tree is its root or stands below a child. -/
theorem forall_has_mk
    {info : NodeInfo}
    {children : List Node}
    {holds : Node → Prop} :
    (∀ node, (Node.mk info children).Has node → holds node) ↔
      holds (.mk info children) ∧ ∀ child ∈ children, ∀ node, child.Has node → holds node := by
  constructor
  · intro all
    exact ⟨all _ (Node.has_self _), fun child isChild node below =>
      all node (has_of_child isChild below)⟩
  · rintro ⟨atRoot, below⟩ node ⟨place, isThere⟩
    cases place with
    | nil =>
        rw [← Option.some.inj isThere]
        exact atRoot
    | cons number rest =>
        rw [Node.at?, Option.bind_eq_some_iff] at isThere
        obtain ⟨child, isChild, isBelow⟩ := isThere
        exact below child (List.mem_of_getElem? isChild) node ⟨rest, isBelow⟩

/-- A file with a comment behind a decorator. -/
def commentedText : String := "@property  # noqa\ndef f(self):\n    pass\n"

/-- The decorator of the file, with the comment among its children. -/
def commentedDecorator : Node :=
  .mk { kind := "decorator", stop := { chars := 17 } }
    [.mk { kind := "@", isNamed := false, stop := { chars := 1 } } [],
     .mk { kind := "identifier", start := { chars := 1 }, stop := { chars := 9 } } [],
     .mk { kind := "comment", isExtra := true,
           start := { chars := 11 }, stop := { chars := 17 } } []]

/-- The definition under the decorator. -/
def commentedDefinition : Node :=
  .mk { kind := "decorated_definition" }
    [commentedDecorator,
     .mk { kind := "function_definition", field? := some "definition" }
      [.mk { kind := "def", isNamed := false } [],
       .mk { kind := "identifier", field? := some "name",
             start := { chars := 22 }, stop := { chars := 23 } } [],
       .mk { kind := "parameters", field? := some "parameters" }
        [.mk { kind := "(", isNamed := false } [],
         .mk { kind := "identifier", start := { chars := 24 }, stop := { chars := 28 } } [],
         .mk { kind := ")", isNamed := false } []],
       .mk { kind := ":", isNamed := false } [],
       .mk { kind := "block", field? := some "body" }
        [.mk { kind := "pass_statement" } [.mk { kind := "pass", isNamed := false } []]]]]

/-- The tree of the file. -/
def commentedTree : Node := .mk { kind := "module" } [commentedDefinition]

theorem areDecorated_commentedTree :
    AreDecorated (Source.ofString commentedText) commentedTree := by
  have first : ((Source.ofString commentedText).expressionText commentedDecorator).toList.head? =
      some 'p' := by
    decide +kernel
  have isDecorator : IsDecorator (Source.ofString commentedText) commentedDecorator :=
    { sign := by decide +kernel
      behind := by decide +kernel
      forward := by decide +kernel
      inside := by decide +kernel
      isTrimmed := by decide +kernel
      begins := by simp [first, layoutMarks]
      leads := by decide +kernel
      trails := by decide +kernel
      extras := by decide +kernel }
  rw [commentedDecorator] at isDecorator
  rw [AreDecorated, commentedTree, commentedDefinition, commentedDecorator]
  simp [forall_has_mk, decoratorsOf, Node.child?, Node.namedChildren, Node.isNamed, Node.children,
    Node.kind, Node.info, isDecorator]

/-- A file with a comment behind a decorator has its markers in this way. -/
theorem model_hasMarkers_commentedTree :
    AreDecorated (Source.ofString commentedText) commentedTree ∧
      HasMarkers (Source.ofString commentedText) commentedTree
        (model "m.py" commentedText commentedTree {}).2.functions
        (model "m.py" commentedText commentedTree {}).2.classes :=
  ⟨areDecorated_commentedTree, model_hasMarkers _ _ areDecorated_commentedTree _⟩

/-- A comment behind a decorator becomes a part of it, and takes the marker away that the expression
makes. -/
theorem exists_comment_recorded :
    ((model "m.py" commentedText commentedTree {}).2.functions.map
          fun function => (function.decorators, function.isProperty)) =
        [(["property  # noqa"], false)] ∧
      (Source.ofString commentedText).expressions commentedDefinition = ["property"] ∧
      isPropertyDecorator "property" = true ∧
      ¬ ∀ (source : Source) (root : Node), AreDecorated source root →
        ∀ node, root.Has node → (source.undecorated node).2 = source.expressions node := by
  refine ⟨by decide +kernel, by decide +kernel, by decide +kernel, fun exactly => ?_⟩
  have has : commentedTree.Has commentedDefinition :=
    commentedTree.has_self.child List.mem_cons_self
  have same := exactly _ _ areDecorated_commentedTree _ has
  revert same
  decide +kernel

end SourceFacts.Extraction
