import SourceFacts.Facts.Model
import SourceFacts.Proofs.Extraction.Definitions
import SourceFacts.Proofs.Syntax.Growth

namespace SourceFacts.Facts

/-!
# The beginning of what is known of a file

Facts that were collected in a part of a file only. The last function or class may be
known in part; what comes before it is as in the whole file.
-/

/-! ## Lists -/

/-- A list that is empty or begins another one, except that its last element may say less. -/
def BeginsUpTo {α : Type} (begins : α → α → Prop) (first second : List α) : Prop :=
  first = [] ∨
    ∃ before last next after,
      first = before ++ [last] ∧ second = before ++ next :: after ∧ begins last next

namespace BeginsUpTo

variable {α : Type} {begins : α → α → Prop} {first second : List α}

/-- Every list begins itself. -/
theorem refl
    (sameBegins : ∀ element, begins element element)
    (elements : List α) :
    BeginsUpTo begins elements elements := by
  rcases List.eq_nil_or_concat elements with isEmpty | ⟨before, last, isConcat⟩
  · exact Or.inl isEmpty
  · rw [List.concat_eq_append] at isConcat
    exact Or.inr ⟨before, last, last, [], isConcat, isConcat, sameBegins last⟩

/-- More may come after what a list begins. -/
theorem of_prefix
    {third : List α}
    (begun : BeginsUpTo begins first second)
    (grows : second <+: third) :
    BeginsUpTo begins first third := by
  obtain ⟨more, rfl⟩ := grows
  rcases begun with isEmpty | ⟨before, last, next, after, isFirst, isSecond, lastBegins⟩
  · exact Or.inl isEmpty
  · refine Or.inr ⟨before, last, next, after ++ more, isFirst, ?_, lastBegins⟩
    rw [isSecond, List.append_assoc, List.cons_append]

/-- A list with one more element begins the list with more in its place. -/
theorem append_toList
    (sameBegins : ∀ element, begins element element)
    (known : List α)
    {last? next? : Option α}
    (lastBegins : Option.Rel begins last? next?) :
    BeginsUpTo begins (known ++ last?.toList) (known ++ next?.toList) := by
  cases lastBegins with
  | none =>
      exact refl sameBegins _
  | some lastBegins =>
      exact Or.inr ⟨known, _, _, [], rfl, rfl, lastBegins⟩

/-- What some element of a list has, some element of a list that it begins has. -/
theorem any
    {property : α → Bool}
    (begun : BeginsUpTo begins first second)
    (keeps : ∀ {last next}, begins last next → property last = true → property next = true)
    (found : first.any property = true) :
    second.any property = true := by
  rcases begun with rfl | ⟨before, last, next, after, rfl, rfl, lastBegins⟩
  · exact absurd found (by simp)
  · simp only [List.any_append, List.any_cons, List.any_nil, Bool.or_false, Bool.or_eq_true]
      at found ⊢
    exact found.imp_right fun isLast => Or.inl (keeps lastBegins isLast)

end BeginsUpTo

/-! ## Facts -/

/-- What is known of a function of which a part of the body was left out. -/
structure Function.Begins (first second : Function) : Prop where
  same : first =
    { second with complexity := first.complexity, isGenerator := first.isGenerator }
  complexity : first.complexity ≤ second.complexity
  isGenerator : first.isGenerator = true → second.isGenerator = true

/-- What is known of a function if nothing was left out. -/
theorem Function.Begins.refl (function : Function) : function.Begins function :=
  ⟨rfl, UInt32.le_refl _, id⟩

/-- What is known of a class of which a part of the body was left out. -/
structure Class.Begins (first second : Class) : Prop where
  same : first =
    { second with
      methods := first.methods
      attributes := first.attributes
      isAbstract := first.isAbstract }
  methods : BeginsUpTo Function.Begins first.methods second.methods
  attributes : first.attributes <+: second.attributes
  isAbstract : first.isAbstract = true → second.isAbstract = true

/-- What is known of a class if nothing was left out. -/
theorem Class.Begins.refl (cls : Class) : cls.Begins cls :=
  ⟨rfl, BeginsUpTo.refl Function.Begins.refl _, List.prefix_rfl, id⟩

/-- What is known of a file of which a part was left out, if anything was. -/
structure Model.Begins (first second : Model) : Prop where
  same : first =
    { second with
      functions := first.functions
      classes := first.classes
      imports := first.imports
      globals := first.globals
      complexity := first.complexity
      usesTypeHints := first.usesTypeHints
      truncated := first.truncated }
  functions : BeginsUpTo Function.Begins first.functions second.functions
  classes : BeginsUpTo Class.Begins first.classes second.classes
  imports : first.imports <+: second.imports
  globals : first.globals ⊆ second.globals
  complexity : first.complexity ≤ second.complexity
  usesTypeHints : first.usesTypeHints = true → second.usesTypeHints = true
  whole : first.truncated = false → first = second

/-- What is known of a file if nothing was left out. -/
theorem Model.Begins.refl (model : Model) : model.Begins model where
  same := rfl
  functions := BeginsUpTo.refl Function.Begins.refl _
  classes := BeginsUpTo.refl Class.Begins.refl _
  imports := List.prefix_rfl
  globals := List.Subset.refl _
  complexity := UInt32.le_refl _
  usesTypeHints := id
  whole := fun _ => rfl

end SourceFacts.Facts

namespace SourceFacts.Extraction

/-!
# Facts found with a smaller budget

With fewer nodes to visit, what is found is the beginning of what is found with more.
The budgets part at one node at most: every walk that is under way there finishes with
what it has, so that only the definition in which this happens may be known in part.
-/

open Syntax Facts

variable {source : Source} {small large : Budget}

/-! ## Functions -/

/-- What is known of a body of which a part was left out. -/
structure BodySignals.Begins (first second : BodySignals) : Prop where
  decisions : first.decisions ≤ second.decisions
  yields : first.yields = true → second.yields = true

/-- A walk through the body of a function takes back no decision and no yield. -/
theorem bodySignals_grows : (Visitor.ofStep BodySignals.visit).Grows BodySignals.Begins := by
  refine Visitor.grows_ofStep (fun _ => ⟨Nat.le_refl _, id⟩) ?_ ?_
  · intro first second third begun more
    exact ⟨Nat.le_trans begun.decisions more.decisions, more.yields ∘ begun.yields⟩
  · intro node depth signals
    rw [BodySignals.visit]
    split
    · exact ⟨Nat.le_refl _, id⟩
    · exact ⟨Nat.le_add_right _ _, fun yields => by simp [yields]⟩

/-- Complexity grows with the number of decisions. -/
theorem complexityOf_le_complexityOf
    {few many : Nat}
    (fewer : few ≤ many) :
    complexityOf few ≤ complexityOf many := by
  have fits : ∀ decisions, (complexityOf decisions).toNat = min (decisions + 1) 4294967295 := by
    intro decisions
    exact UInt32.toNat_ofNat_of_lt' (Nat.lt_of_le_of_lt (Nat.min_le_right _ _) (by decide))
  rw [UInt32.le_iff_toNat_le, fits, fits]
  omega

/-- A smaller budget may leave out a part of the body of a definition. -/
theorem signalsOf_endsLike
    (node : Node)
    (depth : Nat)
    (inStep : small.InStep large) :
    EndsLike BodySignals.Begins (signalsOf node depth small) (signalsOf node depth large) := by
  rw [signalsOf, signalsOf]
  cases node.child? "body" with
  | none =>
      exact Or.inl ⟨inStep, rfl⟩
  | some body =>
      exact bodySignals_grows.walk_endsLike body (depth + 1) inStep {}

/-- A function that is found with one budget is found with the other, where the smaller
budget may leave out a part of the body. -/
theorem function?_endsLike
    (node : Node)
    (decorators : List String)
    (depth : Nat)
    (inStep : small.InStep large) :
    EndsLike (Option.Rel Function.Begins) (function? source node decorators depth small)
      (function? source node decorators depth large) := by
  cases named : source.fieldText? node "name" with
  | none =>
      rw [function?_of_unnamed named, function?_of_unnamed named]
      exact Or.inl ⟨inStep, rfl⟩
  | some name =>
      rw [function?_of_name named, function?_of_name named]
      refine (signalsOf_endsLike node depth inStep).map (fun signals => some
        (functionOf source node decorators name (complexityOf signals.decisions) signals.yields))
        fun begun => Option.Rel.some ⟨rfl, ?_, begun.yields⟩
      exact complexityOf_le_complexityOf begun.decisions

/-! ## Classes -/

/-- What is collected from a body of which a part was left out. -/
structure ClassBody.Begins (first second : ClassBody) : Prop where
  methods : BeginsUpTo Function.Begins first.methods second.methods
  attributes : first.attributes <+: second.attributes

/-- What is collected if nothing was left out. -/
theorem ClassBody.Begins.refl (collected : ClassBody) : collected.Begins collected :=
  ⟨BeginsUpTo.refl Function.Begins.refl _, List.prefix_rfl⟩

/-- An attribute that is added comes last, if anywhere. -/
theorem prefix_addAttribute
    (known : List Attribute)
    (found : Attribute) :
    known <+: addAttribute known found := by
  rw [addAttribute]
  split
  · exact List.prefix_rfl
  · exact List.prefix_append known [found]

/-- Attributes that are added come last. -/
theorem prefix_foldl_addAttribute
    (known found : List Attribute) :
    known <+: found.foldl addAttribute known := by
  induction found generalizing known with
  | nil =>
      exact List.prefix_rfl
  | cons first rest inductionHypothesis =>
      exact (prefix_addAttribute known first).trans (inductionHypothesis _)

/-- If some attributes begin others, so do the lists to which they are added. -/
theorem foldl_addAttribute_prefix
    (known : List Attribute)
    {first second : List Attribute}
    (begun : first <+: second) :
    first.foldl addAttribute known <+: second.foldl addAttribute known := by
  obtain ⟨more, rfl⟩ := begun
  rw [List.foldl_append]
  exact prefix_foldl_addAttribute _ more

/-- A walk through an initializer takes back no attribute. -/
theorem visitInitializer_grows :
    (Visitor.ofStep (visitInitializer source)).Grows (· <+: ·) := by
  refine Visitor.grows_ofStep (fun _ => List.prefix_rfl) List.IsPrefix.trans ?_
  intro node depth found
  rw [visitInitializer]
  split
  · exact List.prefix_rfl
  · split
    · exact List.prefix_append _ _
    · exact List.prefix_rfl

/-- A smaller budget may leave out a part of an initializer. -/
theorem initializedBy_endsLike
    (node : Node)
    (name : String)
    (depth : Nat)
    (inStep : small.InStep large) :
    EndsLike (· <+: ·) (initializedBy source node name depth small)
      (initializedBy source node name depth large) := by
  rw [initializedBy, initializedBy]
  split
  · exact visitInitializer_grows.walk_endsLike _ (depth + 1) inStep []
  · exact Or.inl ⟨inStep, rfl⟩

/-- With an overdrawn budget nothing is found in an initializer. -/
theorem initializedBy_of_isOverdrawn
    (isOverdrawn : small.IsOverdrawn)
    (node : Node)
    (name : String)
    (depth : Nat) :
    initializedBy source node name depth small = (small, []) := by
  rw [initializedBy]
  split
  · exact walkPending_of_isOverdrawn isOverdrawn _
  · rfl

/-- A method only adds to what is collected. -/
theorem addMethod_adds
    (node : Node)
    (decorators : List String)
    (depth : Nat)
    (budget : Budget)
    (collected : ClassBody) :
    collected.methods <+: (addMethod source node decorators depth budget collected).2.methods ∧
      collected.attributes <+:
        (addMethod source node decorators depth budget collected).2.attributes := by
  rcases isMethod : function? source node decorators depth budget with ⟨after, method?⟩
  cases method? with
  | none =>
      rw [addMethod_of_none isMethod]
      exact ⟨List.prefix_rfl, List.prefix_rfl⟩
  | some method =>
      rw [addMethod_of_some isMethod]
      exact ⟨List.prefix_append _ _, prefix_foldl_addAttribute _ _⟩

/-- A smaller budget may leave out a part of a method. -/
theorem addMethod_endsLike
    (node : Node)
    (decorators : List String)
    (depth : Nat)
    (inStep : small.InStep large)
    (collected : ClassBody) :
    EndsLike ClassBody.Begins (addMethod source node decorators depth small collected)
      (addMethod source node decorators depth large collected) := by
  have ends : EndsLike (Option.Rel Function.Begins)
      (function? source node decorators depth small)
      (function? source node decorators depth large) :=
    function?_endsLike node decorators depth inStep
  rcases first : function? source node decorators depth small with ⟨after, method?⟩
  rcases second : function? source node decorators depth large with ⟨afterLarge, methodLarge?⟩
  rw [first, second] at ends
  rcases ends with ⟨stillInStep, same⟩ | ⟨isOverdrawn, begun⟩
  · dsimp only at same stillInStep
    subst same
    cases method? with
    | none =>
        rw [addMethod_of_none first, addMethod_of_none second]
        exact Or.inl ⟨stillInStep, rfl⟩
    | some method =>
        rw [addMethod_of_some first, addMethod_of_some second]
        exact (initializedBy_endsLike node method.name depth stillInStep).map
          (fun found => ({
            methods := collected.methods ++ [method]
            attributes := found.foldl addAttribute collected.attributes } : ClassBody))
          fun begun => ⟨BeginsUpTo.refl Function.Begins.refl _, foldl_addAttribute_prefix _ begun⟩
  · cases begun with
    | none =>
        rw [addMethod_of_none first, addMethod_of_none second]
        exact Or.inr ⟨isOverdrawn, ClassBody.Begins.refl collected⟩
    | some begun =>
        rw [addMethod_of_some first, addMethod_of_some second,
          initializedBy_of_isOverdrawn isOverdrawn]
        refine Or.inr ⟨isOverdrawn, ?_, prefix_foldl_addAttribute _ _⟩
        exact BeginsUpTo.append_toList Function.Begins.refl collected.methods (.some begun)

/-- A statement only adds to what is collected. -/
theorem addStatement_adds
    (node : Node)
    (depth : Nat)
    (budget : Budget)
    (collected : ClassBody) :
    collected.methods <+: (addStatement source node depth budget collected).2.methods ∧
      collected.attributes <+: (addStatement source node depth budget collected).2.attributes := by
  rw [addStatement]
  split
  · exact addMethod_adds _ _ depth budget collected
  · exact ⟨List.prefix_rfl, prefix_foldl_addAttribute _ _⟩

/-- A smaller budget may leave out a part of a statement. -/
theorem addStatement_endsLike
    (node : Node)
    (depth : Nat)
    (inStep : small.InStep large)
    (collected : ClassBody) :
    EndsLike ClassBody.Begins (addStatement source node depth small collected)
      (addStatement source node depth large collected) := by
  rw [addStatement, addStatement]
  split
  · exact addMethod_endsLike _ _ depth inStep collected
  · exact Or.inl ⟨inStep, rfl⟩

/-- A walk through the body of a class takes back no method and no attribute, and ends early
with a smaller budget. -/
theorem visitClassBody_grows (bodyDepth : Nat) :
    (visitClassBody source bodyDepth).Grows ClassBody.Begins where
  refl := ClassBody.Begins.refl
  alone := by
    intro first state node depth budget begun
    by_cases isBody : depth = bodyDepth
    · rw [isBody, visitClassBody_body]
      exact begun
    · rw [visitClassBody_of_ne source node isBody]
      obtain ⟨methods, attributes⟩ := addStatement_adds node depth budget state
      exact ⟨begun.methods.of_prefix methods, begun.attributes.trans attributes⟩
  answer := by
    intro node depth small large state _
    by_cases isBody : depth = bodyDepth
    · rw [isBody, visitClassBody_body, visitClassBody_body]
    · rw [visitClassBody_of_ne source node isBody, visitClassBody_of_ne source node isBody]
  together := by
    intro node depth small large state inStep
    by_cases isBody : depth = bodyDepth
    · rw [isBody, visitClassBody_body, visitClassBody_body]
      exact Or.inl ⟨inStep, rfl⟩
    · rw [visitClassBody_of_ne source node isBody, visitClassBody_of_ne source node isBody]
      exact addStatement_endsLike node depth inStep state

/-- A smaller budget may leave out a part of the body of a class. -/
theorem collectedOf_endsLike
    (node : Node)
    (depth : Nat)
    (inStep : small.InStep large) :
    EndsLike ClassBody.Begins (collectedOf source node depth small)
      (collectedOf source node depth large) := by
  rw [collectedOf, collectedOf]
  cases node.child? "body" with
  | none =>
      exact Or.inl ⟨inStep, rfl⟩
  | some body =>
      exact (visitClassBody_grows (depth + 1)).walk_endsLike body (depth + 1) inStep {}

/-- A method that is known in part has all its decorators. -/
theorem decorators_eq_of_begins
    {first second : Function}
    (begun : first.Begins second) :
    first.decorators = second.decorators := by
  rw [begun.same]

/-- What is known of a class if a part of its body was left out. -/
theorem classOf_begins
    (node : Node)
    (decorators : List String)
    (name : Node)
    {first second : ClassBody}
    (begun : first.Begins second) :
    (classOf source node decorators name first).Begins
      (classOf source node decorators name second) where
  same := rfl
  methods := begun.methods
  attributes := begun.attributes
  isAbstract := by
    simp only [classOf, Bool.or_eq_true]
    refine Or.imp_right fun hasAbstract => begun.methods.any ?_ hasAbstract
    intro last next lastBegins
    rw [decorators_eq_of_begins lastBegins]
    exact id

/-- A class that is found with one budget is found with the other, where the smaller budget
may leave out a part of the body. -/
theorem class?_endsLike
    (node : Node)
    (decorators : List String)
    (depth : Nat)
    (inStep : small.InStep large) :
    EndsLike (Option.Rel Class.Begins) (class? source node decorators depth small)
      (class? source node decorators depth large) := by
  cases named : node.child? "name" with
  | none =>
      rw [class?_of_unnamed named, class?_of_unnamed named]
      exact Or.inl ⟨inStep, rfl⟩
  | some name =>
      rw [class?_of_name named, class?_of_name named]
      exact (collectedOf_endsLike node depth inStep).map
        (fun collected => some (classOf source node decorators name collected))
        fun begun => Option.Rel.some (classOf_begins node decorators name begun)

/-! ## Definitions -/

/-- What is defined in a file of which a part was left out. -/
structure Definitions.Begins (first second : Definitions) : Prop where
  functions : BeginsUpTo Function.Begins first.functions second.functions
  classes : BeginsUpTo Class.Begins first.classes second.classes
  globals : first.globals ⊆ second.globals

/-- What is defined if nothing was left out. -/
theorem Definitions.Begins.refl (found : Definitions) : found.Begins found :=
  ⟨BeginsUpTo.refl Function.Begins.refl _, BeginsUpTo.refl Class.Begins.refl _,
    List.Subset.refl _⟩

/-- A name that is put in its place leaves the others. -/
theorem subset_insertName
    (name : String)
    (names : List String) :
    names ⊆ insertName name names := by
  induction names with
  | nil =>
      exact List.nil_subset _
  | cons other rest inductionHypothesis =>
      rw [insertName]
      split
      · exact List.Subset.refl _
      · split
        · exact List.subset_cons_self _ _
        · exact List.cons_subset_cons other inductionHypothesis

/-- Names that are put in their places leave the others. -/
theorem subset_foldl_insertName
    (known names : List String) :
    known ⊆ names.foldl (fun known name => insertName name known) known := by
  induction names generalizing known with
  | nil =>
      exact List.Subset.refl _
  | cons name rest inductionHypothesis =>
      exact List.Subset.trans (subset_insertName name known) (inductionHypothesis _)

/-- A node at the level of the module only adds to what is found. -/
theorem addModuleLevel_adds
    (node : Node)
    (depth : Nat)
    (budget : Budget)
    (found : Definitions) :
    found.functions <+: (addModuleLevel source node depth budget found).2.functions ∧
      found.classes <+: (addModuleLevel source node depth budget found).2.classes ∧
      found.globals ⊆ (addModuleLevel source node depth budget found).2.globals := by
  simp only [addModuleLevel]
  split
  · exact ⟨List.prefix_append _ _, List.prefix_rfl, List.Subset.refl _⟩
  · split
    · exact ⟨List.prefix_rfl, List.prefix_append _ _, List.Subset.refl _⟩
    · exact ⟨List.prefix_rfl, List.prefix_rfl, subset_foldl_insertName _ _⟩

/-- A smaller budget may leave out a part of a node at the level of the module. -/
theorem addModuleLevel_endsLike
    (node : Node)
    (depth : Nat)
    (inStep : small.InStep large)
    (found : Definitions) :
    EndsLike Definitions.Begins (addModuleLevel source node depth small found)
      (addModuleLevel source node depth large found) := by
  simp only [addModuleLevel]
  split
  · refine (function?_endsLike _ _ depth inStep).map
      (fun function? => { found with functions := found.functions ++ function?.toList }) ?_
    intro first second begun
    exact ⟨BeginsUpTo.append_toList Function.Begins.refl found.functions begun,
      BeginsUpTo.refl Class.Begins.refl _, List.Subset.refl _⟩
  · split
    · refine (class?_endsLike _ _ depth inStep).map
        (fun class? => { found with classes := found.classes ++ class?.toList }) ?_
      intro first second begun
      exact ⟨BeginsUpTo.refl Function.Begins.refl _,
        BeginsUpTo.append_toList Class.Begins.refl found.classes begun, List.Subset.refl _⟩
    · exact Or.inl ⟨inStep, rfl⟩

/-- A walk at the level of the module takes back nothing, and ends early with a smaller
budget. -/
theorem visitModuleLevel_grows : (visitModuleLevel source).Grows Definitions.Begins where
  refl := Definitions.Begins.refl
  alone := by
    intro first state node depth budget begun
    rw [visitModuleLevel_eq]
    obtain ⟨functions, classes, globals⟩ := addModuleLevel_adds node depth budget state
    exact ⟨begun.functions.of_prefix functions, begun.classes.of_prefix classes,
      List.Subset.trans begun.globals globals⟩
  answer := by
    intro node depth small large state _
    rw [visitModuleLevel_eq, visitModuleLevel_eq]
  together := by
    intro node depth small large state inStep
    rw [visitModuleLevel_eq, visitModuleLevel_eq]
    exact addModuleLevel_endsLike node depth inStep state

/-! ## Files -/

/-- What is found anywhere in a file of which a part was left out. -/
structure Occurrences.Begins (first second : Occurrences) : Prop where
  imports : first.imports <+: second.imports
  decisions : first.decisions ≤ second.decisions
  usesTypeHints : first.usesTypeHints = true → second.usesTypeHints = true

/-- A walk through a file takes back no import, no decision and no type hint. -/
theorem visitAnywhere_grows :
    (Visitor.ofStep (visitAnywhere source)).Grows Occurrences.Begins := by
  refine Visitor.grows_ofStep (fun _ => ⟨List.prefix_rfl, Nat.le_refl _, id⟩) ?_ ?_
  · intro first second third begun more
    exact ⟨begun.imports.trans more.imports, Nat.le_trans begun.decisions more.decisions,
      more.usesTypeHints ∘ begun.usesTypeHints⟩
  · intro node depth found
    rw [visitAnywhere]
    split
    · exact ⟨List.prefix_append _ _, Nat.le_refl _, id⟩
    · exact ⟨List.prefix_rfl, Nat.le_add_right _ _, fun hints => by simp [hints]⟩

/-- What is known of a file of which a part was left out. -/
theorem modelOf_begins
    (path : String)
    (text : String)
    (root : Node)
    {first second : Definitions}
    {anywhere more : Occurrences}
    (definitions : first.Begins second)
    (occurrences : anywhere.Begins more)
    (truncated : Bool) :
    (modelOf path text root first anywhere true).Begins
      (modelOf path text root second more truncated) where
  same := rfl
  functions := definitions.functions
  classes := definitions.classes
  imports := occurrences.imports
  globals := definitions.globals
  complexity := complexityOf_le_complexityOf occurrences.decisions
  usesTypeHints := occurrences.usesTypeHints
  whole := fun isWhole => absurd isWhole Bool.noConfusion

/-- A file of which fewer nodes may be visited is known in part, if it has more nodes, and
otherwise in the same way. -/
theorem model_begins
    (path : String)
    (text : String)
    (root : Node)
    (maxDepth maxChildren : Nat)
    {few many : Nat}
    (fewer : few ≤ many) :
    (model path text root { limits := { maxDepth, maxNodes := few, maxChildren } }).2.Begins
      (model path text root { limits := { maxDepth, maxNodes := many, maxChildren } }).2 := by
  have inStep : Budget.InStep { limits := { maxDepth, maxNodes := few, maxChildren } }
      { limits := { maxDepth, maxNodes := many, maxChildren } } :=
    ⟨rfl, rfl, rfl, rfl, fewer⟩
  have definitions : EndsLike Definitions.Begins
      (walk (visitModuleLevel (Source.ofString text)) root 0 _ {})
      (walk (visitModuleLevel (Source.ofString text)) root 0 _ {}) :=
    visitModuleLevel_grows.walk_endsLike root 0 inStep {}
  have anywhere :
      (Visitor.ofStep (visitAnywhere (Source.ofString text))).Grows Occurrences.Begins :=
    visitAnywhere_grows
  rw [model_eq, model_eq]
  dsimp only
  rcases definitions with ⟨stillInStep, same⟩ | ⟨isOverdrawn, begun⟩
  · rw [same]
    rcases anywhere.walk_endsLike root 0 stillInStep {} with
      ⟨finallyInStep, sameAnywhere⟩ | ⟨isOverdrawn, begunAnywhere⟩
    · rw [sameAnywhere, finallyInStep.truncated]
      exact Model.Begins.refl _
    · rw [isOverdrawn.truncated]
      exact modelOf_begins path text root (Definitions.Begins.refl _) begunAnywhere _
  · rw [walk_of_isOverdrawn isOverdrawn, isOverdrawn.truncated]
    exact modelOf_begins path text root begun (anywhere.walk_begins root 0 _ {}) _

/-- After three nodes it is not known yet that a function yields. -/
theorem model_begins_generatorTree :
    3 ≤ 7 ∧
      (model "f.py" "def f():\n yield" generatorTree { limits := { maxNodes := 3 } }).2.Begins
        (model "f.py" "def f():\n yield" generatorTree { limits := { maxNodes := 7 } }).2 ∧
      (model "f.py" "def f():\n yield" generatorTree
        { limits := { maxNodes := 3 } }).2.functions.map (·.isGenerator) = [false] ∧
      (model "f.py" "def f():\n yield" generatorTree
        { limits := { maxNodes := 7 } }).2.functions.map (·.isGenerator) = [true] :=
  ⟨by decide, model_begins _ _ _ _ _ (by decide), by decide +kernel, by decide +kernel⟩

end SourceFacts.Extraction
