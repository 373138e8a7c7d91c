import SourceFacts.Proofs.Extraction.Definitions
import SourceFacts.Proofs.Syntax.Calls

namespace SourceFacts.Extraction

/-!
# The depths of visits

The walks for the structure of a file are told at which depth they begin: those through the bodies
of definitions one below the definition. A definition under decorators stands for the decorated
definition, so that it is given the depth of that one although it is a child of it. Every visit
comes with its distance from the root of the file less the number of decorated definitions that
were opened on the way, and where a walk begins its depth may be one more than the limit.
-/

open Syntax

/-! ## Walks for the structure of a file -/

/-- A node at a spot, with the places of the decorated definitions that were opened on the way. -/
structure Site where
  spot : Spot
  opened : List (List Nat) := []

/-- A walk: where it begins, and the spots that it visits in order. -/
structure Walk where
  start : Site
  visits : List Spot

/-- The visits of some walks. -/
def visitCount (walks : List Walk) : Nat := total (·.visits.length) walks

namespace Site

/-- The walk that begins at a site with a budget and what is found. -/
def walk (site : Site) (visit : Visitor σ) (budget : Budget) (state : σ) : Walk :=
  ⟨site, (calls visit site.spot budget state).map (·.spot)⟩

/-- The definition that a site stands for; one under decorators keeps the depth. -/
def undecorated (site : Site) : Site :=
  if site.spot.node.kind = "decorated_definition" then
    match site.spot.child? "definition" site.spot.depth with
    | some definition => ⟨definition, site.opened ++ [site.spot.place]⟩
    | none => site
  else site

/-- The body of the definition at a site. -/
def body? (site : Site) : Option Site :=
  (site.spot.child? "body" (site.spot.depth + 1)).map fun body => ⟨body, site.opened⟩

/-- The walk through the body of a definition that counts its decisions. -/
def signalWalks (site : Site) (budget : Budget) : List Walk :=
  site.body?.toList.map fun body => body.walk (Visitor.ofStep BodySignals.visit) budget {}

/-- The walks for the facts about a function. -/
def functionWalks (source : Source) (site : Site) (budget : Budget) : List Walk :=
  match source.fieldText? site.spot.node "name" with
  | none => []
  | some _ => site.signalWalks budget

/-- The walk through the body of an initializer that finds attributes. -/
def initializerWalks (source : Source) (site : Site) (name : String) (budget : Budget) :
    List Walk :=
  if name = "__init__" then
    site.body?.toList.map fun body => body.walk (Visitor.ofStep (visitInitializer source)) budget []
  else []

/-- The walks for the facts about a method. -/
def methodWalks (source : Source) (site : Site) (budget : Budget) : List Walk :=
  match source.fieldText? site.spot.node "name" with
  | none => []
  | some name =>
      site.signalWalks budget ++
        site.initializerWalks source name (signalsOf site.spot.node site.spot.depth budget).1

/-- The walks that begin at a statement in the body of a class. -/
def statementWalks (source : Source) (body : Site) (call : Call ClassBody) : List Walk :=
  let site : Site := undecorated ⟨call.spot, body.opened⟩
  if call.spot.depth = body.spot.depth then []
  else if site.spot.node.kind = "function_definition" then site.methodWalks source call.budget
  else []

/-- The walks that begin in the body of a class. -/
def classBodyWalks (source : Source) (body : Site) (budget : Budget) : List Walk :=
  (calls (visitClassBody source body.spot.depth) body.spot budget {}).flatMap
    (statementWalks source body)

/-- The walks for the facts about a class. -/
def classWalks (source : Source) (site : Site) (budget : Budget) : List Walk :=
  match site.spot.node.child? "name", site.body? with
  | some _, some body =>
      body.walk (visitClassBody source body.spot.depth) budget {} ::
        classBodyWalks source body budget
  | _, _ => []

/-- The walks that begin at a node at the level of the module. -/
def moduleLevelWalks (source : Source) (call : Call Definitions) : List Walk :=
  let site : Site := undecorated ⟨call.spot, []⟩
  if site.spot.node.kind = "function_definition" then site.functionWalks source call.budget
  else if site.spot.node.kind = "class_definition" then site.classWalks source call.budget
  else []

/-- The whole file. -/
def file (root : Node) : Site := ⟨⟨[], root, 0⟩, []⟩

end Site

/-- The walks for the structure of a file. -/
def modelWalks (source : Source) (root : Node) (budget : Budget) : List Walk :=
  let file := Site.file root
  let found := Syntax.walk (visitModuleLevel source) root 0 budget {}
  file.walk (visitModuleLevel source) budget {} ::
    ((calls (visitModuleLevel source) file.spot budget {}).flatMap (Site.moduleLevelWalks source) ++
      [file.walk (Visitor.ofStep (visitAnywhere source)) found.1 {}])

/-! ## The budget counts the visits -/

section Counting

variable {source : Source} {site : Site} {budget : Budget}

@[simp] theorem visitCount_nil : visitCount [] = 0 := rfl

@[simp] theorem visitCount_cons (first : Walk) (rest : List Walk) :
    visitCount (first :: rest) = first.visits.length + visitCount rest := rfl

@[simp] theorem visitCount_append (first second : List Walk) :
    visitCount (first ++ second) = visitCount first + visitCount second :=
  total_append _ first second

theorem visitCount_flatMap
    (items : List α)
    (walks : α → List Walk) :
    visitCount (items.flatMap walks) = total (fun item => visitCount (walks item)) items :=
  total_flatMap _ items walks

/-- A walk is charged its visits and what its visitor spends. -/
theorem visited_walk
    {σ : Type}
    (visit : Visitor σ)
    (spends : Call σ → Nat)
    (counts : ∀ spot budget state, (visit spot.node spot.depth budget state).2.1.visited =
      budget.visited + spends ⟨spot, budget, state⟩)
    (site : Site)
    (budget : Budget)
    (state : σ) :
    (Syntax.walk visit site.spot.node site.spot.depth budget state).1.visited =
      budget.visited + (site.walk visit budget state).visits.length +
        total spends (calls visit site.spot budget state) := by
  rw [Site.walk, List.length_map, calls]
  exact visited_walkPending counts [site.spot] budget state

/-- A walk whose visitor spends nothing is charged its visits. -/
theorem visited_walk_ofStep
    {σ : Type}
    (step : Step σ)
    (site : Site)
    (budget : Budget)
    (state : σ) :
    (Syntax.walk (Visitor.ofStep step) site.spot.node site.spot.depth budget state).1.visited =
      budget.visited + (site.walk (Visitor.ofStep step) budget state).visits.length := by
  have charged := visited_walk (Visitor.ofStep step) (fun _ => 0)
    (fun _ _ _ => rfl) site budget state
  rwa [total_zero, Nat.add_zero] at charged

/-- The walk through the body of a definition is charged its visits. -/
theorem visited_signalsOf
    (site : Site)
    (budget : Budget) :
    (signalsOf site.spot.node site.spot.depth budget).1.visited =
      budget.visited + visitCount (site.signalWalks budget) := by
  rw [signalsOf, Site.signalWalks, Site.body?, Spot.child?]
  cases site.spot.node.child? "body" with
  | none =>
      rfl
  | some body =>
      exact visited_walk_ofStep BodySignals.visit ⟨⟨_, body, site.spot.depth + 1⟩, site.opened⟩
        budget {}

theorem visited_function?
    (site : Site)
    (decorators : List String)
    (budget : Budget) :
    (function? source site.spot.node decorators site.spot.depth budget).1.visited =
      budget.visited + visitCount (site.functionWalks source budget) := by
  rw [Site.functionWalks]
  cases named : source.fieldText? site.spot.node "name" with
  | none =>
      rw [function?_of_unnamed named]
      rfl
  | some name =>
      rw [function?_of_name named]
      exact visited_signalsOf site budget

theorem visited_initializedBy
    (site : Site)
    (name : String)
    (budget : Budget) :
    (initializedBy source site.spot.node name site.spot.depth budget).1.visited =
      budget.visited + visitCount (site.initializerWalks source name budget) := by
  rw [initializedBy, Site.initializerWalks]
  by_cases isInitializer : name = "__init__"
  · rw [if_pos isInitializer, if_pos isInitializer, Site.body?, Spot.child?]
    cases site.spot.node.child? "body" with
    | none =>
        rfl
    | some body =>
        exact visited_walk_ofStep (visitInitializer source)
          ⟨⟨_, body, site.spot.depth + 1⟩, site.opened⟩ budget []
  · rw [if_neg isInitializer, if_neg isInitializer]
    rfl

theorem visited_addMethod
    (site : Site)
    (decorators : List String)
    (budget : Budget)
    (collected : ClassBody) :
    (addMethod source site.spot.node decorators site.spot.depth budget collected).1.visited =
      budget.visited + visitCount (site.methodWalks source budget) := by
  rw [Site.methodWalks]
  cases named : source.fieldText? site.spot.node "name" with
  | none =>
      rw [addMethod_of_none (function?_of_unnamed named _ _ _)]
      rfl
  | some name =>
      rw [addMethod_of_some (function?_of_name named _ _ _), visitCount_append]
      exact (visited_initializedBy site name _).trans
        (by rw [visited_signalsOf, Nat.add_assoc])

/-- The definition that a site stands for is that under the decorators of its node. -/
theorem Site.node_undecorated
    (source : Source)
    (site : Site) :
    site.undecorated.spot.node = (source.undecorated site.spot.node).1 ∧
      site.undecorated.spot.depth = site.spot.depth := by
  rw [Site.undecorated, Source.undecorated, Spot.child?]
  split
  · cases site.spot.node.child? "definition" with
    | none =>
        exact ⟨rfl, rfl⟩
    | some definition =>
        exact ⟨rfl, rfl⟩
  · exact ⟨rfl, rfl⟩

/-- What a visitor spends in the body of a class are the walks that begin there. -/
theorem visited_visitClassBody
    (body : Site)
    (spot : Spot)
    (budget : Budget)
    (collected : ClassBody) :
    (visitClassBody source body.spot.depth spot.node spot.depth budget collected).2.1.visited =
      budget.visited + visitCount (body.statementWalks source ⟨spot, budget, collected⟩) := by
  rw [Site.statementWalks]
  obtain ⟨isDefinition, sameDepth⟩ := Site.node_undecorated source ⟨spot, body.opened⟩
  by_cases isBody : spot.depth = body.spot.depth
  · rw [isBody, visitClassBody_body, if_pos rfl]
    rfl
  · rw [visitClassBody_of_ne source spot.node isBody, addStatement, ← isDefinition, if_neg isBody]
    split
    · rw [← sameDepth]
      exact visited_addMethod _ _ budget collected
    · rfl

theorem visited_class?
    (site : Site)
    (decorators : List String)
    (budget : Budget) :
    (class? source site.spot.node decorators site.spot.depth budget).1.visited =
      budget.visited + visitCount (site.classWalks source budget) := by
  rw [Site.classWalks]
  cases named : site.spot.node.child? "name" with
  | none =>
      rw [class?_of_unnamed named]
      rfl
  | some name =>
      rw [class?_of_name named, collectedOf, Site.body?, Spot.child?]
      cases site.spot.node.child? "body" with
      | none =>
          rfl
      | some inner =>
          let body : Site := ⟨⟨site.spot.place ++ [site.spot.node.children.findIdx
            (·.info.field? == some "body")], inner, site.spot.depth + 1⟩, site.opened⟩
          have charged := visited_walk (visitClassBody source body.spot.depth)
            (fun call => visitCount (body.statementWalks source call))
            (visited_visitClassBody body) body budget {}
          change _ = budget.visited +
            visitCount (body.walk (visitClassBody source body.spot.depth) budget {} ::
              body.classBodyWalks source budget)
          rw [visitCount_cons, Site.classBodyWalks, visitCount_flatMap, ← Nat.add_assoc]
          exact charged

/-- What a visitor spends at the level of the module are the walks that begin there. -/
theorem visited_visitModuleLevel
    (spot : Spot)
    (budget : Budget)
    (found : Definitions) :
    (visitModuleLevel source spot.node spot.depth budget found).2.1.visited =
      budget.visited + visitCount (Site.moduleLevelWalks source ⟨spot, budget, found⟩) := by
  rw [visitModuleLevel_eq, Site.moduleLevelWalks, addModuleLevel]
  obtain ⟨isDefinition, sameDepth⟩ := Site.node_undecorated source ⟨spot, []⟩
  dsimp only at sameDepth ⊢
  rw [← isDefinition, ← sameDepth]
  split
  · exact visited_function? _ _ budget
  · split
    · exact visited_class? _ _ budget
    · rfl

/-- What the structure of a file costs are the visits of its walks. -/
theorem visited_model
    (path text : String)
    (root : Node)
    (budget : Budget) :
    (model path text root budget).1.visited =
      budget.visited + visitCount (modelWalks (Source.ofString text) root budget) := by
  have definitions := visited_walk (visitModuleLevel (Source.ofString text))
    (fun call => visitCount (Site.moduleLevelWalks (Source.ofString text) call))
    visited_visitModuleLevel (Site.file root) budget {}
  have occurrences := visited_walk_ofStep (visitAnywhere (Source.ofString text)) (Site.file root)
    (walk (visitModuleLevel (Source.ofString text)) root 0 budget {}).1 {}
  rw [model_eq, modelWalks]
  simp only [visitCount_cons, visitCount_append, visitCount_flatMap, visitCount_nil]
  refine occurrences.trans ?_
  refine (congrArg (· + _) definitions).trans ?_
  omega

end Counting

/-! ## The budget is spent within its limits -/

section Spending

variable {source : Source}

theorem leadsTo_signalsOf
    (node : Node)
    (depth : Nat)
    (budget : Budget) :
    budget.LeadsTo (signalsOf node depth budget).1 := by
  rw [signalsOf]
  split
  · exact (Visitor.keepsLimits_ofStep _).walkPending _ budget _
  · exact .refl budget

theorem leadsTo_function?
    (node : Node)
    (decorators : List String)
    (depth : Nat)
    (budget : Budget) :
    budget.LeadsTo (function? source node decorators depth budget).1 := by
  cases named : source.fieldText? node "name" with
  | none =>
      rw [function?_of_unnamed named]
      exact .refl budget
  | some name =>
      rw [function?_of_name named]
      exact leadsTo_signalsOf node depth budget

theorem leadsTo_initializedBy
    (node : Node)
    (name : String)
    (depth : Nat)
    (budget : Budget) :
    budget.LeadsTo (initializedBy source node name depth budget).1 := by
  rw [initializedBy]
  split
  · exact (Visitor.keepsLimits_ofStep _).walkPending _ budget _
  · exact .refl budget

theorem leadsTo_addMethod
    (node : Node)
    (decorators : List String)
    (depth : Nat)
    (budget : Budget)
    (collected : ClassBody) :
    budget.LeadsTo (addMethod source node decorators depth budget collected).1 := by
  cases named : source.fieldText? node "name" with
  | none =>
      rw [addMethod_of_none (function?_of_unnamed named decorators depth budget)]
      exact .refl budget
  | some name =>
      rw [addMethod_of_some (function?_of_name named decorators depth budget)]
      exact (leadsTo_signalsOf node depth budget).trans (leadsTo_initializedBy node name depth _)

theorem keepsLimits_visitClassBody
    (source : Source)
    (bodyDepth : Nat) :
    (visitClassBody source bodyDepth).KeepsLimits := by
  intro node depth budget collected
  by_cases isBody : depth = bodyDepth
  · rw [isBody, visitClassBody_body]
    exact .refl budget
  · rw [visitClassBody_of_ne source node isBody, addStatement]
    split
    · exact leadsTo_addMethod _ _ depth budget collected
    · exact .refl budget

theorem leadsTo_class?
    (node : Node)
    (decorators : List String)
    (depth : Nat)
    (budget : Budget) :
    budget.LeadsTo (class? source node decorators depth budget).1 := by
  cases named : node.child? "name" with
  | none =>
      rw [class?_of_unnamed named]
      exact .refl budget
  | some name =>
      rw [class?_of_name named, collectedOf]
      dsimp only
      split
      · exact (keepsLimits_visitClassBody source _).walkPending _ budget _
      · exact .refl budget

theorem keepsLimits_visitModuleLevel (source : Source) :
    (visitModuleLevel source).KeepsLimits := by
  intro node depth budget found
  rw [visitModuleLevel_eq, addModuleLevel]
  dsimp only
  split
  · exact leadsTo_function? _ _ depth budget
  · split
    · exact leadsTo_class? _ _ depth budget
    · exact .refl budget

end Spending

/-! ## Depths and distances -/

/-- A place of a decorated definition above another place. -/
def IsDecoratedAbove (root : Node) (place above : List Nat) : Prop :=
  (∃ node, root.at? above = some node ∧ node.kind = "decorated_definition") ∧
    above <+: place ∧ above ≠ place

/-- A site stands in a tree: its depth is the distance of its node from the root less the number
of decorated definitions that were opened on the way. -/
structure Site.Stands (root : Node) (site : Site) : Prop where
  isThere : root.at? site.spot.place = some site.spot.node
  distance : site.spot.depth + site.opened.length = site.spot.place.length
  opened : ∀ place ∈ site.opened, IsDecoratedAbove root site.spot.place place
  distinct : site.opened.Nodup

/-- A depth that is within the limit, or one more than it where a walk begins. -/
def Site.IsWithin (limits : Limits) (start : Site) (spot : Spot) : Prop :=
  spot.depth ≤ limits.maxDepth ∨ spot = start.spot ∧ spot.depth = limits.maxDepth + 1

/-- A walk whose visits come with their distances from the root less the number of decorated
definitions that were opened on the way to it. -/
structure Walk.IsMeasured (root : Node) (limits : Limits) (walk : Walk) : Prop where
  /-- Where a visit is made there is the node that is visited. -/
  isThere : ∀ visit ∈ walk.visits, root.at? visit.place = some visit.node
  distance : ∀ visit ∈ walk.visits,
    visit.depth + walk.start.opened.length = visit.place.length
  within : ∀ visit ∈ walk.visits, walk.start.IsWithin limits visit
  opened : ∀ place ∈ walk.start.opened, IsDecoratedAbove root walk.start.spot.place place
  distinct : walk.start.opened.Nodup
  /-- At most a class and a method of it are under decorators. -/
  few : walk.start.opened.length ≤ 2

namespace Site.Stands

variable {root inner : Node} {site : Site} {number : Nat}

theorem file (root : Node) : (Site.file root).Stands root where
  isThere := rfl
  distance := rfl
  opened := by simp [Site.file]
  distinct := List.nodup_nil

theorem isDecoratedAbove_child
    {above place : List Nat}
    (decorated : IsDecoratedAbove root place above)
    (number : Nat) :
    IsDecoratedAbove root (place ++ [number]) above := by
  obtain ⟨isDecorated, inside, _⟩ := decorated
  refine ⟨isDecorated, inside.trans (List.prefix_append _ _), ?_⟩
  rintro rfl
  exact ne_of_below inside rfl

/-- A child stands one level deeper. -/
theorem child
    (stands : site.Stands root)
    (isChild : site.spot.node.children[number]? = some inner) :
    Site.Stands root ⟨⟨site.spot.place ++ [number], inner, site.spot.depth + 1⟩, site.opened⟩ where
  isThere := Node.at?_child stands.isThere isChild
  distance := by
    have distance := stands.distance
    simp only [List.length_append, List.length_singleton]
    omega
  opened := fun place member => isDecoratedAbove_child (stands.opened place member) number
  distinct := stands.distinct

/-- A definition under decorators stands at the depth of the decorated definition, which is
opened. -/
theorem undecorated
    (stands : site.Stands root) :
    site.undecorated.Stands root := by
  rw [Site.undecorated]
  split
  · rename_i isDecorated
    cases found : site.spot.child? "definition" site.spot.depth with
    | none =>
        exact stands
    | some definition =>
        obtain ⟨number, isChild, isPlace, isDepth⟩ := Spot.child?_eq_some found
        refine ⟨?_, ?_, ?_, ?_⟩
        · dsimp only
          rw [isPlace]
          exact Node.at?_child stands.isThere isChild
        · have distance := stands.distance
          simp only [isPlace, isDepth, List.length_append, List.length_singleton]
          omega
        · intro place member
          dsimp only
          rw [isPlace]
          rcases List.mem_append.mp member with known | isNew
          · exact isDecoratedAbove_child (stands.opened place known) number
          · rw [List.mem_singleton.mp isNew]
            refine ⟨⟨_, stands.isThere, isDecorated⟩, List.prefix_append _ _, fun same => ?_⟩
            simpa using congrArg List.length same
        · refine List.nodup_append.mpr ⟨stands.distinct, by simp, ?_⟩
          rintro place member other isNew rfl
          exact (stands.opened place member).2.2 (List.mem_singleton.mp isNew)
  · exact stands

theorem body
    {body : Site}
    (stands : site.Stands root)
    (found : site.body? = some body) :
    body.Stands root ∧ body.opened = site.opened ∧ body.spot.depth = site.spot.depth + 1 := by
  rw [Site.body?, Option.map_eq_some_iff] at found
  obtain ⟨spot, isBody, rfl⟩ := found
  obtain ⟨number, isChild, isPlace, isDepth⟩ := Spot.child?_eq_some isBody
  obtain ⟨place, node, depth⟩ := spot
  dsimp only at isChild isPlace isDepth
  subst isPlace isDepth
  exact ⟨stands.child isChild, rfl, rfl⟩

end Site.Stands

/-! ## Walks are measured -/

section Measuring

variable {source : Source} {root : Node} {site : Site} {limits : Limits} {budget : Budget}
  {walk : Walk}

/-- Where a walk from a site calls its visitor, the depth is measured as at the site. -/
theorem Site.Stands.forall_calls
    {σ : Type}
    {visit : Visitor σ}
    (stands : site.Stands root)
    (keeps : visit.KeepsLimits)
    (starts : site.spot.depth ≤ limits.maxDepth + 1)
    (sameLimits : budget.limits = limits)
    (state : σ) :
    ∀ call ∈ calls visit site.spot budget state,
      (Site.Stands root ⟨call.spot, site.opened⟩ ∧ site.IsWithin limits call.spot) ∧
        call.budget.limits = limits := by
  refine forall_callsPending (fun spot =>
    Site.Stands root ⟨spot, site.opened⟩ ∧ site.IsWithin limits spot) keeps ?_ sameLimits ?_ state
  · rintro spot budget state ⟨stands, _⟩ _ _ number child isChild shallow _
    exact ⟨stands.child isChild, .inl shallow⟩
  · intro spot member
    obtain rfl := List.mem_singleton.mp member
    refine ⟨stands, ?_⟩
    by_cases shallow : site.spot.depth ≤ limits.maxDepth
    · exact .inl shallow
    · exact .inr ⟨rfl, by omega⟩

theorem Site.Stands.isMeasured
    {σ : Type}
    {visit : Visitor σ}
    (stands : site.Stands root)
    (keeps : visit.KeepsLimits)
    (starts : site.spot.depth ≤ limits.maxDepth + 1)
    (few : site.opened.length ≤ 2)
    (sameLimits : budget.limits = limits)
    (state : σ) :
    (site.walk visit budget state).IsMeasured root limits := by
  have made := stands.forall_calls keeps starts sameLimits state
  refine ⟨?_, ?_, ?_, stands.opened, stands.distinct, few⟩
  all_goals
    intro spot isVisit
    obtain ⟨call, isCall, rfl⟩ := List.mem_map.mp isVisit
  · exact (made call isCall).1.1.isThere
  · exact (made call isCall).1.1.distance
  · exact (made call isCall).1.2

/-- A definition that is visited, from which walks begin. -/
structure Site.IsReached (root : Node) (limits : Limits) (site : Site) : Prop where
  stands : site.Stands root
  shallow : site.spot.depth ≤ limits.maxDepth
  few : site.opened.length ≤ 2

/-- The walks through the body of a definition are measured. -/
theorem Site.IsReached.isMeasured_body
    {step : Step σ}
    {state : σ}
    (reached : site.IsReached root limits)
    (sameLimits : budget.limits = limits)
    (member : walk ∈ site.body?.toList.map fun body =>
      body.walk (Visitor.ofStep step) budget state) :
    walk.IsMeasured root limits := by
  obtain ⟨body, isBody, rfl⟩ := List.mem_map.mp member
  obtain ⟨stands, sameOpened, isDepth⟩ := reached.stands.body (Option.mem_toList.mp isBody)
  refine stands.isMeasured (Visitor.keepsLimits_ofStep step) ?_ ?_ sameLimits state
  · rw [isDepth]
    exact Nat.succ_le_succ reached.shallow
  · rw [sameOpened]
    exact reached.few

theorem Site.IsReached.functionWalks
    (reached : site.IsReached root limits)
    (sameLimits : budget.limits = limits)
    (member : walk ∈ site.functionWalks source budget) :
    walk.IsMeasured root limits := by
  rw [Site.functionWalks] at member
  split at member
  · cases member
  · exact reached.isMeasured_body sameLimits member

theorem Site.IsReached.methodWalks
    (reached : site.IsReached root limits)
    (sameLimits : budget.limits = limits)
    (member : walk ∈ site.methodWalks source budget) :
    walk.IsMeasured root limits := by
  rw [Site.methodWalks] at member
  split at member
  · cases member
  · rcases List.mem_append.mp member with counts | initializes
    · exact reached.isMeasured_body sameLimits counts
    · rw [Site.initializerWalks] at initializes
      split at initializes
      · exact reached.isMeasured_body
          ((leadsTo_signalsOf _ _ budget).limits.trans sameLimits) initializes
      · cases initializes

/-- The definition that a visited node stands for is reached. -/
theorem Site.Stands.isReached_undecorated
    (stands : site.Stands root)
    (shallow : site.spot.depth ≤ limits.maxDepth)
    (few : site.opened.length ≤ 1) :
    site.undecorated.IsReached root limits := by
  refine ⟨stands.undecorated, ?_, ?_⟩
  · rw [(Site.node_undecorated default site).2]
    exact shallow
  · rw [Site.undecorated]
    split
    · split
      · rw [List.length_append, List.length_singleton]
        omega
      · omega
    · omega

theorem Site.IsReached.classWalks
    (reached : site.IsReached root limits)
    (few : site.opened.length ≤ 1)
    (sameLimits : budget.limits = limits)
    (member : walk ∈ site.classWalks source budget) :
    walk.IsMeasured root limits := by
  rw [Site.classWalks] at member
  split at member
  · rename_i name body _ isBody
    obtain ⟨stands, sameOpened, isDepth⟩ := reached.stands.body isBody
    have starts : body.spot.depth ≤ limits.maxDepth + 1 := by
      rw [isDepth]
      exact Nat.succ_le_succ reached.shallow
    have keeps := keepsLimits_visitClassBody source body.spot.depth
    rw [← sameOpened] at few
    rcases List.mem_cons.mp member with rfl | inBody
    · exact stands.isMeasured keeps starts (by omega) sameLimits _
    · obtain ⟨call, isCall, begins⟩ := List.mem_flatMap.mp inBody
      obtain ⟨⟨callStands, within⟩, callLimits⟩ :=
        stands.forall_calls keeps starts sameLimits _ call isCall
      rw [Site.statementWalks] at begins
      split at begins
      · cases begins
      · rename_i isBelow
        split at begins
        · have shallow : call.spot.depth ≤ limits.maxDepth := by
            rcases within with shallow | ⟨isStart, _⟩
            · exact shallow
            · exact absurd (congrArg Spot.depth isStart) isBelow
          exact (callStands.isReached_undecorated shallow few).methodWalks callLimits begins
        · cases begins
  · cases member

/-- The walks that begin at a node at the level of the module are measured. -/
theorem isMeasured_moduleLevelWalks
    {call : Call Definitions}
    (stands : Site.Stands root ⟨call.spot, []⟩)
    (shallow : call.spot.depth ≤ limits.maxDepth)
    (sameLimits : call.budget.limits = limits)
    (member : walk ∈ Site.moduleLevelWalks source call) :
    walk.IsMeasured root limits := by
  have reached := stands.isReached_undecorated shallow (Nat.zero_le 1)
  rw [Site.moduleLevelWalks] at member
  split at member
  · exact reached.functionWalks sameLimits member
  · split at member
    · refine reached.classWalks ?_ sameLimits member
      rw [Site.undecorated]
      split
      · split <;> simp
      · simp
    · cases member

theorem isMeasured_modelWalks
    (sameLimits : budget.limits = limits)
    (member : walk ∈ modelWalks source root budget) :
    walk.IsMeasured root limits := by
  have stands := Site.Stands.file root
  have starts : (Site.file root).spot.depth ≤ limits.maxDepth + 1 := Nat.zero_le _
  have keeps := keepsLimits_visitModuleLevel source
  rw [modelWalks] at member
  rcases List.mem_cons.mp member with rfl | more
  · exact stands.isMeasured keeps starts (Nat.zero_le 2) sameLimits _
  · rcases List.mem_append.mp more with inside | last
    · obtain ⟨call, isCall, begins⟩ := List.mem_flatMap.mp inside
      obtain ⟨⟨callStands, within⟩, callLimits⟩ :=
        stands.forall_calls keeps starts sameLimits _ call isCall
      refine isMeasured_moduleLevelWalks callStands ?_ callLimits begins
      rcases within with shallow | ⟨_, isDeep⟩
      · exact shallow
      · rename_i isStart
        rw [isStart] at isDeep
        exact absurd isDeep (Nat.succ_ne_zero _).symm
    · rw [List.mem_singleton.mp last]
      refine stands.isMeasured (Visitor.keepsLimits_ofStep _) starts (Nat.zero_le 2) ?_ _
      exact (keeps.walkPending _ budget _).limits.trans sameLimits

end Measuring

/-! ## Files -/

/-- The depths in the walks for the structure of a file. -/
structure DepthsLag (source : Source) (root : Node) (budget : Budget) : Prop where
  isMeasured : ∀ walk ∈ modelWalks source root budget, walk.IsMeasured root budget.limits
  /-- Without decorated definitions on the way to a walk, depths are distances from the root. -/
  plain : ∀ walk ∈ modelWalks source root budget,
    (∀ above, ¬ IsDecoratedAbove root walk.start.spot.place above) →
      ∀ visit ∈ walk.visits, visit.depth = visit.place.length
  /-- No visit is farther from the root than the limit, one more where a walk begins, and one
  more for every decorated definition that was opened. -/
  near : ∀ walk ∈ modelWalks source root budget, ∀ visit ∈ walk.visits,
    visit.place.length ≤ budget.limits.maxDepth + walk.start.opened.length ∨
      visit = walk.start.spot ∧
        visit.place.length = budget.limits.maxDepth + 1 + walk.start.opened.length

/-- The visits for the structure of a file are those of its walks, whose depths are distances from
the root of the file less the decorated definitions that were opened. -/
theorem model_depthsLag
    (path text : String)
    (root : Node)
    (budget : Budget) :
    (model path text root budget).1.visited =
        budget.visited + visitCount (modelWalks (Source.ofString text) root budget) ∧
      DepthsLag (Source.ofString text) root budget := by
  refine ⟨visited_model path text root budget, ?_, ?_, ?_⟩
  · intro walk member
    exact isMeasured_modelWalks rfl member
  · intro walk member noneAbove visit isVisit
    have measured : walk.IsMeasured root budget.limits := isMeasured_modelWalks rfl member
    have noneOpened : walk.start.opened = [] :=
      List.eq_nil_iff_forall_not_mem.mpr fun place isOpened =>
        noneAbove place (measured.opened place isOpened)
    rw [← measured.distance visit isVisit, noneOpened]
    rfl
  · intro walk member visit isVisit
    have measured : walk.IsMeasured root budget.limits := isMeasured_modelWalks rfl member
    have distance := measured.distance visit isVisit
    rcases measured.within visit isVisit with shallow | ⟨isStart, isDeep⟩
    · exact .inl (by omega)
    · exact .inr ⟨isStart, by omega⟩

/-- A file with one function, which is decorated and makes a decision. -/
def decoratedText : String := "@d\ndef f():\n  if x:\n    pass\n"

/-- The tree of this file. -/
def decoratedTree : Node :=
  .mk { kind := "module" }
    [.mk { kind := "decorated_definition" }
      [.mk { kind := "decorator", stop := { chars := 2 } }
        [.mk { kind := "@", isNamed := false } [], .mk { kind := "identifier" } []],
       .mk { kind := "function_definition", field? := some "definition" }
        [.mk { kind := "def", isNamed := false } [],
         .mk { kind := "identifier", field? := some "name",
               start := { chars := 7 }, stop := { chars := 8 } } [],
         .mk { kind := "parameters", field? := some "parameters" }
          [.mk { kind := "(", isNamed := false } [], .mk { kind := ")", isNamed := false } []],
         .mk { kind := ":", isNamed := false } [],
         .mk { kind := "block", field? := some "body" }
          [.mk { kind := "if_statement" }
            [.mk { kind := "if", isNamed := false } [],
             .mk { kind := "identifier", field? := some "condition" } [],
             .mk { kind := ":", isNamed := false } [],
             .mk { kind := "block", field? := some "consequence" }
              [.mk { kind := "pass_statement" }
                [.mk { kind := "pass", isNamed := false } []]]]]]]]

/-- Where nothing deeper than the limit should be visited, a decision four levels below the root is
visited and counted at depth three, and a plain function at the limit has its body visited. -/
theorem exists_visit_beyond_limit :
    (¬ ∀ walk ∈ modelWalks (Source.ofString decoratedText) decoratedTree
          { limits := { maxDepth := 3 } },
        ∀ visit ∈ walk.visits, visit.depth = visit.place.length) ∧
      (¬ ∀ walk ∈ modelWalks (Source.ofString decoratedText) decoratedTree
          { limits := { maxDepth := 3 } },
        ∀ visit ∈ walk.visits, visit.place.length ≤ 3) ∧
      (model "m.py" decoratedText decoratedTree { limits := { maxDepth := 3 } }).2.functions.map
        (·.complexity) = [2] ∧
      ¬ ∀ walk ∈ modelWalks (Source.ofString "def f():\n yield") generatorTree
          { limits := { maxDepth := 1 } },
        ∀ visit ∈ walk.visits, visit.place.length ≤ 1 := by
  refine ⟨?_, ?_, ?_, ?_⟩ <;> decide +kernel

end SourceFacts.Extraction
