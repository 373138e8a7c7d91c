import SourceFacts.Proofs.Syntax.Walks

namespace SourceFacts.Syntax

/-!
# The calls of a visitor

A visitor may spend the budget itself, by walks of its own. The calls that a walk makes of it are
known by the spots where they are made, the budgets that are left and what is found until then.
Every visit is a call, each at a child of a spot that was entered before, one level deeper.
-/

/-! ## Spots in a tree -/

/-- The node at a place in a tree. -/
def Node.at? (root : Node) : List Nat → Option Node
  | [] => some root
  | number :: rest => root.children[number]?.bind (·.at? rest)

theorem Node.at?_append
    {root node : Node}
    {place : List Nat}
    (isThere : root.at? place = some node)
    (rest : List Nat) :
    root.at? (place ++ rest) = node.at? rest := by
  induction place generalizing root with
  | nil =>
      rw [Node.at?] at isThere
      rw [List.nil_append, Option.some.inj isThere]
  | cons number more inductionHypothesis =>
      rw [Node.at?, Option.bind_eq_some_iff] at isThere
      obtain ⟨child, isChild, isBelow⟩ := isThere
      rw [List.cons_append, Node.at?, isChild]
      exact inductionHypothesis isBelow

/-- The child of a place with a number. -/
theorem Node.at?_child
    {root node child : Node}
    {place : List Nat}
    {number : Nat}
    (isThere : root.at? place = some node)
    (isChild : node.children[number]? = some child) :
    root.at? (place ++ [number]) = some child := by
  rw [Node.at?_append isThere, Node.at?, isChild]
  rfl

/-- A node that stands in a tree. -/
def Node.Has (root node : Node) : Prop := ∃ place, root.at? place = some node

theorem Node.has_self (root : Node) : root.Has root := ⟨[], rfl⟩

theorem Node.Has.child
    {root node child : Node}
    (has : root.Has node)
    (isChild : child ∈ node.children) :
    root.Has child := by
  obtain ⟨place, isThere⟩ := has
  obtain ⟨number, isNumber⟩ := List.mem_iff_getElem?.mp isChild
  exact ⟨place ++ [number], Node.at?_child isThere isNumber⟩

theorem Node.Has.child?
    {root node child : Node}
    {field : String}
    (has : root.Has node)
    (isChild : node.child? field = some child) :
    root.Has child :=
  has.child (List.mem_of_find?_eq_some isChild)

theorem Limits.mem_children_of_mem_childrenOf
    {limits : Limits}
    {node child : Node}
    {depth : Nat}
    (among : child ∈ limits.childrenOf node depth) :
    child ∈ node.children := by
  rw [Limits.childrenOf] at among
  split at among
  · exact List.mem_of_mem_take among
  · cases among

/-- The spot of the first child in a field, at a depth. -/
def Spot.child? (spot : Spot) (field : String) (depth : Nat) : Option Spot :=
  (spot.node.child? field).map fun child =>
    ⟨spot.place ++ [spot.node.children.findIdx (·.info.field? == some field)], child, depth⟩

/-- The spot of a child is that of a child. -/
theorem Spot.child?_eq_some
    {spot inner : Spot}
    {field : String}
    {depth : Nat}
    (found : spot.child? field depth = some inner) :
    ∃ number, spot.node.children[number]? = some inner.node ∧
      inner.place = spot.place ++ [number] ∧ inner.depth = depth := by
  rw [Spot.child?, Option.map_eq_some_iff] at found
  obtain ⟨child, isChild, rfl⟩ := found
  refine ⟨_, ?_, rfl, rfl⟩
  rw [Node.child?, List.find?_eq_getElem?_findIdx] at isChild
  exact isChild

/-- The children of a place have their numbers. -/
theorem mem_spotsFrom
    {place : List Nat}
    {number depth : Nat}
    {nodes : List Node}
    {spot : Spot} :
    spot ∈ spotsFrom place number depth nodes ↔
      ∃ index, nodes[index]? = some spot.node ∧ spot.place = place ++ [number + index] ∧
        spot.depth = depth := by
  induction nodes generalizing number with
  | nil =>
      simp [spotsFrom]
  | cons node rest inductionHypothesis =>
      rw [spotsFrom, List.mem_cons, inductionHypothesis]
      constructor
      · rintro (rfl | ⟨index, isNode, isPlace, isDepth⟩)
        · exact ⟨0, rfl, rfl, rfl⟩
        · refine ⟨index + 1, isNode, ?_, isDepth⟩
          rw [isPlace, Nat.add_right_comm, Nat.add_assoc]
      · rintro ⟨index, isNode, isPlace, isDepth⟩
        cases index with
        | zero =>
            obtain ⟨_, _, _⟩ := spot
            obtain rfl := Option.some.inj isNode
            dsimp only at isPlace isDepth
            rw [isPlace, isDepth]
            exact .inl rfl
        | succ index =>
            refine .inr ⟨index, isNode, ?_, isDepth⟩
            rw [isPlace, Nat.add_right_comm, Nat.add_assoc]

/-! ## Calls -/

/-- A call of a visitor at a spot, with what is left of the budget and what is found. -/
structure Call (σ : Type) where
  spot : Spot
  budget : Budget
  state : σ

variable {σ : Type}

/-- The calls that a walk makes from the spots that wait. -/
def callsPending (visit : Visitor σ) (pending : List Spot) (budget : Budget) (state : σ) :
    List (Call σ) :=
  match pending with
  | [] => []
  | spot :: waiting =>
      if budget.isExhausted then []
      else
        match visit spot.node spot.depth budget.charge state with
        | (.skip, after, next) =>
            ⟨spot, budget.charge, state⟩ :: callsPending visit waiting after next
        | (.into, after, next) =>
            ⟨spot, budget.charge, state⟩ ::
              callsPending visit
                (spotsFrom spot.place 0 (spot.depth + 1)
                    (after.childrenOf spot.node spot.depth).1 ++
                  waiting)
                (after.childrenOf spot.node spot.depth).2 next
termination_by pendingCount (pending.map Spot.waiting)
decreasing_by
  · exact pendingCount_waiting_lt spot.waiting _
  · rw [List.map_append, waiting_spotsFrom]
    exact pendingCount_childrenOf_lt after spot.node spot.depth _

/-- The calls that a walk from a spot makes. -/
def calls (visit : Visitor σ) (start : Spot) (budget : Budget) (state : σ) : List (Call σ) :=
  callsPending visit [start] budget state

variable {visit : Visitor σ} {spot : Spot} {waiting : List Spot} {budget after : Budget}
  {state next : σ}

/-! ## Spending -/

/-- A budget leads to another one with the same limits, which is spent further but not beyond
them. -/
structure Budget.LeadsTo (before after : Budget) : Prop where
  limits : after.limits = before.limits
  visited : before.visited ≤ after.visited
  within : after.visited ≤ max before.visited before.limits.maxNodes

namespace Budget.LeadsTo

variable {before between after : Budget}

theorem refl (budget : Budget) : budget.LeadsTo budget where
  limits := rfl
  visited := Nat.le_refl _
  within := Nat.le_max_left _ _

theorem trans
    (first : before.LeadsTo between)
    (second : between.LeadsTo after) :
    before.LeadsTo after where
  limits := second.limits.trans first.limits
  visited := Nat.le_trans first.visited second.visited
  within := by
    have within := second.within
    rw [first.limits] at within
    exact Nat.le_trans within (Nat.max_le.mpr ⟨first.within, Nat.le_max_right _ _⟩)

theorem note
    (leads : before.LeadsTo after)
    (isCut : Bool) :
    before.LeadsTo (after.note isCut) :=
  ⟨leads.limits, leads.visited, leads.within⟩

theorem truncate (leads : before.LeadsTo after) : before.LeadsTo after.truncate :=
  ⟨leads.limits, leads.visited, leads.within⟩

/-- A visit that is not too many. -/
theorem charge (isLeft : before.isExhausted = false) : before.LeadsTo before.charge where
  limits := rfl
  visited := Nat.le_succ _
  within := by
    rw [isExhausted, decide_eq_false_iff_not, Nat.not_le] at isLeft
    exact Nat.le_trans isLeft (Nat.le_max_right _ _)

end Budget.LeadsTo

/-- A visitor that spends the budget within its limits. -/
def Visitor.KeepsLimits (visit : Visitor σ) : Prop :=
  ∀ node depth (budget : Budget) state, budget.LeadsTo (visit node depth budget state).2.1

theorem Visitor.keepsLimits_ofStep (step : Step σ) : (Visitor.ofStep step).KeepsLimits :=
  fun _ _ budget _ => .refl budget

/-- What walks preserve: what holds before a visit of a node in the tree holds after it, and goes on
to hold when something is left out. -/
theorem walkPending_induction
    (root : Node)
    (holds : Budget → σ → Prop)
    (leavesOut : ∀ {budget state} isCut, holds budget state → holds (budget.note isCut) state)
    (visits : ∀ {node} depth {budget state}, root.Has node → budget.isExhausted = false →
      holds budget state →
        holds (visit node depth budget.charge state).2.1 (visit node depth budget.charge state).2.2)
    {pending : List (Node × Nat)}
    (inside : ∀ entry ∈ pending, root.Has entry.1)
    {budget : Budget}
    {state : σ}
    (starts : holds budget state) :
    holds (walkPending visit pending budget state).1
      (walkPending visit pending budget state).2 := by
  fun_induction Syntax.walkPending visit pending budget state with
  | case1 budget state =>
      exact starts
  | case2 budget state node depth waiting isSpent =>
      have noted := leavesOut true starts
      rwa [Budget.note, Bool.or_true] at noted
  | case3 budget state node depth waiting isLeft after next visited inductionHypothesis =>
      rw [List.forall_mem_cons] at inside
      have holdsAfter := visits depth inside.1 (Bool.not_eq_true _ ▸ isLeft) starts
      rw [visited] at holdsAfter
      exact inductionHypothesis inside.2 holdsAfter
  | case4 budget state node depth waiting isLeft after next visited inductionHypothesis =>
      rw [List.forall_mem_cons] at inside
      have holdsAfter := visits depth inside.1 (Bool.not_eq_true _ ▸ isLeft) starts
      rw [visited] at holdsAfter
      refine inductionHypothesis ?_ ?_
      · intro entry member
        rcases List.mem_append.mp member with isChild | waits
        · obtain ⟨child, among, rfl⟩ := List.mem_map.mp isChild
          rw [Budget.childrenOf_eq] at among
          exact inside.1.child (Limits.mem_children_of_mem_childrenOf among)
        · exact inside.2 entry waits
      · rw [Budget.childrenOf_eq]
        exact leavesOut _ holdsAfter

/-- A walk spends the budget within its limits if its visitor does. -/
theorem Visitor.KeepsLimits.walkPending
    (keeps : visit.KeepsLimits)
    (pending : List (Node × Nat))
    (budget : Budget)
    (state : σ) :
    budget.LeadsTo (walkPending visit pending budget state).1 := by
  fun_induction Syntax.walkPending visit pending budget state with
  | case1 budget state =>
      exact .refl budget
  | case2 budget state node depth waiting isSpent =>
      exact (Budget.LeadsTo.refl budget).truncate
  | case3 budget state node depth waiting isLeft after next visited inductionHypothesis =>
      have spends := keeps node depth budget.charge state
      rw [visited] at spends
      exact ((Budget.LeadsTo.charge (Bool.not_eq_true _ ▸ isLeft)).trans spends).trans
        inductionHypothesis
  | case4 budget state node depth waiting isLeft after next visited inductionHypothesis =>
      have spends := keeps node depth budget.charge state
      rw [visited] at spends
      have noted : after.LeadsTo (after.childrenOf node depth).2 := by
        rw [Budget.childrenOf_eq]
        exact (Budget.LeadsTo.refl after).note _
      exact (((Budget.LeadsTo.charge (Bool.not_eq_true _ ▸ isLeft)).trans spends).trans
        noted).trans inductionHypothesis

/-! ## What all calls have in common -/

/-- What holds of the spots that wait, and with an entered spot of its children within the
limits, holds of all spots where calls are made, which are made with these limits. -/
theorem forall_callsPending
    (holds : Spot → Prop)
    {limits : Limits}
    (keeps : visit.KeepsLimits)
    (below : ∀ {spot : Spot} {budget : Budget} {state : σ}, holds spot →
      budget.limits = limits → (visit spot.node spot.depth budget state).1 = .into →
        ∀ {number : Nat} {child : Node}, spot.node.children[number]? = some child →
          spot.depth + 1 ≤ limits.maxDepth → number < limits.maxChildren →
            holds ⟨spot.place ++ [number], child, spot.depth + 1⟩)
    {pending : List Spot}
    {budget : Budget}
    (sameLimits : budget.limits = limits)
    (starts : ∀ spot ∈ pending, holds spot)
    (state : σ) :
    ∀ call ∈ callsPending visit pending budget state,
      holds call.spot ∧ call.budget.limits = limits := by
  fun_induction callsPending visit pending budget state with
  | case1 budget state =>
      simp
  | case2 budget state spot waiting isSpent =>
      simp
  | case3 budget state spot waiting isLeft after next visited inductionHypothesis =>
      rw [List.forall_mem_cons] at starts ⊢
      refine ⟨⟨starts.1, sameLimits⟩, inductionHypothesis ?_ starts.2⟩
      have spends := keeps spot.node spot.depth budget.charge state
      rw [visited] at spends
      exact spends.limits.trans sameLimits
  | case4 budget state spot waiting isLeft after next visited inductionHypothesis =>
      rw [List.forall_mem_cons] at starts ⊢
      have spends := keeps spot.node spot.depth budget.charge state
      rw [visited] at spends
      have afterLimits : after.limits = limits := spends.limits.trans sameLimits
      have keptLimits : (after.childrenOf spot.node spot.depth).2.limits = limits := by
        rw [Budget.childrenOf_eq]
        exact afterLimits
      refine ⟨⟨starts.1, sameLimits⟩, inductionHypothesis keptLimits ?_⟩
      intro other member
      rcases List.mem_append.mp member with isChild | waits
      · obtain ⟨number, isNode, isPlace, isDepth⟩ := mem_spotsFrom.mp isChild
        rw [Budget.childrenOf_eq, afterLimits, Limits.childrenOf] at isNode
        split at isNode
        · rename_i shallow
          obtain ⟨place, node, depth⟩ := other
          dsimp only at isNode isPlace isDepth
          rw [isPlace, isDepth, Nat.zero_add]
          rw [List.getElem?_take] at isNode
          split at isNode
          · rename_i few
            have enters : (visit spot.node spot.depth budget.charge state).1 = .into := by
              rw [visited]
            have chargedLimits : budget.charge.limits = limits := sameLimits
            exact below starts.1 chargedLimits enters isNode shallow few
          · cases isNode
        · simp at isNode
      · exact starts.2 other waits

/-! ## Counting visits -/

/-- What the items of a list count in all. -/
def total (count : α → Nat) : List α → Nat
  | [] => 0
  | item :: rest => count item + total count rest

@[simp] theorem total_nil (count : α → Nat) : total count [] = 0 := rfl

@[simp] theorem total_cons
    (count : α → Nat)
    (item : α)
    (rest : List α) :
    total count (item :: rest) = count item + total count rest :=
  rfl

@[simp] theorem total_append
    (count : α → Nat)
    (first second : List α) :
    total count (first ++ second) = total count first + total count second := by
  induction first with
  | nil =>
      simp
  | cons item rest inductionHypothesis =>
      simp [inductionHypothesis, Nat.add_assoc]

theorem total_flatMap
    (count : β → Nat)
    (items : List α)
    (parts : α → List β) :
    total count (items.flatMap parts) = total (fun item => total count (parts item)) items := by
  induction items with
  | nil =>
      rfl
  | cons item rest inductionHypothesis =>
      rw [List.flatMap_cons, total_append, inductionHypothesis, total_cons]

theorem total_map
    (count : β → Nat)
    (change : α → β)
    (items : List α) :
    total count (items.map change) = total (fun item => count (change item)) items := by
  induction items with
  | nil =>
      rfl
  | cons item rest inductionHypothesis =>
      rw [List.map_cons, total_cons, total_cons, inductionHypothesis]

theorem length_flatMap_eq_total
    (items : List α)
    (parts : α → List β) :
    (items.flatMap parts).length = total (fun item => (parts item).length) items := by
  induction items with
  | nil =>
      rfl
  | cons item rest inductionHypothesis =>
      rw [List.flatMap_cons, List.length_append, inductionHypothesis, total_cons]

theorem total_zero (items : List α) : total (fun _ => 0) items = 0 := by
  induction items with
  | nil =>
      rfl
  | cons item rest inductionHypothesis =>
      rw [total_cons, inductionHypothesis]

/-- Every visit is a call, and the visitor spends the rest. -/
theorem visited_walkPending
    {spends : Call σ → Nat}
    (counts : ∀ spot budget state, (visit spot.node spot.depth budget state).2.1.visited =
      budget.visited + spends ⟨spot, budget, state⟩)
    (pending : List Spot)
    (budget : Budget)
    (state : σ) :
    (walkPending visit (pending.map Spot.waiting) budget state).1.visited =
      budget.visited + (callsPending visit pending budget state).length +
        total spends (callsPending visit pending budget state) := by
  fun_induction callsPending visit pending budget state with
  | case1 budget state =>
      simp
  | case2 budget state spot waiting isSpent =>
      rw [List.map_cons, Spot.waiting, walkPending_of_isExhausted isSpent]
      rfl
  | case3 budget state spot waiting isLeft after next visited inductionHypothesis =>
      have spent := counts spot budget.charge state
      rw [visited] at spent
      rw [List.map_cons, Spot.waiting,
        walkPending_of_skip (Bool.not_eq_true _ ▸ isLeft) visited, inductionHypothesis]
      simp only [List.length_cons, total_cons]
      dsimp only [Budget.charge] at spent ⊢
      omega
  | case4 budget state spot waiting isLeft after next visited inductionHypothesis =>
      have spent := counts spot budget.charge state
      rw [visited] at spent
      have sameVisits : (after.childrenOf spot.node spot.depth).2.visited = after.visited := by
        rw [Budget.childrenOf_eq]
        rfl
      rw [List.map_append, waiting_spotsFrom, sameVisits] at inductionHypothesis
      rw [List.map_cons, Spot.waiting,
        walkPending_of_into (Bool.not_eq_true _ ▸ isLeft) visited, inductionHypothesis]
      simp only [List.length_cons, total_cons]
      dsimp only [Budget.charge] at spent ⊢
      omega

/-! ## Records of calls -/

/-- A visitor that keeps a record of the nodes and depths that it is called with. -/
def Visitor.recorded (visit : Visitor σ) : Visitor (List (Node × Nat) × σ) :=
  fun node depth budget recorded =>
    ((visit node depth budget recorded.2).1, (visit node depth budget recorded.2).2.1,
      recorded.1 ++ [(node, depth)], (visit node depth budget recorded.2).2.2)

/-- A walk makes these calls, and a record of them changes nothing. -/
theorem walkPending_recorded
    (pending : List Spot)
    (budget : Budget)
    (record : List (Node × Nat))
    (state : σ) :
    walkPending visit.recorded (pending.map Spot.waiting) budget (record, state) =
      ((walkPending visit (pending.map Spot.waiting) budget state).1,
        record ++ (callsPending visit pending budget state).map (·.spot.waiting),
        (walkPending visit (pending.map Spot.waiting) budget state).2) := by
  fun_induction callsPending visit pending budget state generalizing record with
  | case1 budget state =>
      simp
  | case2 budget state spot waiting isSpent =>
      rw [List.map_cons, Spot.waiting, walkPending_of_isExhausted isSpent,
        walkPending_of_isExhausted isSpent]
      simp
  | case3 budget state spot waiting isLeft after next visited inductionHypothesis =>
      have isLeft : budget.isExhausted = false := Bool.not_eq_true _ ▸ isLeft
      have recordedVisit : visit.recorded spot.node spot.depth budget.charge (record, state) =
          (.skip, after, record ++ [(spot.node, spot.depth)], next) := by
        rw [Visitor.recorded, visited]
      rw [List.map_cons, Spot.waiting, walkPending_of_skip isLeft recordedVisit,
        walkPending_of_skip isLeft visited, inductionHypothesis, List.append_assoc]
      rfl
  | case4 budget state spot waiting isLeft after next visited inductionHypothesis =>
      have isLeft : budget.isExhausted = false := Bool.not_eq_true _ ▸ isLeft
      have recordedVisit : visit.recorded spot.node spot.depth budget.charge (record, state) =
          (.into, after, record ++ [(spot.node, spot.depth)], next) := by
        rw [Visitor.recorded, visited]
      rw [List.map_append, waiting_spotsFrom] at inductionHypothesis
      rw [List.map_cons, Spot.waiting, walkPending_of_into isLeft recordedVisit,
        walkPending_of_into isLeft visited, inductionHypothesis, List.append_assoc]
      rfl

end SourceFacts.Syntax
